import VerdaCapi.Controller.Cluster

/-!
# The shape of the creations and deletions

Reference: `reconcileDelete` of `internal/controller/verdamachine_controller.go` and
`internal/controller/verdacluster_controller.go`, `deleteServiceLoadBalancer` of
`internal/controller/verdacluster_servicelb.go`.

Both load balancers are provided in the same way: their keys, an instance that is looked up, or created if
there is none, and what is settled from it (`findOrCreate`, `provideLB`). The three deletions look an
instance up, ask for its deletion (`deleteLive`), wait until it and its volumes are gone, and release the
rest (`teardown`). Each of them is an instance of its shape by definition.
-/

namespace VerdaCapi.Controller

open Remote Go Api Cloud

section

variable {α W : Type}

/-- Look an instance up, and create one if there is none. -/
def findOrCreate (vc : VerdaCluster) (find : ClientM (Except Err (Option Instance)))
    (create : ClientM (Except Err Instance)) (failed : Err → VerdaCluster) :
    ClientM (Except Err Instance × VerdaCluster) := do
  match ← find with
  | .error e => return (.error e, vc)
  | .ok (some inst) => return (.ok inst, vc)
  | .ok none =>
    match ← create with
    | .error e => return (.error e, failed e)
    | .ok inst => return (.ok inst, vc)

/-- Make sure of a load balancer: of its keys and of its instance, from which the rest is settled. -/
def provideLB (lb : LoadBalancer) (cluster : Cluster) (vc : VerdaCluster) (name : String)
    (acquire : Keys → ClientM (Except Err Instance × VerdaCluster))
    (settle : VerdaCluster → Keys → Instance → ClusterM (Except Err α × VerdaCluster)) :
    ClusterM (Except Err α × VerdaCluster) := do
  match ← ensureKeys cluster vc name with
  | .error e => return (.error e, vc)
  | .ok keys =>
    match ← onVerda lb (acquire keys) with
    | (.error e, vc) => return (.error e, vc)
    | (.ok inst, vc) => settle vc keys inst

/-- Ask for the deletion of a live instance, unless it is being deleted or was asked for lately. -/
def deleteLive (inst : Instance) (due : Bool) (deleting : α) (failed : Err → α) (asked early : α) :
    ClientM α := do
  if inst.status = statusDeleting then return deleting
  else if due then
    match ← deleteInstance inst.id with
    | .error e => return failed e
    | .ok _ => return asked
  else return early

/-- Look an instance up, wait until it and its volumes are gone, and release the rest. -/
def teardown (find : ClientM (Except Err (Option Instance))) (live : Instance → ClientM α)
    (release : ClientM α) (failed : Err → α) (wait : α) : ClientM α := do
  match ← find with
  | .error e => return failed e
  | .ok none => release
  | .ok (some inst) =>
    if !instanceGone inst then live inst
    else if inst.status ≠ statusNotFound then
      match ← purgeInstanceVolumes inst.id with
      | .error e => return failed e
      | .ok pending => if pending > 0 then return wait else release
    else release

/-- The deletion of a machine, after its condition was set: the startup script and the OS volume are the
rest. -/
theorem reconcileDelete_eq (now : Time) (vm : VerdaMachine) :
    reconcileDelete now vm =
      (let vm := setInstanceReadyFalse vm "Deleting" "Deleting Verda instance"
       teardown (findInstance vm) (deleteLiveInstance now vm) (releaseMachine vm)
        (fun e => (.error e, vm)) (.ok { requeueAfter := deletePollInterval }, vm)) := rfl

/-- The deletion of a service load balancer, which tells its caller to wait with `true`. -/
theorem deleteServiceLoadBalancer_eq (now : Time) (vc : VerdaCluster) :
    deleteServiceLoadBalancer now vc =
      teardown (findServiceLoadBalancer vc) (deleteLiveServiceLB now vc) (deleteServiceLBScript vc)
        (fun e => (.error e, vc)) (.ok true, vc) := rfl

/-- The deletion of a control plane load balancer: the startup script and the finalizer are the rest. -/
theorem deleteLoadBalancer_eq (now : Time) (vc : VerdaCluster) :
    deleteLoadBalancer now vc =
      teardown (findLoadBalancer vc) (deleteLiveLB now vc) (releaseCluster vc)
        (fun e => (.error e, vc)) (.ok { requeueAfter := deletePollInterval }, vc) := rfl

/-! ## Rules -/

section

variable {find : ClientM (Except Err (Option Instance))} {create : ClientM (Except Err Instance)}
  {vc : VerdaCluster} {failed : Err → VerdaCluster}

theorem obeys_findOrCreate {A : Call → Prop} {P : VerdaCluster → Prop} (hfind : find.Obeys A fun _ => True)
    (hcreate : create.Obeys A fun _ => True) (hvc : P vc) (hfailed : ∀ e, P (failed e)) :
    (findOrCreate vc find create failed).Obeys A fun r => P r.2 := by
  refine hfind.bind ?_
  rintro (e | (_ | inst)) -
  · exact hvc
  · refine hcreate.bind ?_
    rintro (e | inst) -
    · exact hfailed e
    · exact hvc
  · exact hvc

/-- What is known when no instance is found is what the creation starts from. -/
theorem wp_findOrCreate {S : Setting W Call Call.Res} {w : W} {Good : Instance → W → Prop} (hS : S.Lawful)
    (hgood : ∀ inst, S.Stable (Good inst)) {F : W → Prop}
    (hfind : find.wp S (fun r w => (r = .ok none → F w) ∧
      ∀ inst, r = .ok (some inst) → Good inst w) w)
    (hcreate : ∀ w, S.inv w → F w →
      create.wp S (fun r w => ∀ inst, r = .ok inst → Good inst w) w) :
    (findOrCreate vc find create failed).wp S (fun r w => ∀ inst, r.1 = .ok inst → Good inst w) w := by
  have hret : ∀ (r : Except Err Instance × VerdaCluster) (w : W),
      (∀ inst, r.1 = .ok inst → Good inst w) → (Prog.ret r : ClientM _).wp S
        (fun r w => ∀ inst, r.1 = .ok inst → Good inst w) w :=
    fun r w h w' hr hi inst hinst => hgood inst w w' (h inst hinst) hr hi
  refine Prog.wp_bind hS (Prog.wp_mono ?_ hfind)
  rintro (e | (_ | inst)) w hi ⟨hnone, hfound⟩
  · exact hret _ w fun inst h => by cases h
  · refine Prog.wp_bind hS (Prog.wp_mono ?_ (hcreate w hi (hnone rfl)))
    rintro (e | inst) w - hcreated
    · exact hret _ w fun inst h => by cases h
    · exact hret _ w hcreated
  · refine hret _ w fun inst' h => ?_
    cases h
    exact hfound inst rfl

end

variable {find : ClientM (Except Err (Option Instance))} {live : Instance → ClientM α}
  {release : ClientM α} {failed : Err → α} {wait : α}

/-- All that is requested for a live instance is a call of `DeleteInstance`. -/
theorem obeys_deleteLive {A : Call → Prop} {P : α → Prop} {inst : Instance} {due : Bool}
    {deleting asked early : α} (h : (deleteInstance inst.id).Obeys A fun _ => True)
    (hdeleting : P deleting) (hfailed : ∀ e, P (failed e)) (hasked : P asked) (hearly : P early) :
    (deleteLive inst due deleting failed asked early).Obeys A P := by
  unfold deleteLive
  split
  · exact hdeleting
  · split
    · refine h.bind ?_
      rintro (e | -) -
      · exact hfailed e
      · exact hasked
    · exact hearly

theorem deleteLive_requests {A : Call → Prop} {inst : Instance} {due : Bool} {deleting asked early : α}
    (h : (deleteInstance inst.id).Obeys A fun _ => True) :
    (deleteLive inst due deleting failed asked early).Obeys A fun _ => True :=
  obeys_deleteLive h trivial (fun _ => trivial) trivial trivial

/-- A teardown requests no more than its parts do. -/
theorem obeys_teardown {A : Call → Prop} {P : α → Prop} (hfind : find.Obeys A fun _ => True)
    (hlive : ∀ inst, (live inst).Obeys A P)
    (hpurge : ∀ id, (purgeInstanceVolumes id).Obeys A fun _ => True) (hrelease : release.Obeys A P)
    (hfailed : ∀ e, P (failed e)) (hwait : P wait) :
    (teardown find live release failed wait).Obeys A P := by
  refine hfind.bind ?_
  rintro (e | (_ | inst)) -
  · exact hfailed e
  · exact hrelease
  · dsimp only
    split
    · exact hlive inst
    · split
      · refine (hpurge inst.id).bind ?_
        rintro (e | pending) -
        · exact hfailed e
        · dsimp only
          split
          · exact hwait
          · exact hrelease
      · exact hrelease

variable {S : Setting W Call Call.Res} {w : W}

/-- A teardown goes on to the release in three cases: no instance was found, there is none any more under
the recorded ID, or the last of its volumes was purged. What is known in each of them is what the release
starts from. -/
theorem wp_teardown (hS : S.Lawful) {F : Except Err (Option Instance) → W → Prop}
    {U : Except Err Nat → W → Prop} {Q : α → W → Prop} (hfind : find.wp S F w)
    (hlive : ∀ inst w, S.inv w → F (.ok (some inst)) w → (live inst).wp S Q w)
    (hpurge : ∀ inst w, S.inv w → F (.ok (some inst)) w → instanceGone inst = true →
      inst.status ≠ statusNotFound → (purgeInstanceVolumes inst.id).wp S U w)
    (hnone : ∀ w, S.inv w → F (.ok none) w → release.wp S Q w)
    (hmissing : ∀ inst w, S.inv w → F (.ok (some inst)) w → instanceGone inst = true →
      inst.status = statusNotFound → release.wp S Q w)
    (hpurged : ∀ w, S.inv w → U (.ok 0) w → release.wp S Q w)
    (hfailed : ∀ e w, S.inv w → F (.error e) w ∨ U (.error e) w →
      (Prog.ret (failed e) : ClientM α).wp S Q w)
    (hwait : ∀ w, S.inv w → (Prog.ret wait : ClientM α).wp S Q w) :
    (teardown find live release failed wait).wp S Q w := by
  refine Prog.wp_bind hS (Prog.wp_mono ?_ hfind)
  rintro (e | (_ | inst)) w hi hfound
  · exact hfailed e w hi (.inl hfound)
  · exact hnone w hi hfound
  · dsimp only
    split
    · exact hlive inst w hi hfound
    · rename_i hgone
      have hgone : instanceGone inst = true := by simpa using hgone
      split
      · rename_i hstatus
        refine Prog.wp_bind hS (Prog.wp_mono ?_ (hpurge inst w hi hfound hgone hstatus))
        rintro (e | pending) w hi hr
        · exact hfailed e w hi (.inr hr)
        · dsimp only
          split
          · exact hwait w hi
          · rename_i hpending
            obtain rfl := Nat.eq_zero_of_not_pos hpending
            exact hpurged w hi hr
      · rename_i hstatus
        exact hmissing inst w hi hfound hgone (not_not.1 hstatus)

/-- The rule for a fact that nothing breaks, if only the requests matter. -/
theorem wp_teardown_keep (hS : S.Lawful) {P : W → Prop} (hP : S.Keeps P) {G : Instance → W → Prop}
    (hw : P w) (hfind : find.wp S (fun r w => ∀ inst, r = .ok (some inst) → G inst w) w)
    (hlive : ∀ inst w, G inst w → (live inst).wp S (fun _ _ => True) w)
    (hpurge : ∀ id w, (purgeInstanceVolumes id).wp S (fun _ _ => True) w)
    (hrelease : ∀ w, P w → release.wp S (fun _ _ => True) w) :
    (teardown find live release failed wait).wp S (fun _ _ => True) w := by
  refine wp_teardown hS (U := fun _ w => True ∧ P w) (Prog.wp_keep hP hfind hw) ?live ?purge ?none
    ?missing ?purged ?failed ?wait
  case live => exact fun inst w _ h => hlive inst w (h.1 inst rfl)
  case purge => exact fun inst w _ h _ _ => Prog.wp_keep hP (hpurge inst.id w) h.2
  case none => exact fun w _ h => hrelease w h.2
  case missing => exact fun inst w _ h _ _ => hrelease w h.2
  case purged => exact fun w _ h => hrelease w h.2
  case failed => exact fun _ _ _ _ _ _ _ => trivial
  case wait => exact fun _ _ _ _ _ => trivial

end

end VerdaCapi.Controller
