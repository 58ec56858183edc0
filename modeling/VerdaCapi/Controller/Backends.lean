import VerdaCapi.Controller.ClusterRules

/-!
# `LoadBalancerReady` and the backends that are applied

A pass pushes the addresses of the control plane machines to the load balancer when they differ from
`status.loadBalancer.backends`. That field says what was pushed last only if the patch after the push
was stored.

`ready_means_applied`: a pass that sets `LoadBalancerReady` leaves the addresses it computed applied on
the load balancer, in every run in which its lookup finds the stored backends applied. In
`ready_not_applied` a patch is lost, the machines change back, and the pass takes the stored backends
for the applied ones.
-/

namespace VerdaCapi.Controller

open Remote Go Api Cloud Webhook

/-- The load balancer that a lookup of the pass finds: the recorded instance, or else one that carries
the tag. -/
def IsLoadBalancer (vc : VerdaCluster) (i : Sdk.Instance) : Prop :=
  (vc.status.loadBalancer.instanceID ≠ "" → i.id = vc.status.loadBalancer.instanceID) ∧
    (vc.status.loadBalancer.instanceID = "" → tagOf i tagLoadBalancer = clusterTagValue vc)

instance (vc : VerdaCluster) (i : Sdk.Instance) : Decidable (IsLoadBalancer vc i) :=
  inferInstanceAs (Decidable (_ ∧ _))

/-- The backends last applied on the running load balancer are the stored ones. -/
def StoredApplied (vc : VerdaCluster) (a : AccountID) (w : ClusterWorld) : Prop :=
  ∀ i ∈ (w.cloud.account a).instances.rows, IsLoadBalancer vc i → i.status = statusRunning →
    w.applied a i.id = vc.status.loadBalancer.backends

instance (vc : VerdaCluster) (a : AccountID) (w : ClusterWorld) : Decidable (StoredApplied vc a w) :=
  inferInstanceAs (Decidable (∀ i ∈ (w.cloud.account a).instances.rows, _))

/-- The request looks up the control plane load balancer. -/
def looksUpLB : ScopedCall → Bool
  | (_, .verda .controlPlane c) => c.method == .getInstance || c.method == .findInstanceByTag
  | _ => false

/-- Whenever a pass over a cluster that is not being deleted looks its load balancer up, the stored
backends are the applied ones. -/
abbrev knowsApplied : ClusterConds where
  call _ vc w o := looksUpLB o = true → vc.metadata.deletionTimestamp = none → StoredApplied vc o.1 w

/-- The pass has run `reconcileLoadBalancer` without error, and `LoadBalancerReady` is true. -/
def SetsReady (vc : VerdaCluster) (r : Reply × VerdaCluster) : Prop :=
  vc.loadBalancerEnabled = true ∧ (∃ result, r.1 = .ok result) ∧
    Condition.isTrue r.2.status.conditions.loadBalancerReady = true

/-- A pass over `vc` whose `reconcileLoadBalancer` ended with `r` computed these control plane
addresses. -/
structure Computed (vc : VerdaCluster) (r : Reply × VerdaCluster) (addresses : List String) : Prop where
  runs : ∃ scripts cluster tr, (reconcileLoadBalancer scripts cluster vc).Runs tr r
  addresses : ∀ scripts cluster tr, (reconcileLoadBalancer scripts cluster vc).Runs tr r →
    ∃ tr₁ tr₂ tr₃, tr = tr₁ ++ (tr₂ ++ tr₃) ∧ (controlPlaneAddresses cluster).Runs tr₂ (.ok addresses)

/-! ## What a pass computes -/

section

variable {scripts : LBScripts} {cluster : Cluster} {vc vc₁ : VerdaCluster} {keys : Keys}
  {inst : Instance} {ip : String} {r : Reply × VerdaCluster} {result : Result} {tr : ClusterAnswers}

/-- The conditions that are not true. -/
theorem not_ready_setLBNotReady (vc : VerdaCluster) (reason message : String) :
    Condition.isTrue (setLBNotReady vc reason message).status.conditions.loadBalancerReady = false := by
  unfold setLBNotReady
  dsimp only
  split <;> rfl

/-- When the pass sets the condition, the backends it returns are the addresses it computed. -/
theorem serveLoadBalancer_computes
    (h : (serveLoadBalancer cluster vc keys ip).Runs tr (.ok result, vc₁))
    (hready : Condition.isTrue vc₁.status.conditions.loadBalancerReady = true) :
    ∃ tr₂ tr₃, tr = tr₂ ++ tr₃ ∧
      (controlPlaneAddresses cluster).Runs tr₂ (.ok vc₁.status.loadBalancer.backends) := by
  rcases Prog.runs_bind_iff.1 h with ⟨tr₂, computed, tr₃, rfl, hcomputed, h₃⟩
  refine ⟨tr₂, tr₃, rfl, ?_⟩
  rcases computed with e | backends
  · rcases Prog.runs_ret_iff.1 h₃ with ⟨-, hr⟩
    cases hr
  · dsimp only at h₃
    split at h₃
    · rcases Prog.runs_bind_iff.1 h₃ with ⟨tr₄, pushed, tr₅, -, -, h₅⟩
      rcases pushed with e | u
      · rcases Prog.runs_ret_iff.1 h₅ with ⟨-, hr⟩
        cases hr
        have hnot := not_ready_setLBNotReady (setFailureDomains (setEndpointReady
          { withLoadBalancer vc fun s => { s with address := ip } with
            spec := { vc.spec with controlPlaneEndpoint := { host := ip, port := loadBalancerPort } } }))
          "BackendUpdateFailed" e.msg
        exact absurd (hready.symm.trans hnot) (by decide)
      · rcases Prog.runs_ret_iff.1 h₅ with ⟨-, hr⟩
        cases hr
        exact hcomputed
    · rename_i hsame
      rcases Prog.runs_ret_iff.1 h₃ with ⟨-, hr⟩
      cases hr
      rw [not_not.1 hsame] at hcomputed
      exact hcomputed

theorem reconcileLoadBalancer_computes
    (h : (reconcileLoadBalancer scripts cluster vc).Runs tr (.ok result, vc₁))
    (hready : Condition.isTrue vc₁.status.conditions.loadBalancerReady = true) :
    ∃ tr₁ tr₂ tr₃, tr = tr₁ ++ (tr₂ ++ tr₃) ∧
      (controlPlaneAddresses cluster).Runs tr₂ (.ok vc₁.status.loadBalancer.backends) := by
  rcases Prog.runs_bind_iff.1 h with ⟨t₁, keys?, t₂, rfl, -, h₂⟩
  rcases keys? with e | keys
  · rcases Prog.runs_ret_iff.1 h₂ with ⟨-, hr⟩
    cases hr
  · rcases Prog.runs_bind_iff.1 h₂ with ⟨t₃, ⟨acquired, vc'⟩, t₄, rfl, -, h₄⟩
    rcases acquired with e | inst
    · rcases Prog.runs_ret_iff.1 h₄ with ⟨-, hr⟩
      cases hr
    · simp only [settleLoadBalancer] at h₄
      split at h₄
      · rcases serveLoadBalancer_computes h₄ hready with ⟨tr₂, tr₃, rfl, hruns⟩
        exact ⟨t₁ ++ t₃, tr₂, tr₃, by simp, hruns⟩
      · split at h₄
        · rcases Prog.runs_ret_iff.1 h₄ with ⟨-, hr⟩
          cases hr
          exact absurd (hready.symm.trans (not_ready_setLBNotReady _ "InstanceFailed" _)) (by decide)
        · rcases Prog.runs_ret_iff.1 h₄ with ⟨-, hr⟩
          cases hr
          exact absurd (hready.symm.trans (not_ready_setLBNotReady _ "InstanceProvisioning" _)) (by decide)

end

/-! ## The invariant -/

/-- What is known of the control plane load balancer after a pass: without a recorded instance there are
no recorded backends. -/
def NoStrayBackends (vc : VerdaCluster) : Prop :=
  (lbStatus vc .controlPlane).instanceID = "" → (lbStatus vc .controlPlane).backends = []

def tracksBackends (addressOf : AccountID → String → String) (ns name : String) :
    Invariant (clusterSystem addressOf ns name) knowsApplied where
  inv w := ∀ b, Addressed addressOf b (w.cloud.account b) ∧
    ∀ i ∈ (w.cloud.account b).instances.rows, i.id ≠ ""
  loc _ vc _ := NoStrayBackends vc
  touch _ := ClusterTouched
  rely _ w w' := w'.applied = w.applied
  guar _ _ _ _ := True
  done _ vc out w := ∀ r ∈ out.endpoint, SetsReady vc r →
    w.applied (clusterAccount vc) r.2.status.loadBalancer.instanceID = r.2.status.loadBalancer.backends ∧
      ∃ scripts cluster tr, (reconcileLoadBalancer scripts cluster vc).Runs tr r

section

variable {addressOf : AccountID → String → String} {ns name id : String} {vc vc₁ : VerdaCluster}
  {a : AccountID} {w w' : ClusterWorld} {ch : ClusterChoice} {bs : List String} {α : Type}

theorem tracksBackends_answer {o : ScopedCall} {x : ScopedCall.Res o}
    (hinv : (tracksBackends addressOf ns name).inv w)
    (hans : clusterAnswer addressOf ch w o = some (x, w')) : (tracksBackends addressOf ns name).inv w' := by
  rcases o with ⟨a, c⟩
  rcases verda_or_notVerda c with ⟨lb, c', rfl⟩ | hc
  · rcases clusterAnswer_verda hans with ⟨ch', hans', haddr, -⟩
    intro b
    refine ⟨?_, fun i' hi' => ?_⟩
    · by_cases hb : b = a
      · rw [hb]
        exact haddr
      · rw [answer_account hans' hb]
        exact (hinv b).1
    · rcases answer_instances hans' b i' hi' with ⟨i, hi, hkeep⟩ | ⟨-, req, vs, -, hc, -⟩
      · rw [hkeep.id]
        exact (hinv b).2 i hi
      · exact (hc.unused i'.id List.mem_cons_self).1
  · intro b
    rw [(clusterAnswer_other hc hans).1]
    exact hinv b

/-- The setting of a pass, with the client of one account. -/
abbrev backendsAt (addressOf : AccountID → String → String) (ns name : String) (vc : VerdaCluster)
    (a : AccountID) : Setting ClusterWorld ClusterCall ClusterCall.Res :=
  atClient ((tracksBackends addressOf ns name).setting () vc) a

theorem backends_lawful : (backendsAt addressOf ns name vc a).Lawful :=
  Setting.Lawful.atClient ⟨fun _ => rfl, fun h h' => Eq.trans h' h⟩

/-- These backends are applied on the instance. -/
def AppliedOn (a : AccountID) (id : String) (bs : List String) (w : ClusterWorld) : Prop :=
  w.applied a id = bs

theorem appliedOn_stable : (backendsAt addressOf ns name vc a).Stable (AppliedOn a id bs) := by
  intro w w' h hr _
  have hr : w'.applied = w.applied := hr
  rw [AppliedOn, hr]
  exact h

/-- Requests that do not concern the backends. -/
theorem backends_frame {p : ClusterM α} {A : ClusterCall → Prop} {R : α → Prop}
    (Q : (AccountID → String → List String) → Prop) (hp : p.Obeys A R)
    (hA : ∀ c, A c → (∀ c', c ≠ .verda .controlPlane c') ∧
      ∀ addr keys backends, c ≠ .updateBackends addr keys backends)
    (hw : Q w.applied) :
    p.wp (backendsAt addressOf ns name vc a) (fun r w => Q w.applied ∧ R r) w := by
  refine Prog.wp_frame (P := fun w : ClusterWorld => Q w.applied) hp ?_ (fun _ _ _ _ _ => trivial) ?_ hw
  · intro w w' h hr _
    have hr : w'.applied = w.applied := hr
    rw [hr]
    exact h
  · intro w c x w' hc hw _ hs _
    rcases atClient_step.1 hs with ⟨-, ch, hans⟩
    have heq : w'.applied = w.applied := by
      rcases verda_or_notVerda c with ⟨lb, c', rfl⟩ | hnot
      · rcases clusterAnswer_verda hans with ⟨ch', -, -, happlied, -⟩
        cases lb with
        | controlPlane => exact absurd rfl ((hA _ hc).1 c')
        | service => exact happlied
      · exact (clusterAnswer_other hnot hans).2.1 (hA c hc).2
    rw [heq]
    exact hw

/-! ## Acquiring the load balancer -/

/-- What is known of an instance that was found or created: if it serves, then at its own address, and
with the stored backends applied. -/
structure Handed (addressOf : AccountID → String → String) (vc : VerdaCluster) (a : AccountID)
    (inst : Instance) (w : ClusterWorld) : Prop where
  id : inst.id ≠ ""
  address : Serves inst → addressOf a inst.id = inst.ip
  applied : Serves inst → AppliedOn a inst.id vc.status.loadBalancer.backends w

theorem handed_stable {inst : Instance} :
    (backendsAt addressOf ns name vc a).Stable (Handed addressOf vc a inst) :=
  fun w w' h hr hi => ⟨h.id, h.address, fun hs => appliedOn_stable w w' (h.applied hs) hr hi⟩

/-- A step of the client, for the control plane load balancer. -/
theorem backends_step {c : Call} {x : Call.Res c}
    (hs : (atVerda (backendsAt addressOf ns name vc a) .controlPlane).step w c x w') :
    knowsApplied.call () vc w (a, .verda .controlPlane c) ∧
      ∃ ch, clusterAnswer addressOf ch w (a, .verda .controlPlane c) = some (x, w') :=
  atClient_step.1 (atVerda_step.1 hs)

/-- An instance that a lookup finds. -/
theorem handed_found {i : Sdk.Instance} (hinv : (tracksBackends addressOf ns name).inv w)
    (hstored : StoredApplied vc a w) (happlied : w'.applied = w.applied)
    (hi : i ∈ (w.cloud.account a).instances.rows) (hlb : IsLoadBalancer vc i) :
    Handed addressOf vc a (toInstance i) w' := by
  refine ⟨(hinv a).2 i hi, fun hserves => (hinv a).1.ip hi hserves.2, fun hserves => ?_⟩
  rw [AppliedOn, happlied]
  exact hstored i hi hlb hserves.1

theorem backends_find (hdel : vc.metadata.deletionTimestamp = none) (w : ClusterWorld) :
    (findLoadBalancer vc).wp (atVerda (backendsAt addressOf ns name vc a) .controlPlane)
      (fun r w => ∀ inst, r = .ok (some inst) → Handed addressOf vc a inst w) w := by
  have hread : ∀ {c : Call} {x : Call.Res c} {w w' : ClusterWorld}, (∀ req, c.op ≠ .instancesCreate req) →
      (atVerda (backendsAt addressOf ns name vc a) .controlPlane).step w c x w' →
      knowsApplied.call () vc w (a, .verda .controlPlane c) ∧ w'.applied = w.applied ∧
        ∃ ch, answer .controlPlane ch w.cloud (a, c) = some (x, w'.cloud) := by
    intro c x w w' hcreate hs
    rcases backends_step hs with ⟨hcond, ch, hans⟩
    rcases clusterAnswer_verda hans with ⟨ch', hans', -, happlied, -⟩
    rw [started_eq hcreate] at happlied
    exact ⟨hcond, happlied, ch', hans'⟩
  rw [findLoadBalancer_eq]
  refine wp_lookupInstance (fun r w w' h hr hi inst hinst => handed_stable w w' (h inst hinst) hr hi)
    (fun _ _ _ _ => trivial) (fun hne w x w' _ hi hs inst hinst => ?_)
    fun hnone w x w' _ hi hs inst hinst => ?_
  · rcases hread (fun req h => (by cases h)) hs with ⟨hcond, happlied, ch, hans⟩
    rcases pickByID_eq_some hinst with ⟨i, rfl, rfl⟩ | rfl
    · rcases answer_fetched hans with ⟨hmem, hid⟩
      refine handed_found hi.1 (hcond rfl hdel) happlied hmem ⟨fun _ => hid, fun hnone => ?_⟩
      exact absurd hnone hne
    · -- a record that is made up does not serve
      have hnot : ¬ Serves { id := vc.status.loadBalancer.instanceID, status := statusNotFound } := by
        rintro ⟨hrunning, -⟩
        exact absurd (show statusNotFound = statusRunning from hrunning) (by decide)
      exact ⟨hne, fun h => absurd h hnot, fun h => absurd h hnot⟩
  · rcases hread (fun req h => (by cases h)) hs with ⟨hcond, happlied, ch, hans⟩
    rcases answer_instancesGet hans with ⟨-, rfl | ⟨e, rfl⟩⟩
    · have hscan : scan (wantsTag tagLoadBalancer (clusterTagValue vc)) none
          (w.cloud.account a).instances.rows = some inst := by
        simpa [pickLoadBalancer] using hinst
      rcases scan_eq_some hscan with ⟨i, hmem, hwant, rfl⟩
      refine handed_found hi.1 (hcond rfl hdel) happlied hmem ⟨fun h => absurd hnone h, fun _ => ?_⟩
      exact wantsTag_iff.1 hwant
    · cases hinst

/-- An instance that is created has no backends, and none are stored. -/
theorem handed_created {req : Sdk.CreateInstanceRequest} {i : Sdk.Instance} {sid : String}
    (hnone : vc.status.loadBalancer.instanceID = "") (hloc : NoStrayBackends vc)
    (hans : clusterAnswer addressOf ch w
      (a, .verda .controlPlane ⟨.createInstance, .instancesCreate req⟩) = some (.ok i, w')) :
    Handed addressOf vc a { toInstance i with startupScriptID := sid } w' := by
  have hstored : vc.status.loadBalancer.backends = [] := hloc hnone
  rcases clusterAnswer_verda hans with ⟨ch', hans', haddr, happlied, -⟩
  rcases answer_created hans' with ⟨vs, hc, hw⟩
  have hmem : i ∈ (w'.cloud.account a).instances.rows := by
    rw [hw]
    exact mem_create_instances.2 (.inl ⟨rfl, rfl⟩)
  refine ⟨(hc.unused i.id List.mem_cons_self).1, fun hserves => haddr.ip hmem hserves.2, fun _ => ?_⟩
  show w'.applied a i.id = _
  rw [happlied, createdID_eq hans', hstored]
  simp [ClusterWorld.started]

theorem backends_acquire (scripts : LBScripts) (cluster : Cluster) (keys : Keys)
    (hdel : vc.metadata.deletionTimestamp = none) (w : ClusterWorld) :
    (acquireLoadBalancer scripts cluster vc keys).wp
      (atVerda (backendsAt addressOf ns name vc a) .controlPlane)
      (fun r w => ∀ inst, r.1 = .ok inst → Handed addressOf vc a inst w) w := by
  have hS : (atVerda (backendsAt addressOf ns name vc a) .controlPlane).Lawful :=
    Setting.Lawful.atVerda backends_lawful
  refine wp_findOrCreate hS (fun _ => handed_stable) (Prog.wp_mono (fun _ _ _ h => ⟨h.2, h.1⟩)
    (Prog.wp_and_obeys (find_none .controlPlane vc) (backends_find hdel w))) fun w _ hnone => ?_
  refine wp_createInstance (P := fun _ => True) hS (fun _ _ _ _ _ => trivial)
    (fun r w w' h hr hi inst hinst => handed_stable w w' (h inst hinst) hr hi)
    (fun e w inst hinst => by cases hinst) (fun _ _ _ _ _ => ⟨trivial, fun _ _ _ _ _ => trivial⟩) ?_ trivial
  intro sid w _ hi
  refine ⟨trivial, fun i w' hs _ sid' inst hinst => ?_⟩
  cases hinst
  rcases backends_step hs with ⟨-, ch, hans⟩
  exact handed_created hnone hi.2 hans

/-! ## Serving -/

/-- What is known when `reconcileLoadBalancer` returns. -/
def InSync (a : AccountID) (r : Reply × VerdaCluster) (w : ClusterWorld) : Prop :=
  (∃ result, r.1 = .ok result) → Condition.isTrue r.2.status.conditions.loadBalancerReady = true →
    AppliedOn a r.2.status.loadBalancer.instanceID r.2.status.loadBalancer.backends w

theorem inSync_stable {r : Reply × VerdaCluster} : (backendsAt addressOf ns name vc a).Stable (InSync a r) :=
  fun w w' h hr hi hok hready => appliedOn_stable w w' (h hok hready) hr hi

/-- The addresses are pushed, or are the ones that are applied. -/
theorem backends_serve (cluster : Cluster) (keys : Keys) (ip : String)
    (haddr : addressOf a vc₁.status.loadBalancer.instanceID = ip)
    (hw : AppliedOn a vc₁.status.loadBalancer.instanceID vc₁.status.loadBalancer.backends w) :
    (serveLoadBalancer cluster vc₁ keys ip).wp (backendsAt addressOf ns name vc a) (InSync a) w := by
  have hret : ∀ (r : Reply × VerdaCluster) (w : ClusterWorld), InSync a r w →
      (Prog.ret r : ClusterM _).wp (backendsAt addressOf ns name vc a) (InSync a) w :=
    fun r w h => Prog.wp_ret_stable inSync_stable h
  refine Prog.wp_bind backends_lawful (Prog.wp_mono ?_ (backends_frame (fun applied =>
      applied a vc₁.status.loadBalancer.instanceID = vc₁.status.loadBalancer.backends)
    (controlPlaneAddresses_reads cluster) (fun c hc => ?_) hw))
  · rintro (e | backends) w - ⟨hw, -⟩
    · exact hret _ w fun hok => by
        rcases hok with ⟨_, hok⟩
        cases hok
    · dsimp only
      split
      · refine Prog.wp_call_any fun w _ =>
          ⟨trivial, fun x w' hs _ => ?_⟩
        rcases atClient_step.1 hs with ⟨-, ch, hans⟩
        rcases x with e | u
        · refine hret _ w' fun _ hready => ?_
          exact absurd (hready.symm.trans (not_ready_setLBNotReady _ "BackendUpdateFailed" _)) (by decide)
        · refine hret _ w' fun _ _ => ?_
          rw [AppliedOn, clusterAnswer_updateBackends hans]
          exact if_pos haddr
      · exact hret _ w fun _ _ => hw
  · cases c <;> first | exact hc.elim | exact ⟨fun _ h => (by cases h), fun _ _ _ h => (by cases h)⟩

/-- `settleLoadBalancer` records the instance, and serves it with what is applied on it. -/
theorem backends_settle (cluster : Cluster) (keys : Keys) {inst : Instance}
    (hstored : vc₁.status.loadBalancer = vc.status.loadBalancer) (hw : Handed addressOf vc a inst w) :
    (settleLoadBalancer cluster vc₁ keys inst).wp (backendsAt addressOf ns name vc a) (InSync a) w := by
  unfold settleLoadBalancer
  dsimp only
  split
  · rename_i hserves
    refine backends_serve cluster keys inst.ip (hw.address hserves) ?_
    show AppliedOn a inst.id vc₁.status.loadBalancer.backends w
    rw [hstored]
    exact hw.applied hserves
  · split
    · refine Prog.wp_ret_stable inSync_stable fun _ hready => ?_
      exact absurd (hready.symm.trans (not_ready_setLBNotReady _ "InstanceFailed" _)) (by decide)
    · refine Prog.wp_ret_stable inSync_stable fun _ hready => ?_
      exact absurd (hready.symm.trans (not_ready_setLBNotReady _ "InstanceProvisioning" _)) (by decide)

/-- A pass with the load balancer enabled ends in sync, and with backends only if with an instance. -/
theorem backends_reconcile (scripts : LBScripts) (cluster : Cluster)
    (hdel : vc.metadata.deletionTimestamp = none) (w : ClusterWorld) :
    (reconcileLoadBalancer scripts cluster vc).wp (backendsAt addressOf ns name vc a)
      (fun r w => InSync a r w ∧ NoStrayBackends r.2) w := by
  have hfailed : ∀ (e : Err) (vc₁ : VerdaCluster) (w : ClusterWorld), NoStrayBackends vc₁ →
      (Prog.ret (.error e, vc₁) : ClusterM (Reply × VerdaCluster)).wp (backendsAt addressOf ns name vc a)
        (fun r w => InSync a r w ∧ NoStrayBackends r.2) w := by
    intro e vc₁ w hvc₁ w' _ _
    refine ⟨fun hok => ?_, hvc₁⟩
    rcases hok with ⟨_, hok⟩
    cases hok
  refine Prog.wp_bind backends_lawful (Prog.wp_mono ?_
    (Prog.wp_of_obeys (ensureKeys_aside .controlPlane cluster vc _) fun _ _ _ _ => trivial))
  rintro (e | keys) w hi -
  · exact hfailed e vc w hi.2
  · refine Prog.wp_bind backends_lawful (Prog.wp_mono ?_ (wp_onVerda (Prog.wp_and_obeys
      (acquireLoadBalancer_keeps scripts cluster vc keys) (backends_acquire scripts cluster keys hdel w))))
    rintro ⟨e | inst, vc₁⟩ w hi ⟨hhanded, hvc₁⟩
    · refine hfailed e vc₁ w ?_
      rw [NoStrayBackends, hvc₁.lbStatus]
      exact hi.2
    · refine Prog.wp_mono ?_ (Prog.wp_and_obeys (settleLoadBalancer_settles cluster vc₁ keys inst)
        (backends_settle cluster keys (hvc₁.lbStatus .controlPlane) (hhanded inst rfl)))
      rintro r w - ⟨hsync, hs⟩
      refine ⟨hsync, fun hnone => ?_⟩
      rw [hs.instanceID] at hnone
      exact absurd hnone (hhanded inst rfl).id

/-! ## Whole passes -/

theorem madeFor_service {A : Call → Prop} {c : ClusterCall} (h : MadeFor .service A c) :
    (∀ c', c ≠ .verda .controlPlane c') ∧
      ∀ addr keys backends, c ≠ .updateBackends addr keys backends := by
  refine ⟨?_, ?_⟩
  · rintro c' rfl
    exact absurd h.1 (by decide)
  · rintro addr keys backends rfl
    exact absurd (show LoadBalancer.service = .controlPlane from h) (by decide)

theorem noStray_of_lbStatus (h : NoStrayBackends vc)
    (hkept : (lbStatus vc₁ .controlPlane).instanceID = (lbStatus vc .controlPlane).instanceID ∧
      (lbStatus vc₁ .controlPlane).backends = (lbStatus vc .controlPlane).backends) :
    NoStrayBackends vc₁ := by
  rw [NoStrayBackends, hkept.1, hkept.2]
  exact h

/-- What the endpoint part of a normal pass ends with. -/
theorem backends_endpoint (scripts : LBScripts) (cluster : Cluster)
    (hdel : vc.metadata.deletionTimestamp = none) (w : ClusterWorld) :
    (reconcileEndpoint scripts cluster vc).wp (backendsAt addressOf ns name vc a)
      (fun r w => NoStrayBackends r.2 ∧ (vc.loadBalancerEnabled = true → InSync a r w ∧
        ∃ tr, (reconcileLoadBalancer scripts cluster vc).Runs tr r)) w := by
  unfold reconcileEndpoint
  split
  · refine Prog.wp_mono ?_ (Prog.wp_and_runs (backends_reconcile scripts cluster hdel w))
    rintro r w - ⟨⟨hsync, hstray⟩, hruns⟩
    exact ⟨hstray, fun _ => ⟨hsync, hruns⟩⟩
  · rename_i hoff
    have hkept : ∀ (reply : Reply) {vc₁ : VerdaCluster}, vc₁.status.loadBalancer = vc.status.loadBalancer →
        (Prog.ret (reply, vc₁) : ClusterM (Reply × VerdaCluster)).wp (backendsAt addressOf ns name vc a)
          (fun r w => NoStrayBackends r.2 ∧ (vc.loadBalancerEnabled = true → InSync a r w ∧
            ∃ tr, (reconcileLoadBalancer scripts cluster vc).Runs tr r)) w := by
      intro reply vc₁ heq w' _ hi
      refine ⟨noStray_of_lbStatus hi.2 ⟨congrArg _ heq, congrArg _ heq⟩, fun hon => absurd hon hoff⟩
    dsimp only
    split <;> split <;> exact hkept _ rfl

/-- What a pass ends with. -/
def EndsInSync (vc : VerdaCluster) (out : ClusterOutcome) (w : ClusterWorld) : Prop :=
  (∀ sent ∈ out.sent, NoStrayBackends sent) ∧ ∀ r ∈ out.endpoint, vc.loadBalancerEnabled = true →
    InSync (clusterAccount vc) r w ∧
      ∃ scripts cluster tr, (reconcileLoadBalancer scripts cluster vc).Runs tr r

theorem noStray_patched {reply : Reply} {endpoint : Option (Reply × VerdaCluster)}
    (h : NoStrayBackends vc₁) : ∀ sent ∈ (clusterPatched (reply, vc₁) endpoint).sent,
      NoStrayBackends sent := by
  intro sent hs
  cases hs
  have hpatch := (patchVerdaCluster_reconditions vc₁).lbStatus .controlPlane
  exact noStray_of_lbStatus h ⟨congrArg _ hpatch, congrArg _ hpatch⟩

theorem backends_startClusterPass (inp : ClusterInput) (w : ClusterWorld) :
    (startClusterPass inp vc).wp ((tracksBackends addressOf ns name).setting () vc) (EndsInSync vc) w := by
  have hS : ((tracksBackends addressOf ns name).setting () vc).Lawful :=
    ⟨fun _ => rfl, fun h h' => Eq.trans h' h⟩
  refine startClusterPass_cases (P := fun pass => pass.wp _ (EndsInSync vc) w) inp vc ?_ ?_ ?_
  · intro out hend hsent w' _ hi
    refine ⟨fun sent hs => ?_, fun r hr => ?_⟩
    · have hkept := (hsent sent hs).2 .controlPlane
      exact noStray_of_lbStatus hi.2 ⟨congrArg _ hkept, congrArg _ hkept⟩
    · rw [hend] at hr
      cases hr
  · intro _
    refine wp_runClusterDelete (Prog.wp_mono ?_
      (Prog.wp_of_obeys (reconcileDelete_obeys inp.now vc) fun _ _ _ _ => trivial))
    rintro r w hi ⟨-, hkept⟩
    refine ⟨noStray_patched (noStray_of_lbStatus hi.2 (hkept .controlPlane)), fun r hr => ?_⟩
    cases hr
  · intro cluster hdel
    refine wp_runClusterNormal hS (Prog.wp_mono ?_ (backends_endpoint inp.scripts cluster hdel w))
    rintro endpoint w - ⟨hstray, hsync⟩
    refine Prog.wp_mono ?_ (backends_frame (fun applied => vc.loadBalancerEnabled = true →
      (∃ result, endpoint.1 = .ok result) →
      Condition.isTrue endpoint.2.status.conditions.loadBalancerReady = true →
      applied (clusterAccount vc) endpoint.2.status.loadBalancer.instanceID =
        endpoint.2.status.loadBalancer.backends)
      (reconcileService_obeys (A := fun _ => True) inp.scripts inp.now cluster endpoint
        (fun _ => Prog.obeys_true _) fun _ _ => trivial) (fun _ => madeFor_service)
      fun hon => (hsync hon).1)
    rintro r w - ⟨happlied, -, hkept⟩
    refine ⟨noStray_patched (noStray_of_lbStatus hstray ⟨congrArg _ hkept, congrArg _ hkept⟩), ?_⟩
    intro r' hr' hon
    cases hr'
    exact ⟨happlied hon, inp.scripts, cluster, (hsync hon).2⟩

theorem tracksBackends_valid : (tracksBackends addressOf ns name).Valid where
  refl _ _ := rfl
  trans _ {_ _ _} h h' := Eq.trans h' h
  drift {d w w'} hinv hd := by
    refine ⟨fun b => ⟨clusterDrift_addressed hd (fun b => (hinv b).1) b, fun i' hi' => ?_⟩,
      fun _ => ⟨fun _ => (clusterDrift_cloud hd).1, fun _ h => h⟩⟩
    rcases (clusterDrift_instances hd).2 b i' hi' with ⟨i, hi, hkeep⟩ | ⟨hunused, -⟩
    · rw [hkeep.id]
      exact (hinv b).2 i hi
    · exact (hunused i'.id (List.mem_singleton_self _)).1
  edit _ he := editCluster_touched he
  touched _ hloc h :=
    have hstatus := ClusterTouched.lbStatus h .controlPlane
    noStray_of_lbStatus hloc ⟨congrArg _ hstatus, congrArg _ hstatus⟩
  merge h _ := (ClusterTouched.persist h _ _ _).imp fun _ hq => ⟨trivial, hq.2⟩
  call hinv hloc _ _ hans := ⟨tracksBackends_answer hinv hans, hloc, fun j hj => absurd rfl hj⟩
  pass {i inp vc w} _ _ _ := by
    refine Invariant.wp_persist (Prog.wp_mono ?_ (backends_startClusterPass inp w))
    rintro out w hi ⟨hsent, hsync⟩
    refine ⟨fun r hr hready => ?_, fun p => ?_⟩
    · rcases hready with ⟨hon, hok, hready⟩
      exact ⟨(hsync r hr hon).1 hok hready, (hsync r hr hon).2⟩
    · rcases persistCluster_lbStatus p vc vc out .controlPlane with heq | ⟨sent, hs, heq⟩
      · exact noStray_of_lbStatus hi.2 ⟨congrArg _ heq, congrArg _ heq⟩
      · exact noStray_of_lbStatus (hsent sent hs) ⟨congrArg _ heq, congrArg _ heq⟩

end

/-- **`LoadBalancerReady` means that haproxy is in sync**: when a pass has set the condition, the
backends last applied on its load balancer are the control plane addresses it computed, in every run in
which lookups of the load balancer find the stored backends applied. -/
theorem ready_means_applied {addressOf : AccountID → String → String} {ns name : String}
    {s₀ s : ClusterState} (h₀ : ClusterInitial addressOf ns name s₀)
    (h : Reach (clusterSystem addressOf ns name) knowsApplied s₀ s) {out : ClusterOutcome}
    {r : Reply × VerdaCluster} (hrun : s.run () = some (.ret out)) (hend : out.endpoint = some r)
    (hready : SetsReady (s.seen ()) r) :
    Computed (s.seen ()) r
      (s.world.applied (clusterAccount (s.seen ())) r.2.status.loadBalancer.instanceID) := by
  have hholds : (tracksBackends addressOf ns name).Holds s := by
    refine Invariant.sound tracksBackends_valid (fun b => ⟨h₀.addressed b, h₀.ids b⟩)
      (fun _ _ => congrArg (fun status => status.loadBalancer.backends) h₀.status)
      (fun _ => h₀.idle) h
  rcases hholds.done tracksBackends_valid hrun r hend hready with ⟨happlied, hruns⟩
  refine ⟨hruns, fun scripts cluster tr htr => ?_⟩
  rcases r with ⟨reply, vc₁⟩
  obtain ⟨result, rfl⟩ := hready.2.1
  rw [happlied]
  exact reconcileLoadBalancer_computes htr hready.2.2

/-! ## Runs of the sample cluster -/

/-- A control plane machine with this address. -/
def controlPlaneMachine (address : String) : VerdaMachine where
  metadata := { ns := "default", name := "cp", labels := [("cluster.x-k8s.io/control-plane", "")] }
  spec := { instanceType := "CPU.4V.16G", image := "ubuntu-24.04" }
  status := { addresses := [{ type := .externalIP, address := address }] }

/-- The machines are listed. -/
def listed (vms : List VerdaMachine) : ClusterMove :=
  .answer () (.reply (.listVerdaMachines "default" "c0") (.ok vms))

/-- A pass that finds the recorded load balancer, up to the listing of the machines. -/
def looksUp (vms : List VerdaMachine) : List ClusterMove :=
  [.start () clusterInput, keysFound "c0-lb-ssh"] ++ verdaAccepts 1 ++ [listed vms]

/-- The load balancer is created and served without machines; then one appears and is pushed. -/
def createAndPush (stored : Patch) : List ClusterMove :=
  createsLB .controlPlane "lb1" "running" ++ [listed [], .finish () {}] ++
    looksUp [controlPlaneMachine "10.0.0.5"] ++ [.answer () .accept, .finish () stored]

/-- A pass has returned, has set the condition, and these backends are applied. -/
def readyWith (applied : List String) (s : ClusterState) : Bool :=
  decide ((s.seen ()).loadBalancerEnabled = true) &&
    ((returnedCluster s).any fun out => out.endpoint.any fun r => r.1.isOk &&
      Condition.isTrue r.2.status.conditions.loadBalancerReady &&
      s.world.applied (clusterAccount (s.seen ())) r.2.status.loadBalancer.instanceID == applied)

theorem readyWith_iff {applied : List String} {s : ClusterState} (h : readyWith applied s = true) :
    ∃ out r, s.run () = some (.ret out) ∧ out.endpoint = some r ∧ SetsReady (s.seen ()) r ∧
      s.world.applied (clusterAccount (s.seen ())) r.2.status.loadBalancer.instanceID = applied := by
  rcases Bool.and_eq_true_iff.1 h with ⟨hon, h⟩
  rcases returnedCluster_any h with ⟨out, hrun, h⟩
  cases hend : out.endpoint with
  | none => simp [hend] at h
  | some r =>
    rcases r with ⟨_ | result, vc₁⟩
    · simp [hend, Except.isOk, Except.toBool] at h
    · have h' : Condition.isTrue vc₁.status.conditions.loadBalancerReady = true ∧
          s.world.applied (clusterAccount (s.seen ())) vc₁.status.loadBalancer.instanceID = applied := by
        simpa [hend, Except.isOk, Except.toBool] using h
      exact ⟨out, _, hrun, hend, ⟨by simpa using hon, ⟨result, rfl⟩, h'.1⟩, h'.2⟩

/-- The patch after the push is stored, and the next pass finds the machines gone: it pushes again. -/
theorem ready_means_applied_sample : ∃ (s : ClusterState) (out : ClusterOutcome)
    (r : Reply × VerdaCluster), s.run () = some (.ret out) ∧ out.endpoint = some r ∧
      SetsReady (s.seen ()) r ∧ Computed (s.seen ()) r [] := by
  obtain ⟨s, hs, hgood⟩ := exists_reach_meeting (clusterSystem sampleAddress "default" "c0")
    knowsApplied (clusterState (clusterWith enabledLB {})) (readyWith [])
    (createAndPush {} ++ looksUp [] ++ [.answer () .accept]) (by decide +kernel)
  rcases readyWith_iff hgood with ⟨out, r, hrun, hend, hready, happlied⟩
  refine ⟨s, out, r, hrun, hend, hready, ?_⟩
  rw [← happlied]
  exact ready_means_applied (clusterState_initial rfl rfl rfl) hs hrun hend hready

/-- A pass that lists no machines computes no addresses. -/
theorem not_computed {vc : VerdaCluster} {r : Reply × VerdaCluster} {scripts : LBScripts}
    {cluster : Cluster} {tr : ClusterAnswers} {addresses : List String}
    (hruns : (reconcileLoadBalancer scripts cluster vc).Runs tr r)
    (hlisted : ∀ vms, ⟨.listVerdaMachines cluster.ns cluster.name, .ok vms⟩ ∈ tr → vms = [])
    (hne : addresses ≠ []) : ¬ Computed vc r addresses := by
  intro h
  rcases h.addresses scripts cluster tr hruns with ⟨tr₁, tr₂, tr₃, rfl, h₂⟩
  rcases Prog.runs_call_iff.1 h₂ with ⟨x, tr', rfl, hnext⟩
  rcases x with e | vms
  · rcases Prog.runs_ret_iff.1 hnext with ⟨-, hr⟩
    cases hr
  · obtain rfl : vms = [] := hlisted vms (by simp)
    rcases Prog.runs_ret_iff.1 hnext with ⟨-, hr⟩
    exact hne (by simpa using hr)

/-- What the last pass is answered: the keys, its load balancer, and no machines. -/
def noMachines : ClusterAnswers :=
  [⟨.secret (.get "default" "c0-lb-ssh"), .ok (sampleKeys "c0-lb-ssh")⟩,
    ⟨.verda .controlPlane ⟨.getInstance, .instancesGetByID "lb1"⟩,
      .ok (lbInstance .controlPlane "lb1" "running")⟩,
    ⟨.listVerdaMachines "default" "c0", .ok []⟩]

/-- The patch after the push is lost, and the next pass finds the machines gone: it takes the stored
empty list for the applied one, and sets the condition. -/
theorem ready_not_applied : ∃ (s₀ s : ClusterState) (out : ClusterOutcome) (r : Reply × VerdaCluster),
    ClusterInitial sampleAddress "default" "c0" s₀ ∧
      Reach (clusterSystem sampleAddress "default" "c0") {} s₀ s ∧ s.run () = some (.ret out) ∧
      out.endpoint = some r ∧ SetsReady (s.seen ()) r ∧ ¬ Computed (s.seen ()) r
        (s.world.applied (clusterAccount (s.seen ())) r.2.status.loadBalancer.instanceID) := by
  obtain ⟨s, hs, hbad⟩ := exists_reach_of_run (clusterSystem sampleAddress "default" "c0")
    (clusterState (clusterWith enabledLB {}))
    (fun s => readyWith ["10.0.0.5"] s && (returnedCluster s).all fun out => out.endpoint.all fun r =>
      ((reconcileLoadBalancer clusterInput.scripts { ns := "default", name := "c0" } (s.seen ())).replay
        noMachines).any fun r' => decide (r' = r))
    (createAndPush { conditions := false, spec := false, status := false } ++ looksUp [])
    (by decide +kernel)
  rcases Bool.and_eq_true_iff.1 hbad with ⟨hready, hreplay⟩
  rcases readyWith_iff hready with ⟨out, r, hrun, hend, hready, happlied⟩
  refine ⟨_, s, out, r, clusterState_initial rfl rfl rfl, hs, hrun, hend, hready, ?_⟩
  have hreplay : ((reconcileLoadBalancer clusterInput.scripts { ns := "default", name := "c0" }
      (s.seen ())).replay noMachines).any (fun r' => decide (r' = r)) = true := by
    simpa [returnedCluster, hrun, hend] using hreplay
  obtain ⟨r', hruns, hr'⟩ := Prog.exists_runs_of_replay _ _ _ hreplay
  obtain rfl : r' = r := by simpa using hr'
  rw [happlied]
  refine not_computed hruns (fun vms hmem => ?_) (by decide)
  rcases List.mem_cons.1 hmem with h | hmem
  · cases h
  · rcases List.mem_cons.1 hmem with h | hmem
    · cases h
    · cases List.mem_singleton.1 hmem
      rfl

end VerdaCapi.Controller
