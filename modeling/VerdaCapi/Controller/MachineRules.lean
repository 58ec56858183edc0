import VerdaCapi.Cloud.Rules
import VerdaCapi.Cloud.Snapshot
import VerdaCapi.Controller.MachineFootprint

/-!
# Proof rules for passes of the VerdaMachine reconciler

One rule for each part of the reconciler that several invariants have to look into: how a pass runs
against its account, how it finds its instance, and how it creates one.
-/

namespace VerdaCapi.Controller

open Remote Go Api Cloud

variable {W α : Type}

/-- A pass is a program of the client, run against one account, and a patch. -/
theorem wp_runPatched {S : Setting W AccountCall AccountCall.Res} {a : AccountID} {w : W}
    {p : ClientM (Reply × VerdaMachine)} {Q : MachineOutcome → W → Prop}
    (h : p.wp (atAccount S a) (fun r w => Q (patched r) w) w) : (runPatched a p).wp S Q w :=
  Prog.wp_map (Prog.wp_mapOp h)

theorem wp_startPass {S : Setting W AccountCall AccountCall.Res} {w : W}
    {Q : MachineOutcome → W → Prop} (inp : PassInput) (objs : Objects)
    (hmark : ∀ out, (∀ sent ∈ out.sent, Marks objs.machine sent) → ∀ w', S.rely w w' → S.inv w' → Q out w')
    (hdelete : ∀ a, objs.machine.metadata.deletionTimestamp ≠ none →
      (reconcileDelete inp.now objs.machine).wp (atAccount S a) (fun r w => Q (patched r) w) w)
    (hnormal : ∀ a cluster vc machine, objs.machine.metadata.deletionTimestamp = none →
      (reconcileNormal inp.boot cluster vc machine objs.machine).wp (atAccount S a)
        (fun r w => Q (patched r) w) w) : (startPass inp objs).wp S Q w :=
  startPass_cases (P := fun pass => pass.wp S Q w) inp objs hmark
    (fun a hdel => wp_runPatched (hdelete a hdel))
    fun a cluster vc machine hdel => wp_runPatched (hnormal a cluster vc machine hdel)

/-! ## Finding the instance -/

/-- The result of `findInstance` from the answer to its listing. -/
def pickByTag (tag : String) : Pick
  | .ok instances =>
    match scan (fun inst => inst.tags.get tagMachine == tag) none instances with
    | some inst => if instanceGone inst then .ok none else .ok (some inst)
    | none => .ok none
  | .error e => .error (.wrap "listing instances" (.ofApi e))

/-- `findInstance` issues one request and returns. -/
theorem findInstance_eq (vm : VerdaMachine) :
    findInstance vm = lookupInstance vm.status.instanceID (pickByTag (machineTagValue vm)) := by
  refine findByIDOrTag_eq (fun _ => rfl) fun is => ?_
  simp only [pickByTag]
  cases scan (fun inst => inst.tags.get tagMachine == machineTagValue vm) none is with
  | none => rfl
  | some inst => exact apply_ite Prog.ret ..

/-- What `findInstance` returns as long as nothing changes. -/
theorem eval_findInstance {snap : Snapshot} (vm : VerdaMachine) : (findInstance vm).eval snap.view =
    if vm.status.instanceID ≠ "" then
      pickByID vm.status.instanceID (snap.answers (.instancesGetByID vm.status.instanceID))
    else pickByTag (machineTagValue vm) (snap.answers .instancesGet) := by
  rw [findInstance_eq, Snapshot.eval_lookupInstance]

/-! ## The rules -/

section

variable {S : Setting W Call Call.Res} {w : W}

/-- `reconcileNormal`: a resync, a wait, or an instance found or created and then settled. -/
theorem wp_reconcileNormal (hS : S.Lawful) {boot : BootstrapInput} {cluster : Cluster}
    {vc : VerdaCluster} {machine : Machine} {vm : VerdaMachine} {Q : Reply × VerdaMachine → W → Prop}
    (hQ : ∀ r, S.Stable (Q r))
    (hresync : isSet vm.status.provisioned = true → (resyncInstance vm).wp S Q w)
    (hwait : ∀ reply vm', KeepsRecords vm vm' → Q (reply, vm') w)
    (hacquire : isSet vm.status.provisioned = false →
      (acquireInstance boot cluster vc machine vm).wp S
        (fun r w => match r with
          | (.error reply, vm') => Q (reply, vm') w
          | (.ok inst, vm') => (settleInstance vc vm' inst).wp S Q w) w) :
    (reconcileNormal boot cluster vc machine vm).wp S Q w := by
  unfold reconcileNormal
  split
  · exact hresync ‹_›
  · split
    · exact Prog.wp_ret_stable (hQ _) (hwait _ _ ⟨_, rfl⟩)
    · split
      · exact Prog.wp_ret_stable (hQ _) (hwait _ _ ⟨_, rfl⟩)
      · refine Prog.wp_bind hS (Prog.wp_mono ?_ (hacquire (by simpa using ‹¬ isSet _ = true›)))
        rintro ⟨reply | inst, vm'⟩ w _ h
        · exact Prog.wp_ret_stable (hQ _) h
        · exact h

/-- `acquireInstance`: an error, an instance that was found, or one that is created. -/
theorem wp_acquireInstance (hS : S.Lawful) {boot : BootstrapInput} {cluster : Cluster}
    {vc : VerdaCluster} {machine : Machine} {vm : VerdaMachine}
    {Q : Except Reply Instance × VerdaMachine → W → Prop} (hQ : ∀ r, S.Stable (Q r))
    (hfind : (findInstance vm).wp S
      (fun r w => match r with
        | .error e => Q (.error (.error e), vm) w
        | .ok (some inst) => Q (.ok inst, vm) w
        | .ok none => (bootSource vc vm).wp S
            (fun r w => match r with
              | (.error reply, vm') => Q (.error reply, vm') w
              | (.ok bootFrom, vm') =>
                (createMachineInstance boot cluster vc machine vm' bootFrom).wp S
                  (fun r w => match r with
                    | .error _ => ∀ reply vm'', KeepsRecords vm' vm'' → Q (.error reply, vm'') w
                    | .ok inst => Q (.ok inst, vm') w) w) w) w) :
    (acquireInstance boot cluster vc machine vm).wp S Q w := by
  refine Prog.wp_bind hS (Prog.wp_mono ?_ hfind)
  rintro (e | (_ | inst)) w _ h
  · exact Prog.wp_ret_stable (hQ _) h
  · refine Prog.wp_bind hS (Prog.wp_mono ?_ h)
    rintro ⟨reply | bootFrom, vm'⟩ w _ h
    · exact Prog.wp_ret_stable (hQ _) h
    · refine Prog.wp_bind hS (Prog.wp_mono ?_ h)
      rintro (e | inst) w _ h
      · dsimp only
        split
        · exact Prog.wp_ret_stable (hQ _) (h _ _ ⟨_, rfl⟩)
        · exact Prog.wp_ret_stable (hQ _) (h _ _ ⟨_, rfl⟩)
      · exact Prog.wp_ret_stable (hQ _) h
  · exact Prog.wp_ret_stable (hQ _) h

/-- `createInstance` of the reconciler fails early or calls the client's. -/
theorem wp_createMachineInstance {boot : BootstrapInput} {cluster : Cluster} {vc : VerdaCluster}
    {machine : Machine} {vm : VerdaMachine} {bootFrom : String}
    {Q : Except Err Instance → W → Prop} (hQ : ∀ r, S.Stable (Q r)) (herr : ∀ e, Q (.error e) w)
    (hcreate : ∀ script,
      (createInstance (instanceSpec cluster vc machine vm bootFrom script)).wp S Q w) :
    (createMachineInstance boot cluster vc machine vm bootFrom).wp S Q w := by
  unfold createMachineInstance
  split
  · exact Prog.wp_ret_stable (hQ _) (herr _)
  · split
    · exact Prog.wp_ret_stable (hQ _) (herr _)
    · exact hcreate _

/-- Find an instance or create one, in the terms of an invariant: `Missing` is what a lookup without
result tells, `Good inst` what is known of an instance that was found or created. All requests on the
way but `Instances.Create` are always allowed and keep `Missing`. -/
theorem wp_acquire (hS : S.Lawful) {boot : BootstrapInput} {cluster : Cluster} {vc : VerdaCluster}
    {machine : Machine} {vm : VerdaMachine} {Missing : W → Prop} {Good : Instance → W → Prop}
    (hmissing : S.Stable Missing) (hgood : ∀ inst, S.Stable (Good inst))
    (hfind : (findInstance vm).wp S
      (fun r w => (r = .ok none → Missing w) ∧ ∀ inst, r = .ok (some inst) → Good inst w) w)
    (hkeep : ∀ c w, Uses acquireMethods c → (∀ req, c.op ≠ .instancesCreate req) → S.inv w →
      S.guar w c ∧ (Missing w → ∀ x w', S.step w c x w' → S.inv w' → Missing w'))
    (hcreate : ∀ vm' bootFrom script sid w, AdoptsVolume vm vm' → Missing w → S.inv w →
      S.guar w ⟨.createInstance, .instancesCreate { createRequest
        (instanceSpec cluster vc machine vm' bootFrom script) with startupScriptID := sid }⟩ ∧
      ∀ i w', S.step w ⟨.createInstance, .instancesCreate { createRequest
          (instanceSpec cluster vc machine vm' bootFrom script) with startupScriptID := sid }⟩
          (.ok i) w' → S.inv w' →
        ∀ out : Instance, out.id = i.id → out.hostname = i.hostname → Good out w') :
    (acquireInstance boot cluster vc machine vm).wp S
      (fun r w => AdoptsVolume vm r.2 ∧ ∀ inst, r.1 = .ok inst → Good inst w) w := by
  have hpost : ∀ r : Except Reply Instance × VerdaMachine,
      S.Stable fun w => AdoptsVolume vm r.2 ∧ ∀ inst, r.1 = .ok inst → Good inst w := by
    intro r w w' h hr hi
    exact ⟨h.1, fun inst hinst => hgood inst w w' (h.2 inst hinst) hr hi⟩
  refine wp_acquireInstance hS hpost (Prog.wp_mono ?_ hfind)
  intro r w _ h
  rcases r with e | (_ | inst)
  · exact ⟨.refl vm, fun inst hinst => by cases hinst⟩
  · -- what `Missing` says stays true until the creation
    refine Prog.wp_mono ?_ (Prog.wp_frame (bootSource_uses vc vm) hmissing ?_ ?_ (h.1 rfl))
    · intro r w _ hr
      rcases r with ⟨reply | bootFrom, vm'⟩
      · exact ⟨hr.2, fun inst hinst => by cases hinst⟩
      · have hadopt : AdoptsVolume vm vm' := hr.2
        have hstable : ∀ r : Except Err Instance, S.Stable fun w => match r with
            | .error _ => ∀ reply vm'', KeepsRecords vm' vm'' →
                AdoptsVolume vm vm'' ∧
                  ∀ inst, (.error reply : Except Reply Instance) = .ok inst → Good inst w
            | .ok inst => AdoptsVolume vm vm' ∧
                ∀ inst', (.ok inst : Except Reply Instance) = .ok inst' → Good inst' w := by
          intro r w w' h hr hi
          rcases r with e | inst
          · intro reply vm'' hvm''
            exact ⟨(h reply vm'' hvm'').1, fun inst hinst => by cases hinst⟩
          · exact ⟨h.1, fun inst' hinst => hgood inst' w w' (h.2 inst' hinst) hr hi⟩
        have hfail : ∀ (e : Err) (w : W) (reply : Reply) (vm'' : VerdaMachine),
            KeepsRecords vm' vm'' → AdoptsVolume vm vm'' ∧
              ∀ inst, (.error reply : Except Reply Instance) = .ok inst → Good inst w :=
          fun _ _ _ _ hvm'' => ⟨hadopt.trans hvm''.adoptsVolume, fun inst hinst => by cases hinst⟩
        refine wp_createMachineInstance hstable (fun e => hfail e w) fun script => ?_
        refine wp_createInstance hS hmissing hstable hfail ?_ ?_ hr.1
        · exact fun c w huses hc hi => hkeep c w (huses.mono (by decide)) hc hi
        · intro sid w hw hi
          rcases hcreate vm' bootFrom script sid w hadopt hw hi with ⟨hg, hk⟩
          refine ⟨hg, fun i w' hs hi' sid' => ⟨hadopt, fun inst hinst => ?_⟩⟩
          cases hinst
          exact hk i w' hs hi' _ rfl rfl
    · exact fun w c hc _ hi =>
        (hkeep c w (hc.mono (by decide)) (hc.ne_instancesCreate (by decide)) hi).1
    · exact fun w c x w' hc hw hi hs hi' =>
        (hkeep c w (hc.mono (by decide)) (hc.ne_instancesCreate (by decide)) hi).2 hw x w' hs hi'
  · exact ⟨.refl vm, fun inst' hinst => by cases hinst; exact h.2 inst rfl⟩

end

end VerdaCapi.Controller
