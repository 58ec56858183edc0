import VerdaCapi.Controller.Duplicates

/-!
# The machine reconciler and its webhook

The deferred patch of a pass sends the spec through the webhooks, which reject a change of a provider
ID that is set. A normal pass writes the provider ID anew from the instance record that Verda's
answers hand to it, and clears it when it drops an instance without capacity.

`machineUpdate_accepted_iff` says exactly when the webhooks accept what a pass sends, in terms of the
object and of the answers. `noCapacity_rejected` is a pass whose patch they reject.
-/

namespace VerdaCapi.Controller

open Remote Go Api Cloud Webhook

/-- The instance record that the answers hand to a normal pass: the one recorded, or made up for it
when Verda answers that there is none; else the live one found by its tag; else the one created. -/
def handed (vm : VerdaMachine) (tr : Answers) : Option Instance :=
  handedBy (pickByTag (machineTagValue vm)) tr

/-- The instance has no capacity, and the answers let `DeleteInstance` succeed. -/
def Drops (inst : Instance) (tr : Answers) : Prop :=
  inst.status = statusNoCapacity ∧ (deleteInstance inst.id).Runs (answersOf endMethods tr) (.ok ())

/-- A normal pass asks for the instance: the machine is not provisioned, and can be. -/
def Seeks (cluster : Cluster) (machine : Machine) (vm : VerdaMachine) : Prop :=
  isSet vm.status.provisioned = false ∧ isSet cluster.infrastructureProvisioned = true ∧
    machine.dataSecretName ≠ none

/-- A provider ID that is set is the one of the instance record that the answers hand to the pass, and
that instance is not dropped. -/
def Reproduces (vm : VerdaMachine) (tr : Answers) : Prop :=
  vm.spec.providerID ≠ "" → ∀ inst, handed vm tr = some inst →
    vm.spec.providerID = providerID inst.hostname ∧ ¬ Drops inst tr

section

variable {vm vm' : VerdaMachine} {tr tr₁ tr₂ : Answers} {inst : Instance}

/-! ## Acquiring -/

theorem createMachineInstance_runs {boot : BootstrapInput} {cluster : Cluster} {vc : VerdaCluster}
    {machine : Machine} {bootFrom : String} {r : Except Err Instance}
    (h : (createMachineInstance boot cluster vc machine vm bootFrom).Runs tr r) :
    Matches r (created tr) := by
  unfold createMachineInstance at h
  split at h
  · rcases Prog.runs_ret_iff.1 h with ⟨rfl, rfl⟩
    trivial
  · split at h
    · rcases Prog.runs_ret_iff.1 h with ⟨rfl, rfl⟩
      trivial
    · exact createInstance_runs h

/-- What `bootSource` and the creation after it leave, for a pass that found no instance. -/
theorem acquireInstance_creates {boot : BootstrapInput} {cluster : Cluster} {vc : VerdaCluster}
    {machine : Machine} {r : Except Reply Instance}
    (h : (bootSource vc vm >>= fun r => match r with
      | (.error reply, vm) => pure (.error reply, vm)
      | (.ok bootFrom, vm) =>
        createMachineInstance boot cluster vc machine vm bootFrom >>= fun r => match r with
        | .error e =>
          if e.kind = .hostnameInUse then
            pure (.error (.ok { requeueAfter := instanceResyncInterval }),
              setInstanceReadyFalse vm "HostnameInUse" e.msg)
          else pure (.error (.error e), setInstanceReadyFalse vm "InstanceCreateFailed" e.msg)
        | .ok inst => pure (.ok inst, vm) : ClientM (Except Reply Instance × VerdaMachine)).Runs tr
      (r, vm')) :
    match r with
    | .error _ => created tr = none
    | .ok inst => Matches (.ok inst) (created tr) := by
  rcases Prog.runs_bind_iff.1 h with ⟨t₁, source, t₂, rfl, hsource, h₂⟩
  have hnone : created t₁ = none := created_eq_none (bootSource_uses vc vm) (by decide) hsource
  rw [created_append, hnone, Option.none_or]
  rcases source with ⟨reply | bootFrom, vm₁⟩
  · rcases Prog.runs_ret_iff.1 h₂ with ⟨rfl, hr⟩
    cases hr
    rfl
  · rcases Prog.runs_bind_iff.1 h₂ with ⟨t₃, result, t₄, rfl, hcreate, h₄⟩
    have hmatch := createMachineInstance_runs hcreate
    rw [created_append]
    rcases result with e | inst
    · dsimp only at h₄
      split at h₄
      · rcases Prog.runs_ret_iff.1 h₄ with ⟨rfl, hr⟩
        cases hr
        show (created t₃).or (created []) = none
        rw [hmatch.none]
        rfl
      · rcases Prog.runs_ret_iff.1 h₄ with ⟨rfl, hr⟩
        cases hr
        show (created t₃).or (created []) = none
        rw [hmatch.none]
        rfl
    · rcases Prog.runs_ret_iff.1 h₄ with ⟨rfl, hr⟩
      cases hr
      exact hmatch.or _

/-- The instance a pass acquires, if any, is the one its answers hand to it. -/
theorem acquireInstance_runs {boot : BootstrapInput} {cluster : Cluster} {vc : VerdaCluster}
    {machine : Machine} {r : Except Reply Instance}
    (h : (acquireInstance boot cluster vc machine vm).Runs tr₁ (r, vm')) :
    match r with
    | .error _ => handed vm tr₁ = none
    | .ok inst => ∀ tr₂, Matches (.ok inst) (handed vm (tr₁ ++ tr₂)) := by
  rcases Prog.runs_bind_iff.1 h with ⟨t, found, t', rfl, hfind, h₁⟩
  rw [findInstance_eq] at hfind
  have hhanded : ∀ t₂, handed vm (t ++ t₂) = handedAfter found t₂ := fun _ => handedBy_append hfind
  rcases found with e | (_ | i)
  · rcases Prog.runs_ret_iff.1 h₁ with ⟨rfl, hr⟩
    cases hr
    exact hhanded []
  · -- what the answers create is what counts
    have hcreates := acquireInstance_creates h₁
    rcases r with reply | inst
    · exact (hhanded t').trans hcreates
    · intro tr₂
      rw [List.append_assoc, hhanded]
      show Matches (.ok inst) (created (t' ++ tr₂))
      rw [created_append]
      exact Matches.or hcreates _
  · rcases Prog.runs_ret_iff.1 h₁ with ⟨rfl, hr⟩
    cases hr
    intro tr₂
    rw [List.append_assoc, hhanded]
    exact Matches.refl i

/-! ## Settling -/

/-- The spec after an instance was settled: only the provider ID changes. -/
theorem settleInstance_runs {vc : VerdaCluster} {reply : Reply}
    (h : (settleInstance vc vm inst).Runs tr (reply, vm')) :
    (Drops inst tr ∧ vm'.spec = { vm.spec with providerID := "" }) ∨
      (¬ Drops inst tr ∧ vm'.spec = { vm.spec with providerID := providerID inst.hostname }) := by
  rcases Prog.runs_bind_iff.1 h with ⟨t₁, vm₁, t₂, rfl, hrecord, h₂⟩
  have hspec := (hrecord.obeys (recordInstance_uses vm inst)).spec
  have htag : answersOf endMethods t₁ = [] :=
    answersOf_eq_nil (recordInstance_uses vm inst) (by decide) hrecord
  -- in every branch but one the instance stays
  have hstays : inst.status ≠ statusNoCapacity → ¬ Drops inst (t₁ ++ t₂) := fun hne hd => hne hd.1
  dsimp only at h₂
  split at h₂
  · rename_i hstatus
    rcases Prog.runs_ret_iff.1 h₂ with ⟨rfl, hr⟩
    cases hr
    exact .inr ⟨hstays (by rw [hstatus]; decide), hspec⟩
  · split at h₂
    · rename_i hstatus
      rcases Prog.runs_bind_iff.1 h₂ with ⟨t₃, r, t₄, rfl, hdelete, h₄⟩
      have huses : (deleteInstance inst.id).Obeys (Uses endMethods) fun _ => True :=
        deleteInstance_uses inst.id (by decide) (by decide)
      have hends : t₄ = [] → answersOf endMethods (t₁ ++ (t₃ ++ t₄)) = t₃ := by
        intro hnil
        rw [answersOf_append, htag, hnil, List.append_nil, List.nil_append,
          answersOf_eq_self huses hdelete]
      rcases r with e | u
      · rcases Prog.runs_ret_iff.1 h₄ with ⟨hnil, hr⟩
        cases hr
        refine .inr ⟨fun hd => ?_, hspec⟩
        have hok := hd.2
        rw [hends hnil] at hok
        cases hdelete.unique hok
      · rcases Prog.runs_ret_iff.1 h₄ with ⟨hnil, hr⟩
        cases hr
        refine .inl ⟨⟨hstatus, ?_⟩, ?_⟩
        · rw [hends hnil]
          exact hdelete
        · simp [dropInstance, setInstanceReadyFalse, setInstanceReady, withStatus, hspec]
    · rename_i hstatus
      split at h₂
      · rcases Prog.runs_ret_iff.1 h₂ with ⟨rfl, hr⟩
        cases hr
        exact .inr ⟨hstays hstatus, hspec⟩
      · rcases Prog.runs_ret_iff.1 h₂ with ⟨rfl, hr⟩
        cases hr
        exact .inr ⟨hstays hstatus, hspec⟩

/-- What a normal pass makes of the spec. -/
theorem reconcileNormal_runs {boot : BootstrapInput} {cluster : Cluster} {vc : VerdaCluster}
    {machine : Machine} {reply : Reply}
    (h : (reconcileNormal boot cluster vc machine vm).Runs tr (reply, vm')) :
    ((Seeks cluster machine vm → handed vm tr = none) ∧ vm'.spec = vm.spec) ∨
      ∃ inst, Seeks cluster machine vm ∧ handed vm tr = some inst ∧
        ((Drops inst tr ∧ vm'.spec = { vm.spec with providerID := "" }) ∨
          (¬ Drops inst tr ∧ vm'.spec = { vm.spec with providerID := providerID inst.hostname })) := by
  unfold reconcileNormal at h
  split at h
  · rename_i hprov
    refine .inl ⟨fun hs => ?_, (h.obeys (resyncInstance_uses vm)).2.1⟩
    rw [hs.1] at hprov
    cases hprov
  · rename_i hprov
    split at h
    · rename_i hinfra
      rcases Prog.runs_ret_iff.1 h with ⟨rfl, hr⟩
      cases hr
      exact .inl ⟨fun hs => by simp [hs.2.1] at hinfra, rfl⟩
    · rename_i hinfra
      split at h
      · rename_i hsecret
        rcases Prog.runs_ret_iff.1 h with ⟨rfl, hr⟩
        cases hr
        exact .inl ⟨fun hs => absurd hsecret hs.2.2, rfl⟩
      · rename_i hsecret
        have hseeks : Seeks cluster machine vm :=
          ⟨by simpa using hprov, by simpa using hinfra, hsecret⟩
        rcases Prog.runs_bind_iff.1 h with ⟨t₁, acquired, t₂, rfl, hacquire, h₂⟩
        have hadopts := hacquire.obeys (acquireInstance_uses boot cluster vc machine vm)
        have hends : answersOf endMethods (t₁ ++ t₂) = answersOf endMethods t₂ := by
          rw [answersOf_append, answersOf_eq_nil
            (acquireInstance_uses boot cluster vc machine vm) (by decide) hacquire, List.nil_append]
        rcases acquired with ⟨r, vm₁⟩
        have hhanded := acquireInstance_runs hacquire
        have hspec₁ : vm₁.spec = vm.spec := by
          rcases hadopts with ⟨id, c, heq⟩
          rw [show vm₁ = _ from heq]
        rcases r with reply₁ | inst
        · rcases Prog.runs_ret_iff.1 h₂ with ⟨rfl, hr⟩
          cases hr
          refine .inl ⟨fun _ => ?_, hspec₁⟩
          rw [List.append_nil]
          exact hhanded
        · rcases (hhanded t₂).some with ⟨i, sid, hi, rfl⟩
          have hdrops : Drops i (t₁ ++ t₂) ↔ Drops { i with startupScriptID := sid } t₂ := by
            rw [Drops, Drops, hends]
          refine .inr ⟨i, hseeks, hi, ?_⟩
          rw [hdrops, ← hspec₁]
          exact settleInstance_runs h₂

end

/-- **When the webhooks accept what a pass sends.** For every machine the validator admits and every
answers: a normal pass is accepted exactly when the spec was defaulted, and, if the pass asks for the
instance, a provider ID that is set is reproduced by the answers. A delete pass leaves the spec alone. -/
theorem machineUpdate_accepted_iff (vm : VerdaMachine) (h : validateMachineCreate vm.spec = []) :
    (∀ boot cluster vc machine tr reply vm',
      (reconcileNormal boot cluster vc machine vm).Runs tr (reply, vm') →
        (machineUpdateAccepted vm.spec (patchVerdaMachine vm').spec ↔
          defaultMachineSpec vm.spec = vm.spec ∧ (Seeks cluster machine vm → Reproduces vm tr))) ∧
      ∀ now tr reply vm', (reconcileDelete now vm).Runs tr (reply, vm') →
        (machineUpdateAccepted vm.spec (patchVerdaMachine vm').spec ↔
          defaultMachineSpec vm.spec = vm.spec) := by
  have hsent : ∀ vm' : VerdaMachine, (patchVerdaMachine vm').spec = vm'.spec := by
    intro vm'
    rcases patchVerdaMachine_eq vm' with ⟨c, heq⟩
    rw [heq]
  have hsame : machineUpdateAccepted vm.spec vm.spec ↔ defaultMachineSpec vm.spec = vm.spec := by
    have hiff := machineUpdateAccepted_iff_of_valid h vm.spec.providerID
    simpa using hiff
  refine ⟨fun boot cluster vc machine tr reply vm' hrun => ?_, fun now tr reply vm' hrun => ?_⟩
  · rw [hsent]
    rcases reconcileNormal_runs hrun with ⟨hnone, hspec⟩ | ⟨inst, hseeks, hinst, hcases⟩
    · rw [hspec, hsame]
      refine ⟨fun hdef => ⟨hdef, fun hs _ inst hinst => ?_⟩, fun hh => hh.1⟩
      rw [hnone hs] at hinst
      cases hinst
    · -- the ID that is sent against the one that is set
      have hrepro : Reproduces vm tr ↔ (vm.spec.providerID ≠ "" →
          vm.spec.providerID = providerID inst.hostname ∧ ¬ Drops inst tr) := by
        unfold Reproduces
        rw [hinst]
        simp
      rw [hrepro]
      rcases hcases with ⟨hdrops, hspec⟩ | ⟨hstays, hspec⟩
      · rw [hspec, machineUpdateAccepted_iff_of_valid h]
        simp [hseeks, hdrops]
      · rw [hspec, machineUpdateAccepted_iff_of_valid h]
        simp [hseeks, hstays, or_iff_not_imp_left]
  · rw [hsent, (hrun.obeys (reconcileDelete_uses now vm)).spec]
    exact hsame

/-- A machine whose instance is recorded and runs. -/
theorem machineUpdate_accepted_sample : ∃ (cluster : Cluster) (vc : VerdaCluster) (machine : Machine)
    (vm vm' : VerdaMachine) (tr : Answers) (reply : Reply),
    (reconcileNormal sampleInput.boot cluster vc machine vm).Runs tr (reply, vm') ∧
      vm.spec.providerID ≠ "" ∧ isSet vm'.status.provisioned = true ∧
      machineUpdateAccepted vm.spec (patchVerdaMachine vm').spec := by
  let cluster : Cluster := { ns := "default", name := "c0", infrastructureProvisioned := some true }
  let vc : VerdaCluster := { metadata := { ns := "default", name := "c0" }, spec := { location := "FIN-01" } }
  let machine : Machine := { ns := "default", name := "m0", dataSecretName := some "m0-bootstrap" }
  let vm : VerdaMachine := { sampleMachine with
    spec := { sampleMachine.spec with providerID := "verda://m0" }
    status := { instanceID := "x1" } }
  let tr : Answers := [⟨⟨.getInstance, .instancesGetByID "x1"⟩, .ok (sampleInstance "x1" "running")⟩]
  obtain ⟨⟨reply, vm'⟩, hrun, hprov⟩ := Prog.exists_runs_of_replay
    (reconcileNormal sampleInput.boot cluster vc machine vm) tr
    (fun r => isSet r.2.status.provisioned) (by decide +kernel)
  refine ⟨cluster, vc, machine, vm, vm', tr, reply, hrun, by decide, hprov, ?_⟩
  refine ((machineUpdate_accepted_iff vm (by decide)).1 _ _ _ _ _ _ _ hrun).2 ⟨by decide, ?_⟩
  intro _ _ inst hinst
  cases hinst
  exact ⟨rfl, fun hd => absurd hd.1 (by decide)⟩

/-- The instance is created and recorded, and then has no capacity: the pass that drops it clears the
provider ID that the pass before it set, and its patch is rejected. -/
theorem noCapacity_rejected : ∃ (s₀ s : MachineState Unit) (out : MachineOutcome) (sent : VerdaMachine),
    Initial "default" "m0" s₀ ∧ Reach (oneMachine "default" "m0") {} s₀ s ∧
      s.run () = some (.ret out) ∧ out.sent = some sent ∧
      defaultMachineSpec (s.obj ()).machine.spec = (s.obj ()).machine.spec ∧
      validateMachineCreate (s.obj ()).machine.spec = [] ∧
      ¬ machineUpdateAccepted (s.obj ()).machine.spec sent.spec := by
  obtain ⟨s, hs, hbad⟩ := exists_reach_of_run (oneMachine "default" "m0") sampleState
    (fun s => (returned s ()).any fun out => out.sent.any fun sent =>
      decide (defaultMachineSpec (s.obj ()).machine.spec = (s.obj ()).machine.spec) &&
      decide (validateMachineCreate (s.obj ()).machine.spec = []) &&
      !decide (machineUpdateAccepted (s.obj ()).machine.spec sent.spec))
    ([.start () sampleInput] ++ accepted 3 ++
      [.answer () (.accept (.instance_ (sampleInstance "x1" "provisioning") [])), .finish () {},
        relist [sampleInstance "x1" "no_capacity"] (by decide), .start () sampleInput] ++ accepted 3)
    (by decide +kernel)
  rcases returned_any hbad with ⟨out, hrun, hout⟩
  rcases (Option.any_eq_true _ _).1 hout with ⟨sent, hsent, hrel⟩
  simp only [Bool.and_eq_true, Bool.not_eq_true', decide_eq_true_eq, decide_eq_false_iff_not] at hrel
  exact ⟨sampleState, s, out, sent, sampleState_initial, hs, hrun, hsent, hrel.1.1, hrel.1.2, hrel.2⟩

end VerdaCapi.Controller
