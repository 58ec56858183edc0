import VerdaCapi.Api.Merge
import VerdaCapi.Cloud.Account
import VerdaCapi.Controller.Machine
import VerdaCapi.Remote.System
import VerdaCapi.Webhook.Validation

/-!
# Runs of the VerdaMachine reconciler

The reconciler as a `Remote.System`: passes over VerdaMachines, the Verda accounts they talk to, and
everything around them that the controller does not decide.

* A pass reads the stored objects and may fail to read any of them; its requests are answered one at a
  time; it may crash in between.
* The deferred patch is three requests (conditions; metadata and spec; the rest of the status), and
  each may be lost on its own, or be refused by the webhooks.
* At any time users delete the VerdaMachine, edit it or the VerdaCluster as far as the webhooks allow,
  or delete the VerdaCluster or the owner Machine. A patch is merged into what is stored by then.
-/

namespace VerdaCapi.Controller

open Remote Go Api Cloud Webhook

/-- The stored objects a machine depends on. -/
structure Objects where
  machine : VerdaMachine
  verdaCluster : Option VerdaCluster := none
  owner : Option Machine := none
deriving DecidableEq

/-- What a pass meets besides the stored objects. -/
structure PassInput where
  finalizerError : Option Err := none
  ownerError : Option Err := none
  cluster : Except Err Cluster
  paused : Except Err Bool := .ok false
  verdaClusterError : Option Err := none
  unavailable : Identity → Option Err := fun _ => none
  boot : BootstrapInput
  now : Time := 0

/-- A read of a stored object, which may fail. -/
def read {α : Type} (failure : Option Err) (x : α) : Except Err α :=
  match failure with
  | some e => .error e
  | none => .ok x

/-- The input of `Reconcile` over the stored objects. -/
def PassInput.over (inp : PassInput) (objs : Objects) : MachineInput where
  finalizerError := inp.finalizerError
  owner := read inp.ownerError objs.owner
  cluster := inp.cluster
  paused := inp.paused
  verdaCluster := read inp.verdaClusterError objs.verdaCluster
  unavailable := inp.unavailable
  boot := inp.boot
  now := inp.now

/-- The API server has removed the object: it was deleted and its last finalizer is gone. -/
def removed (vm : VerdaMachine) : Bool :=
  vm.metadata.deletionTimestamp.isSome && vm.metadata.finalizers.isEmpty

/-- A pass over the stored objects. A removed machine is not found. -/
def startPass (inp : PassInput) (objs : Objects) : MachinePass :=
  if removed objs.machine then stopped (.ok {}) else reconcile (inp.over objs) objs.machine

/-- Which of the three requests of a patch arrive. -/
structure Patch where
  conditions : Bool := true
  spec : Bool := true
  status : Bool := true

/-- No request arrives. -/
def Patch.lost : Patch := { conditions := false, spec := false, status := false }

/-- The stored machine after a patch by a pass that has read `seen`. Nobody else writes the status. -/
def Patch.apply (p : Patch) (seen vm sent : VerdaMachine) : VerdaMachine where
  metadata := if p.spec then seen.metadata.merge vm.metadata sent.metadata else vm.metadata
  spec := if p.spec then seen.spec.merge vm.spec sent.spec else vm.spec
  status :=
    { (if p.status then sent.status else vm.status) with
      conditions := if p.conditions then sent.status.conditions else vm.status.conditions }

/-- The stored objects after a pass that has read `seen`. A patch does not find a removed machine. -/
def persist (p : Patch) (seen objs : Objects) (out : MachineOutcome) : Objects :=
  match out.sent with
  | none => objs
  | some sent =>
    if removed objs.machine then objs
    else { objs with machine := p.apply seen.machine objs.machine sent }

/-- What happens to the stored objects from outside. -/
inductive Edit where
  | deleteMachine (at_ : Time)
  | updateMachine (spec : VerdaMachineSpec)
  | annotateMachine (annotations : StrMap)
  | createCluster (vc : VerdaCluster)
  | updateCluster (spec : VerdaClusterSpec)
  | deleteCluster
  | setOwner (owner : Option Machine)

/-- Edit the stored objects; `none` when the webhooks reject it or there is nothing to edit. -/
def edit : Edit → Objects → Option Objects
  | .deleteMachine t, objs =>
    let metadata := { objs.machine.metadata with deletionTimestamp := some t }
    some { objs with machine := { objs.machine with metadata := metadata } }
  | .updateMachine spec, objs =>
    if machineUpdateAccepted objs.machine.spec spec then
      some { objs with machine := { objs.machine with spec := defaultMachineSpec spec } }
    else none
  | .annotateMachine annotations, objs =>
    let metadata := { objs.machine.metadata with annotations := annotations }
    some { objs with machine := { objs.machine with metadata := metadata } }
  | .createCluster vc, objs =>
    if objs.verdaCluster = none ∧ validateClusterCreate (defaultClusterSpec vc.spec) = [] then
      some { objs with verdaCluster := some { vc with spec := defaultClusterSpec vc.spec } }
    else none
  | .updateCluster spec, objs =>
    match objs.verdaCluster with
    | some vc =>
      if clusterUpdateAccepted vc.spec spec then
        some { objs with verdaCluster := some { vc with spec := defaultClusterSpec spec } }
      else none
    | none => none
  | .deleteCluster, objs => some { objs with verdaCluster := none }
  | .setOwner owner, objs => some { objs with owner := owner }

/-- The machine reconciler over a set `ι` of machines. `reserved` are the machine tags that only these
machines give out. -/
def machineSystem (ι : Type) (reserved : String → Bool) :
    System ι (World ι) AccountCall AccountCall.Res Objects MachineOutcome
      PassInput Choice Patch (AccountID × Account) Edit where
  start _ := startPass
  answer := answer
  persist := persist
  drift := drift reserved
  edit := edit

/-- A state of the machine reconciler. -/
abbrev MachineState (ι : Type) := State ι (World ι) AccountCall AccountCall.Res Objects MachineOutcome

/-- Conditions on a run of the machine reconciler. -/
abbrev MachineConditions (ι : Type) :=
  Conditions ι (World ι) AccountCall Objects MachineOutcome PassInput Patch Edit

/-- A pass has returned and its patch removes the machine finalizer. -/
def Released (objs : Objects) (out : MachineOutcome) : Prop :=
  machineFinalizer ∈ objs.machine.metadata.finalizers ∧
    ∃ sent ∈ out.sent, machineFinalizer ∉ sent.metadata.finalizers

instance (objs : Objects) (out : MachineOutcome) : Decidable (Released objs out) :=
  inferInstanceAs (Decidable (_ ∧ _))

/-- A patch releases the machine when it takes the finalizer out. -/
theorem released_sent {objs : Objects} {reply : Reply} {sent : VerdaMachine} :
    Released objs { reply, sent := some sent } ↔
      machineFinalizer ∈ objs.machine.metadata.finalizers ∧
        machineFinalizer ∉ sent.metadata.finalizers := by
  simp [Released]

/-- A patch that leaves the finalizers as they were does not release the machine. -/
theorem not_released_patched {objs : Objects} {reply : Reply} {vm : VerdaMachine}
    (h : vm.metadata.finalizers = objs.machine.metadata.finalizers) :
    ¬ Released objs (patched (reply, vm)) := by
  intro hrel
  rcases released_sent.1 hrel with ⟨hf, hf'⟩
  exact hf' (h ▸ hf)

/-- The outcome of a pass that has returned and whose patch was not sent yet. -/
def returned {ι : Type} (s : MachineState ι) (i : ι) : Option MachineOutcome :=
  match s.run i with
  | some (.ret out) => some out
  | _ => none

theorem returned_any {ι : Type} {s : MachineState ι} {i : ι} {f : MachineOutcome → Bool}
    (h : (returned s i).any f = true) : ∃ out, s.run i = some (.ret out) ∧ f out = true := by
  unfold returned at h
  split at h
  · rename_i out hrun
    exact ⟨out, hrun, h⟩
  · cases h

/-- A pass has returned with the machine released, in a state with the property. -/
def releasesWith (P : MachineState Unit → Prop) [DecidablePred P] (s : MachineState Unit) : Bool :=
  (returned s ()).any fun out => decide (Released (s.seen ()) out) && decide (P s)

theorem of_releasesWith {P : MachineState Unit → Prop} [DecidablePred P] {s : MachineState Unit}
    (h : releasesWith P s = true) :
    ∃ out, s.run () = some (.ret out) ∧ Released (s.seen ()) out ∧ P s := by
  obtain ⟨out, hrun, hout⟩ := returned_any h
  obtain ⟨hrel, hP⟩ := Bool.and_eq_true_iff.1 hout
  exact ⟨out, hrun, of_decide_eq_true hrel, of_decide_eq_true hP⟩

/-! ## What a patch stores -/

section

variable {p : Patch} {objs : Objects} {out : MachineOutcome}

/-- A patch is applied, or there is nothing to send or nothing to apply it to. -/
theorem persist_cases (p : Patch) (seen objs : Objects) (out : MachineOutcome) :
    persist p seen objs out = objs ∨ ∃ sent, out.sent = some sent ∧
      persist p seen objs out = { objs with machine := p.apply seen.machine objs.machine sent } := by
  unfold persist
  split
  · exact .inl rfl
  · rename_i sent hsent
    split
    · exact .inl rfl
    · exact .inr ⟨sent, hsent, rfl⟩

theorem Patch.apply_self (p : Patch) (vm sent : VerdaMachine) : p.apply vm vm sent =
    { metadata := if p.spec then sent.metadata else vm.metadata
      spec := if p.spec then sent.spec else vm.spec
      status := { (if p.status then sent.status else vm.status) with
        conditions := if p.conditions then sent.status.conditions else vm.status.conditions } } := by
  simp only [Patch.apply, ObjectMeta.merge_self, VerdaMachineSpec.merge_self]

/-- The metadata and the spec are sent together. -/
theorem persist_resource : ((persist p objs objs out).machine.metadata = objs.machine.metadata ∧
      (persist p objs objs out).machine.spec = objs.machine.spec) ∨
    ∃ sent, out.sent = some sent ∧ (persist p objs objs out).machine.metadata = sent.metadata ∧
      (persist p objs objs out).machine.spec = sent.spec := by
  obtain heq | ⟨sent, hsent, heq⟩ := persist_cases p objs objs out
  · exact .inl (by rw [heq]; exact ⟨rfl, rfl⟩)
  · rw [heq]
    by_cases hp : p.spec = true
    · exact .inr ⟨sent, hsent, by simp [Patch.apply, hp]⟩
    · exact .inl (by simp [Patch.apply, hp])

theorem persist_status {seen : Objects} :
    (∃ c, (persist p seen objs out).machine.status = { objs.machine.status with conditions := c }) ∨
      ∃ sent, out.sent = some sent ∧
        ∃ c, (persist p seen objs out).machine.status = { sent.status with conditions := c } := by
  obtain heq | ⟨sent, hsent, heq⟩ := persist_cases p seen objs out
  · exact .inl ⟨_, by rw [heq]⟩
  · rw [heq]
    by_cases hp : p.status = true
    · simp only [Patch.apply, hp, if_true]
      exact .inr ⟨sent, hsent, _, rfl⟩
    · simp only [Patch.apply, hp, Bool.false_eq_true, if_false]
      exact .inl ⟨_, rfl⟩

end

/-! ## What an edit leaves -/

/-- What users may do to a machine: they leave its identity, its finalizers, its status and a provider
ID that is set, and do not take a deletion back. -/
structure Touched (objs objs' : Objects) : Prop where
  ns : objs'.machine.metadata.ns = objs.machine.metadata.ns
  name : objs'.machine.metadata.name = objs.machine.metadata.name
  finalizers : objs'.machine.metadata.finalizers = objs.machine.metadata.finalizers
  deletion : objs.machine.metadata.deletionTimestamp.isSome = true →
    objs'.machine.metadata.deletionTimestamp.isSome = true
  status : objs'.machine.status = objs.machine.status
  providerID : objs.machine.spec.providerID ≠ "" →
    objs'.machine.spec.providerID = objs.machine.spec.providerID

theorem Touched.refl (objs : Objects) : Touched objs objs :=
  ⟨rfl, rfl, rfl, fun h => h, rfl, fun _ => rfl⟩

theorem edit_touched {e : Edit} {objs objs' : Objects} (h : edit e objs = some objs') :
    Touched objs objs' := by
  cases e with
  | deleteMachine t =>
    cases h
    exact ⟨rfl, rfl, rfl, fun _ => rfl, rfl, fun _ => rfl⟩
  | updateMachine spec =>
    simp only [edit] at h
    split at h
    · rename_i haccepted
      cases h
      exact ⟨rfl, rfl, rfl, fun h => h, rfl, providerID_of_accepted haccepted⟩
    · cases h
  | createCluster vc =>
    simp only [edit] at h
    split at h <;> cases h
    exact ⟨rfl, rfl, rfl, fun h => h, rfl, fun _ => rfl⟩
  | updateCluster spec =>
    simp only [edit] at h
    split at h
    · split at h <;> cases h
      exact ⟨rfl, rfl, rfl, fun h => h, rfl, fun _ => rfl⟩
    · cases h
  | _ =>
    cases h
    exact ⟨rfl, rfl, rfl, fun h => h, rfl, fun _ => rfl⟩

theorem Touched.trans {objs objs' objs'' : Objects} (h : Touched objs objs') (h' : Touched objs' objs'') :
    Touched objs objs'' where
  ns := h'.ns.trans h.ns
  name := h'.name.trans h.name
  finalizers := h'.finalizers.trans h.finalizers
  deletion hdel := h'.deletion (h.deletion hdel)
  status := h'.status.trans h.status
  providerID hne := (h'.providerID (h.providerID hne ▸ hne)).trans (h.providerID hne)

/-- Any number of edits. -/
theorem Touched.of_edited {objs objs' : Objects} (h : Relation.ReflTransGen Touched objs objs') :
    Touched objs objs' := by
  induction h with
  | refl => exact .refl objs
  | tail _ h ih => exact ih.trans h

section

variable {objs objs' : Objects}

/-- A removed machine stays removed. -/
theorem Touched.removed (h : Touched objs objs') (hremoved : Controller.removed objs.machine = true) :
    Controller.removed objs'.machine = true := by
  simp only [Controller.removed, Bool.and_eq_true] at hremoved ⊢
  exact ⟨h.deletion hremoved.1, by rw [h.finalizers]; exact hremoved.2⟩

theorem Touched.tag (h : Touched objs objs') :
    machineTagValue objs'.machine = machineTagValue objs.machine := by
  rw [machineTagValue, machineTagValue, h.ns, h.name]

theorem Patch.apply_providerID {vm vm' : VerdaMachine} (h : vm'.spec.providerID = vm.spec.providerID)
    (p : Patch) (seen sent : VerdaMachine) :
    (p.apply seen vm' sent).spec.providerID = (p.apply seen vm sent).spec.providerID := by
  unfold Patch.apply
  dsimp only
  split
  · simp only [VerdaMachineSpec.merge, h]
  · exact h

/-- A patch that is merged into an edited machine. -/
theorem Touched.apply (h : Touched objs objs') (p : Patch) (seen sent : VerdaMachine) :
    Touched { objs with machine := p.apply seen objs.machine sent }
      { objs' with machine := p.apply seen objs'.machine sent } := by
  have hstatus : (p.apply seen objs'.machine sent).status = (p.apply seen objs.machine sent).status := by
    simp only [Patch.apply, h.status]
  cases hp : p.spec with
  | false =>
    refine ⟨?_, ?_, ?_, ?_, hstatus, ?_⟩ <;> simp only [Patch.apply, hp, Bool.false_eq_true, if_false]
    · exact h.ns
    · exact h.name
    · exact h.finalizers
    · exact h.deletion
    · exact h.providerID
  | true =>
    refine ⟨?_, ?_, ?_, ?_, hstatus, ?_⟩ <;>
      simp only [Patch.apply, hp, if_true, ObjectMeta.merge, VerdaMachineSpec.merge]
    · rw [h.ns]
    · rw [h.name]
    · rw [h.finalizers]
    · exact merged_rel (R := fun t t' : Option Time => t.isSome = true → t'.isSome = true)
        (fun _ h => h) h.deletion
    · exact merged_rel (R := fun x x' : String => x ≠ "" → x' = x) (fun _ _ => rfl) h.providerID

/-- A patch reaches the machine before and after an edit, or nothing of it arrives. -/
theorem Touched.persist_cases (h : Touched objs objs') (p : Patch) (seen : Objects)
    (out : MachineOutcome) :
    (Controller.persist .lost seen objs out = objs ∧ Controller.persist p seen objs' out = objs') ∨
      ∃ sent, Controller.persist p seen objs out =
          { objs with machine := p.apply seen.machine objs.machine sent } ∧
        Controller.persist p seen objs' out =
          { objs' with machine := p.apply seen.machine objs'.machine sent } := by
  unfold Controller.persist
  cases hsent : out.sent with
  | none => exact .inl ⟨rfl, rfl⟩
  | some sent =>
    cases hgone : Controller.removed objs'.machine with
    | true =>
      refine .inl ⟨?_, if_pos rfl⟩
      dsimp only
      split <;> rfl
    | false =>
      have hthere : Controller.removed objs.machine = false := by
        cases hremoved : Controller.removed objs.machine with
        | false => rfl
        | true => rw [h.removed hremoved] at hgone; cases hgone
      exact .inr ⟨sent, by rw [hthere]; rfl, rfl⟩

/-- An edit before a patch is like one after it, of which nothing arrives if the machine is gone by
then. -/
theorem Touched.persist (h : Touched objs objs') (p : Patch) (seen : Objects) (out : MachineOutcome) :
    ∃ q, (q = p ∨ q = .lost) ∧
      Touched (Controller.persist q seen objs out) (Controller.persist p seen objs' out) := by
  rcases h.persist_cases p seen out with ⟨hlost, hpatch⟩ | ⟨sent, hbefore, hafter⟩
  · exact ⟨.lost, .inr rfl, by rw [hlost, hpatch]; exact h⟩
  · exact ⟨p, .inl rfl, by rw [hbefore, hafter]; exact h.apply p seen.machine sent⟩

end

/-- What the deferred patch sends differs from the object in its conditions only. -/
theorem patchVerdaMachine_eq (vm : VerdaMachine) :
    ∃ c, patchVerdaMachine vm = { vm with status := { vm.status with conditions := c } } :=
  ⟨_, rfl⟩

/-! ## What a pass runs -/

/-- The machine, with one more finalizer or other conditions. -/
def Marks (vm sent : VerdaMachine) : Prop :=
  ∃ fs c, sent = { vm with
    metadata := { vm.metadata with finalizers := vm.metadata.finalizers ++ fs }
    status := { vm.status with conditions := c } }

theorem marks_patched (vm : VerdaMachine) (c : Option Condition) : Marks vm (patchVerdaMachine
    (withStatus vm fun s => { s with conditions := { s.conditions with instanceReady := c } })) :=
  ⟨[], _, by rw [List.append_nil]; rfl⟩

theorem not_released_of_marks {objs : Objects} {out : MachineOutcome}
    (h : ∀ sent ∈ out.sent, Marks objs.machine sent) : ¬ Released objs out := by
  rintro ⟨hf, sent, hsent, hf'⟩
  obtain ⟨fs, c, rfl⟩ := h sent hsent
  exact hf' (List.mem_append_left _ hf)

/-- The ways a pass goes: it ends without a request and sends the machine at most marked, or it runs one of
the two reconcile functions against one account and patches. -/
theorem startPass_cases {P : MachinePass → Prop} (inp : PassInput) (objs : Objects)
    (hmark : ∀ out, (∀ sent ∈ out.sent, Marks objs.machine sent) → P (.ret out))
    (hdelete : ∀ a, objs.machine.metadata.deletionTimestamp ≠ none →
      P (runPatched a (reconcileDelete inp.now objs.machine)))
    (hnormal : ∀ a cluster vc machine, objs.machine.metadata.deletionTimestamp = none →
      P (runPatched a (reconcileNormal inp.boot cluster vc machine objs.machine))) :
    P (startPass inp objs) := by
  have hstop : ∀ reply, P (stopped reply) := fun reply => hmark _ fun sent hs => by cases hs
  have hcredentials : ∀ e c, P (.ret (patched (.error e, withStatus objs.machine fun s =>
      { s with conditions := { s.conditions with instanceReady := c } }))) := by
    refine fun e c => hmark _ ?_
    rintro sent ⟨⟩
    exact marks_patched objs.machine c
  unfold startPass
  split
  · exact hstop _
  · unfold reconcile
    split
    · refine hmark _ ?_
      rintro sent ⟨⟩
      exact ⟨[machineFinalizer], _, rfl⟩
    · split
      · exact hstop _
      · split
        · rename_i hdel
          unfold reconcileOrphanDelete
          split
          · rename_i e _
            exact hcredentials e objs.machine.status.conditions.instanceReady
          · exact hdelete _ (Option.isSome_iff_ne_none.1 hdel)
        · exact hstop _
      · split
        · exact hstop _
        · split
          · exact hstop _
          · exact hstop _
          · unfold reconcileInCluster
            split
            · exact hstop _
            · split
              · exact hstop _
              · dsimp only
                split
                · exact hcredentials _ _
                · split
                  · exact hdelete _ fun hdel => by simp_all
                  · have hdel : objs.machine.metadata.deletionTimestamp = none := by assumption
                    exact hnormal _ _ _ _ hdel
                  · exact hstop _

end VerdaCapi.Controller
