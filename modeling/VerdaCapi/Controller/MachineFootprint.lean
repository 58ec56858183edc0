import VerdaCapi.Cloud.Footprint
import VerdaCapi.Controller.MachineSystem
import VerdaCapi.Controller.Teardown

/-!
# What the VerdaMachine reconciler changes

For each part of the reconciler: the client methods it calls, and how the object it returns differs
from the one it was given, whatever Verda answers.
-/

namespace VerdaCapi.Controller

open Remote Go Api Cloud

variable {vm vm' vm'' : VerdaMachine}

/-! ## How an object may change -/

/-- Only conditions and the recorded OS volume differ. -/
def AdoptsVolume (vm vm' : VerdaMachine) : Prop :=
  ∃ id conditions,
    vm' = { vm with status := { vm.status with osVolumeID := id, conditions := conditions } }

theorem AdoptsVolume.refl (vm : VerdaMachine) : AdoptsVolume vm vm := ⟨_, _, rfl⟩

/-- An OS volume can be recorded in several steps. -/
theorem AdoptsVolume.trans (h : AdoptsVolume vm vm') (h' : AdoptsVolume vm' vm'') :
    AdoptsVolume vm vm'' := by
  obtain ⟨_, _, rfl⟩ := h
  obtain ⟨_, _, rfl⟩ := h'
  exact ⟨_, _, rfl⟩

/-- Only conditions differ. -/
def KeepsRecords (vm vm' : VerdaMachine) : Prop :=
  ∃ conditions, vm' = { vm with status := { vm.status with conditions := conditions } }

theorem KeepsRecords.refl (vm : VerdaMachine) : KeepsRecords vm vm := ⟨_, rfl⟩

/-- A step that records nothing is a step before the instance is there. -/
theorem KeepsRecords.adoptsVolume (h : KeepsRecords vm vm') : AdoptsVolume vm vm' := by
  obtain ⟨_, rfl⟩ := h
  exact ⟨_, _, rfl⟩

/-- What a delete pass may do to the object: its spec, its recorded instance and whether it is
provisioned stay, and a recorded volume or script is kept or forgotten. -/
structure WindsDown (vm vm' : VerdaMachine) : Prop where
  ns : vm'.metadata.ns = vm.metadata.ns
  name : vm'.metadata.name = vm.metadata.name
  deletionTimestamp : vm'.metadata.deletionTimestamp = vm.metadata.deletionTimestamp
  spec : vm'.spec = vm.spec
  provisioned : vm'.status.provisioned = vm.status.provisioned
  instanceID : vm'.status.instanceID = vm.status.instanceID
  osVolumeID : vm'.status.osVolumeID = vm.status.osVolumeID ∨ vm'.status.osVolumeID = ""
  startupScriptID : vm'.status.startupScriptID = vm.status.startupScriptID ∨
    vm'.status.startupScriptID = ""

theorem WindsDown.refl (vm : VerdaMachine) : WindsDown vm vm :=
  ⟨rfl, rfl, rfl, rfl, rfl, rfl, .inl rfl, .inl rfl⟩

theorem WindsDown.trans (h : WindsDown vm vm') (h' : WindsDown vm' vm'') : WindsDown vm vm'' where
  ns := h'.ns.trans h.ns
  name := h'.name.trans h.name
  deletionTimestamp := h'.deletionTimestamp.trans h.deletionTimestamp
  spec := h'.spec.trans h.spec
  provisioned := h'.provisioned.trans h.provisioned
  instanceID := h'.instanceID.trans h.instanceID
  osVolumeID := by
    obtain h' | h' := h'.osVolumeID
    · exact h' ▸ h.osVolumeID
    · exact .inr h'
  startupScriptID := by
    obtain h' | h' := h'.startupScriptID
    · exact h' ▸ h.startupScriptID
    · exact .inr h'

/-- It is a step of a deletion as well. -/
theorem KeepsRecords.windsDown (h : KeepsRecords vm vm') : WindsDown vm vm' := by
  obtain ⟨_, rfl⟩ := h
  exact ⟨rfl, rfl, rfl, rfl, rfl, rfl, .inl rfl, .inl rfl⟩

/-- The object after an instance was recorded: everything the second half of `reconcileNormal` keeps. -/
structure Settles (inst : Instance) (vm vm' : VerdaMachine) : Prop where
  metadata : vm'.metadata = vm.metadata
  spec : vm'.spec = { vm.spec with providerID := providerID inst.hostname } ∨
    inst.status = statusNoCapacity ∧ vm'.spec = { vm.spec with providerID := "" }
  instanceID : vm'.status.instanceID = inst.id ∨ vm'.status.instanceID = ""
  osVolumeID : vm'.status.osVolumeID = vm.status.osVolumeID
  startupScriptID : vm'.status.startupScriptID = vm.status.startupScriptID ∨
    vm'.status.startupScriptID = inst.startupScriptID

/-! ## Finding -/

/-- Naming more methods than are called. -/
theorem uses_mono {M M' : List Method} (hM : ∀ m ∈ M, m ∈ M') {α : Type} {p : ClientM α}
    {R : α → Prop} (h : p.Obeys (Uses M) R) : p.Obeys (Uses M') R :=
  h.mono (fun _ hc => hc.mono hM) fun _ hr => hr

/-- The methods that read one volume. -/
def resolveMethods : List Method := [.getVolume, .findVolumeByName]

/-- The methods that find the instance. -/
def findMethods : List Method := [.getInstance, .findInstanceByTag]

/-- The methods that end an instance. -/
def endMethods : List Method := [.deleteInstance, .purgeInstanceVolumes]

/-- The methods of a normal pass up to the point where the instance is created. -/
def lookupMethods : List Method :=
  [.getInstance, .findInstanceByTag, .getVolume, .findVolumeByName, .cloneVolume, .ensureVolumeTag]

theorem findInstance_uses (vm : VerdaMachine) {M : List Method} (hM : .getInstance ∈ M)
    (hM' : .findInstanceByTag ∈ M) : (findInstance vm).Obeys (Uses M) fun _ => True :=
  findByIDOrTag_uses hM hM' fun inst => by split <;> trivial

theorem resolveOSVolumeByName_uses (idOrName : String) :
    (resolveOSVolumeByName idOrName).Obeys (Uses resolveMethods) fun _ => True := by
  refine (findVolumeByName_uses _ (by decide)).bind ?_
  rintro (e | volume) - <;> dsimp only <;> split <;> trivial

/-- An OS volume is looked up by ID first and then by name. -/
theorem resolveOSVolume_uses (idOrName : String) :
    (resolveOSVolume idOrName).Obeys (Uses resolveMethods) fun _ => True := by
  unfold resolveOSVolume
  split
  · refine (getVolume_uses _ (by decide)).bind ?_
    rintro (e | volume) -
    · dsimp only
      split
      · trivial
      · exact resolveOSVolumeByName_uses _
    · trivial
  · exact resolveOSVolumeByName_uses _

theorem lookupOSVolume_uses (vm : VerdaMachine) :
    (lookupOSVolume vm).Obeys (Uses resolveMethods) fun _ => True := by
  have hfound : (if vm.status.osVolumeID ≠ "" then getVolume vm.status.osVolumeID
      else findVolumeByName (osVolumeName vm)).Obeys (Uses resolveMethods) fun _ => True := by
    split
    · exact getVolume_uses _ (by decide)
    · exact findVolumeByName_uses _ (by decide)
  refine hfound.bind ?_
  rintro (e | volume) -
  · dsimp only
    split <;> trivial
  · trivial

/-- A clone is recorded as soon as Verda tells its ID. -/
theorem cloneOSVolume_uses (vc : VerdaCluster) (vm : VerdaMachine) :
    (cloneOSVolume vc vm).Obeys (Uses lookupMethods) fun r => AdoptsVolume vm r.2 := by
  refine (uses_mono (by decide) (resolveOSVolume_uses _)).bind ?_
  rintro (e | sourceID) -
  · exact ⟨_, _, rfl⟩
  · refine (cloneVolume_uses _ _ _ (by decide)).bind ?_
    rintro (e | id) - <;> exact ⟨_, _, rfl⟩

theorem tagOSVolume_uses (volume : Volume) :
    (tagOSVolume volume).Obeys (Uses lookupMethods) fun _ => True := by
  unfold tagOSVolume
  split
  · trivial
  · refine (ensureVolumeTag_uses _ (by decide)).bind ?_
    rintro (e | -) - <;> trivial

theorem adoptOSVolume_uses (vm : VerdaMachine) (volume : Volume) :
    (adoptOSVolume vm volume).Obeys (Uses lookupMethods) fun r =>
      AdoptsVolume vm r.2 ∧ r.2.status.osVolumeID = volume.id ∧
        ∀ v, r.1 = .ok v → v.id = volume.id := by
  refine (tagOSVolume_uses volume).bind fun managed _ => ?_
  exact ⟨⟨_, _, rfl⟩, rfl, fun v hv => by cases hv; rfl⟩

theorem ensureOSVolume_uses (vc : VerdaCluster) (vm : VerdaMachine) :
    (ensureOSVolume vc vm).Obeys (Uses lookupMethods) fun r => AdoptsVolume vm r.2 := by
  refine (uses_mono (by decide) (lookupOSVolume_uses vm)).bind ?_
  rintro (e | (_ | volume)) -
  · exact AdoptsVolume.refl vm
  · refine (cloneOSVolume_uses vc vm).bind ?_
    rintro ⟨e | volume, vm'⟩ h
    · exact h
    · exact (adoptOSVolume_uses vm' volume).mono (fun _ h => h) fun _ h' => h.trans h'.1
  · exact (adoptOSVolume_uses vm volume).mono (fun _ h => h) fun _ h => h.1

theorem bootSource_uses (vc : VerdaCluster) (vm : VerdaMachine) :
    (bootSource vc vm).Obeys (Uses lookupMethods) fun r => AdoptsVolume vm r.2 := by
  unfold bootSource
  split
  · refine (ensureOSVolume_uses vc vm).bind ?_
    rintro ⟨e | volume, vm'⟩ h
    · exact h
    · dsimp only
      split
      · exact h.trans ⟨_, _, rfl⟩
      · exact h
  · exact AdoptsVolume.refl vm

/-! ## Settling -/

/-- The methods that tag the recorded OS volume. -/
def tagMethods : List Method := [.getVolume, .ensureVolumeTag]

/-- The methods of a normal pass once there is an instance. -/
def settleMethods : List Method := tagMethods ++ endMethods

/-- Tagging the OS volume of an instance afterwards changes no record. -/
theorem ensureOSVolumeTag_uses (vm : VerdaMachine) :
    (ensureOSVolumeTag vm).Obeys (Uses tagMethods) fun vm' => KeepsRecords vm vm' := by
  unfold ensureOSVolumeTag
  split
  · exact KeepsRecords.refl vm
  · refine (getVolume_uses _ (by decide)).bind ?_
    rintro (e | volume) -
    · exact KeepsRecords.refl vm
    · dsimp only
      split
      · exact ⟨_, rfl⟩
      · refine (ensureVolumeTag_uses _ (by decide)).bind ?_
        rintro (e | -) -
        · exact KeepsRecords.refl vm
        · exact ⟨_, rfl⟩

/-- What `recordInstance` leaves. -/
structure Records (inst : Instance) (vm vm' : VerdaMachine) : Prop where
  metadata : vm'.metadata = vm.metadata
  spec : vm'.spec = { vm.spec with providerID := providerID inst.hostname }
  provisioned : vm'.status.provisioned = vm.status.provisioned
  instanceID : vm'.status.instanceID = inst.id
  osVolumeID : vm'.status.osVolumeID = vm.status.osVolumeID
  startupScriptID : vm'.status.startupScriptID = vm.status.startupScriptID ∨
    vm'.status.startupScriptID = inst.startupScriptID

theorem Records.settles {inst : Instance} (h : Records inst vm vm') : Settles inst vm vm' :=
  ⟨h.metadata, .inl h.spec, .inl h.instanceID, h.osVolumeID, h.startupScriptID⟩

theorem recordInstance_uses (vm : VerdaMachine) (inst : Instance) :
    (recordInstance vm inst).Obeys (Uses tagMethods) fun vm' => Records inst vm vm' := by
  refine (ensureOSVolumeTag_uses _).bind ?_
  rintro _ ⟨conditions, rfl⟩
  refine ⟨rfl, rfl, rfl, rfl, rfl, ?_⟩
  simp only [withStatus]
  split
  · exact .inr rfl
  · exact .inl rfl

theorem settleInstance_uses (vc : VerdaCluster) (vm : VerdaMachine) (inst : Instance) :
    (settleInstance vc vm inst).Obeys (Uses settleMethods) fun r => Settles inst vm r.2 := by
  refine (uses_mono (by decide) (recordInstance_uses vm inst)).bind fun vm' h => ?_
  have hr := h.settles
  dsimp only
  split
  · exact ⟨hr.metadata, hr.spec, hr.instanceID, hr.osVolumeID, hr.startupScriptID⟩
  · split
    · rename_i hstatus
      refine (deleteInstance_uses _ (by decide) (by decide)).bind ?_
      rintro (e | -) -
      · exact hr
      · refine ⟨h.metadata, .inr ⟨hstatus, ?_⟩, .inr rfl, h.osVolumeID, h.startupScriptID⟩
        simp [dropInstance, setInstanceReadyFalse, setInstanceReady, withStatus, h.spec]
    · split
      · exact ⟨hr.metadata, hr.spec, hr.instanceID, hr.osVolumeID, hr.startupScriptID⟩
      · exact ⟨hr.metadata, hr.spec, hr.instanceID, hr.osVolumeID, hr.startupScriptID⟩

/-- All that is requested after an instance was recorded is a call of `DeleteInstance`. -/
theorem settleInstance_obeys {A : Call → Prop} {inst : Instance} (htag : ∀ c, Uses tagMethods c → A c)
    (h : (deleteInstance inst.id).Obeys A fun _ => True) (vc : VerdaCluster) (vm : VerdaMachine) :
    (settleInstance vc vm inst).Obeys A fun _ => True := by
  refine ((recordInstance_uses vm inst).mono htag fun _ h => h).bind fun vm' _ => ?_
  dsimp only
  split
  · trivial
  · split
    · refine h.bind ?_
      rintro (e | -) - <;> trivial
    · split <;> trivial

/-- A machine becomes provisioned when its instance runs, and then both IDs are recorded. -/
theorem settleInstance_provisions {vm : VerdaMachine} (hprov : isSet vm.status.provisioned = false)
    (vc : VerdaCluster) (inst : Instance) :
    (settleInstance vc vm inst).Obeys (Uses settleMethods) fun r =>
      isSet r.2.status.provisioned = true → inst.status = statusRunning ∧
        r.2.status.instanceID = inst.id ∧ r.2.spec.providerID = providerID inst.hostname := by
  refine (uses_mono (by decide) (recordInstance_uses vm inst)).bind fun vm' h => ?_
  have hnot : isSet vm'.status.provisioned ≠ true := by
    rw [h.provisioned, hprov]
    decide
  dsimp only
  split
  · rename_i hrunning
    exact fun _ => ⟨hrunning, h.instanceID, by simp [withStatus, setInstanceReady, h.spec]⟩
  · split
    · refine (deleteInstance_uses _ (by decide) (by decide)).bind ?_
      rintro (e | -) - <;> exact fun hset => absurd hset hnot
    · split <;> exact fun hset => absurd hset hnot

/-- `resyncInstance` leaves the metadata, the spec and every recorded ID alone. -/
theorem resyncInstance_uses (vm : VerdaMachine) :
    (resyncInstance vm).Obeys (Uses findMethods) fun r =>
      r.2.metadata = vm.metadata ∧ r.2.spec = vm.spec ∧
        r.2.status.instanceID = vm.status.instanceID ∧
        r.2.status.osVolumeID = vm.status.osVolumeID ∧
        r.2.status.startupScriptID = vm.status.startupScriptID ∧
        r.2.status.provisioned = vm.status.provisioned := by
  refine (findInstance_uses vm (by decide) (by decide)).bind ?_
  rintro (e | found) -
  · exact ⟨rfl, rfl, rfl, rfl, rfl, rfl⟩
  · dsimp only
    split
    · exact ⟨rfl, rfl, rfl, rfl, rfl, rfl⟩
    · split
      · exact ⟨rfl, rfl, rfl, rfl, rfl, rfl⟩
      · split
        · exact ⟨rfl, rfl, rfl, rfl, rfl, rfl⟩
        · exact ⟨rfl, rfl, rfl, rfl, rfl, rfl⟩

/-! ## A whole normal pass -/

/-- The methods that find an instance or create one. -/
def acquireMethods : List Method := lookupMethods ++ createMethods

/-- The methods of a normal pass. -/
def normalMethods : List Method := acquireMethods ++ settleMethods

/-- The instance is created from the spec of the machine; only the script is found out on the way. -/
theorem createMachineInstance_carries (boot : BootstrapInput) (cluster : Cluster)
    (vc : VerdaCluster) (machine : Machine) (vm : VerdaMachine) (bootFrom : String) :
    (createMachineInstance boot cluster vc machine vm bootFrom).Obeys
      (fun c => ∃ script, CarriesSpec (instanceSpec cluster vc machine vm bootFrom script) c)
      fun _ => True := by
  unfold createMachineInstance
  split
  · trivial
  · split
    · trivial
    · rename_i script _
      exact (createInstance_carries _).mono (fun c hc => ⟨script, hc⟩) fun _ h => h

theorem acquireInstance_uses (boot : BootstrapInput) (cluster : Cluster) (vc : VerdaCluster)
    (machine : Machine) (vm : VerdaMachine) :
    (acquireInstance boot cluster vc machine vm).Obeys (Uses acquireMethods)
      fun r => AdoptsVolume vm r.2 := by
  refine (findInstance_uses vm (by decide) (by decide)).bind ?_
  rintro (e | (_ | inst)) -
  · exact AdoptsVolume.refl vm
  · refine (uses_mono (by decide) (bootSource_uses vc vm)).bind ?_
    rintro ⟨reply | bootFrom, vm'⟩ hvm'
    · exact hvm'
    · refine ((createMachineInstance_carries boot cluster vc machine vm' bootFrom).mono
        (fun c hc => hc.elim fun _ h => h.1.mono (by decide)) fun _ h => h).bind ?_
      rintro (e | inst) -
      · dsimp only
        split
        · exact hvm'.trans ⟨_, _, rfl⟩
        · exact hvm'.trans ⟨_, _, rfl⟩
      · exact hvm'
  · exact AdoptsVolume.refl vm

/-- A normal pass leaves the metadata alone. -/
theorem reconcileNormal_uses (boot : BootstrapInput) (cluster : Cluster) (vc : VerdaCluster)
    (machine : Machine) (vm : VerdaMachine) :
    (reconcileNormal boot cluster vc machine vm).Obeys (Uses normalMethods)
      fun r => r.2.metadata = vm.metadata := by
  unfold reconcileNormal
  split
  · exact (uses_mono (by decide) (resyncInstance_uses vm)).mono (fun _ h => h) fun _ h => h.1
  · split
    · exact rfl
    · split
      · exact rfl
      · refine (uses_mono (by decide) (acquireInstance_uses boot cluster vc machine vm)).bind ?_
        rintro ⟨reply | inst, vm'⟩ ⟨id, c, rfl⟩
        · exact rfl
        · exact (uses_mono (by decide) (settleInstance_uses vc _ inst)).mono (fun _ h => h)
            fun _ h => h.metadata

/-! ## Deleting -/

/-- The methods of the end of a delete pass, when the instance is gone. -/
def releaseMethods : List Method :=
  [.deleteStartupScript, .deleteStartupScriptByName, .getVolume, .deleteVolume]

/-- The methods of a delete pass. -/
def deleteMethods : List Method :=
  [.getInstance, .findInstanceByTag, .deleteInstance, .purgeInstanceVolumes, .deleteStartupScript,
    .deleteStartupScriptByName, .getVolume, .deleteVolume]

/-- `deleteRequestDue` changes annotations only. -/
theorem deleteRequestDue_keeps (now : Time) (m : ObjectMeta) (suffix state : String) :
    (deleteRequestDue now m suffix state).2.ns = m.ns ∧
      (deleteRequestDue now m suffix state).2.name = m.name ∧
      (deleteRequestDue now m suffix state).2.deletionTimestamp = m.deletionTimestamp ∧
      (deleteRequestDue now m suffix state).2.finalizers = m.finalizers := by
  unfold deleteRequestDue
  extract_lets key recent
  split <;> exact ⟨rfl, rfl, rfl, rfl⟩

/-- Waiting for an instance leaves the finalizer. -/
theorem deleteLiveInstance_uses (now : Time) (vm : VerdaMachine) (inst : Instance) :
    (deleteLiveInstance now vm inst).Obeys (Uses endMethods) fun r =>
      WindsDown vm r.2 ∧ r.2.metadata.finalizers = vm.metadata.finalizers := by
  obtain ⟨hns, hname, hdel, hfin⟩ := deleteRequestDue_keeps now vm.metadata "" inst.status
  exact obeys_deleteLive (deleteInstance_uses _ (by decide) (by decide))
    ⟨⟨rfl, rfl, rfl, rfl, rfl, rfl, .inl rfl, .inl rfl⟩, rfl⟩
    (fun _ => ⟨⟨hns, hname, hdel, rfl, rfl, rfl, .inl rfl, .inl rfl⟩, hfin⟩)
    ⟨⟨hns, hname, hdel, rfl, rfl, rfl, .inl rfl, .inl rfl⟩, hfin⟩
    ⟨⟨hns, hname, hdel, rfl, rfl, rfl, .inl rfl, .inl rfl⟩, hfin⟩

theorem deleteMachineScript_uses (vm : VerdaMachine) {M : List Method}
    (hM : .deleteStartupScript ∈ M) (hM' : .deleteStartupScriptByName ∈ M) :
    (deleteMachineScript vm).Obeys (Uses M) fun r =>
      WindsDown vm r.2 ∧ r.2.metadata = vm.metadata ∧
        r.2.status.osVolumeID = vm.status.osVolumeID := by
  unfold deleteMachineScript
  split
  · refine (deleteStartupScript_uses _ hM).bind ?_
    rintro (e | -) -
    · exact ⟨.refl vm, rfl, rfl⟩
    · exact ⟨⟨rfl, rfl, rfl, rfl, rfl, rfl, .inl rfl, .inr rfl⟩, rfl, rfl⟩
  · refine (deleteStartupScriptByName_uses _ hM' hM).bind ?_
    rintro (e | -) - <;> exact ⟨.refl vm, rfl, rfl⟩

theorem deleteOSVolume_uses (vm : VerdaMachine) {M : List Method}
    (hM : .getVolume ∈ M) (hM' : .deleteVolume ∈ M) :
    (deleteOSVolume vm).Obeys (Uses M) fun r => WindsDown vm r.2 ∧ r.2.metadata = vm.metadata := by
  have hcleared : WindsDown vm (withStatus vm fun s => { s with osVolumeID := "" }) :=
    ⟨rfl, rfl, rfl, rfl, rfl, rfl, .inr rfl, .inl rfl⟩
  unfold deleteOSVolume
  dsimp only
  split
  · exact ⟨.refl vm, rfl⟩
  · refine (getVolume_uses _ hM).bind ?_
    rintro (e | volume) -
    · dsimp only
      split
      · exact ⟨hcleared, rfl⟩
      · exact ⟨.refl vm, rfl⟩
    · dsimp only
      split
      · exact ⟨hcleared, rfl⟩
      · split
        · refine (deleteVolume_uses _ hM').bind ?_
          rintro (e | -) -
          · exact ⟨.refl vm, rfl⟩
          · exact ⟨hcleared, rfl⟩
        · exact ⟨hcleared, rfl⟩

/-- The annotations with the last requests stay. -/
theorem releaseMachine_uses (vm : VerdaMachine) :
    (releaseMachine vm).Obeys (Uses releaseMethods) fun r =>
      WindsDown vm r.2 ∧ r.2.metadata.annotations = vm.metadata.annotations := by
  refine (deleteMachineScript_uses vm (by decide) (by decide)).bind ?_
  rintro ⟨e | _, vm₁⟩ h₁
  · exact ⟨h₁.1, congrArg ObjectMeta.annotations h₁.2.1⟩
  · refine (deleteOSVolume_uses vm₁ (by decide) (by decide)).bind ?_
    rintro ⟨e | _, vm₂⟩ h₂ <;> have h := h₁.1.trans h₂.1 <;>
      have hkept : vm₂.metadata.annotations = vm.metadata.annotations :=
        congrArg ObjectMeta.annotations (h₂.2.trans h₁.2.1)
    · exact ⟨h, hkept⟩
    · exact ⟨⟨h.ns, h.name, h.deletionTimestamp, h.spec, h.provisioned, h.instanceID, h.osVolumeID,
        h.startupScriptID⟩, hkept⟩

/-- A delete pass winds the object down. -/
theorem reconcileDelete_uses (now : Time) (vm : VerdaMachine) :
    (reconcileDelete now vm).Obeys (Uses deleteMethods) fun r => WindsDown vm r.2 := by
  have hkeep : KeepsRecords vm (setInstanceReadyFalse vm "Deleting" "Deleting Verda instance") :=
    ⟨_, rfl⟩
  have hstart := hkeep.windsDown
  rw [reconcileDelete_eq]
  refine obeys_teardown (findInstance_uses _ (by decide) (by decide)) (fun inst => ?_)
    (fun id => purgeInstanceVolumes_uses id (by decide)) ?_ (fun _ => hstart) hstart
  · exact (uses_mono (by decide) (deleteLiveInstance_uses now _ inst)).mono (fun _ h => h)
      fun _ h => hstart.trans h.1
  · exact (uses_mono (by decide) (releaseMachine_uses _)).mono (fun _ h => h) fun _ h => hstart.trans h.1

end VerdaCapi.Controller
