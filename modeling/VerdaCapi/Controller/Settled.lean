import VerdaCapi.Cloud.Scan
import VerdaCapi.Controller.MachineRules

/-!
# A pass that changes nothing in Verda is repeated without effect

`reconcileNormal` may take another way when it runs again: an instance found by its tag is then looked up
by ID, a clone found by its name too, and a machine that has become provisioned is resynced. As long as
the account stays as it is, all these ways find the same rows and write the same fields
(`reconcileNormal_settles`).
-/

namespace VerdaCapi.Controller

open Remote Go Api Cloud

variable {snap : Snapshot}

/-! ## The instance -/

/-- What a lookup by tag finds is a row. -/
theorem pickByTag_row {tag : String} {is : List Sdk.Instance} {inst : Instance}
    (h : pickByTag tag (.ok is) = .ok (some inst)) : ∃ i ∈ is, inst = toInstance i := by
  simp only [pickByTag] at h
  split at h
  · rename_i found hscan
    split at h
    · cases h
    · cases h
      rw [scan_none_eq] at hscan
      rcases Option.map_eq_some_iff.1 hscan with ⟨i, hi, rfl⟩
      rcases Option.or_eq_some_iff.1 hi with hup | ⟨-, hlast⟩
      · exact ⟨i, (mem_of_firstUp hup).1, rfl⟩
      · exact ⟨i, (mem_of_lastWanted hlast).1, rfl⟩
  · cases h

/-- The instance that was found is a row under its ID, or it is made up because there is none under the
recorded ID. -/
theorem findInstance_row {vm : VerdaMachine} {inst : Instance}
    (h : (findInstance vm).eval snap.view = .ok (some inst)) :
    (∃ i, snap.account.instances.get inst.id = some i ∧ inst = toInstance i) ∨
      inst.status = statusNotFound := by
  rw [eval_findInstance] at h
  split at h
  · cases hans : snap.answers (.instancesGetByID vm.status.instanceID) with
    | ok i =>
      rw [hans] at h
      cases h
      have hrow := Snapshot.get_of_answers hans
      have hkey : (toInstance i).id = vm.status.instanceID := (Table.get_eq_some_iff.1 hrow).2
      exact .inl ⟨i, by rw [hkey, hrow], rfl⟩
    | error e =>
      rw [hans, pickByID] at h
      split at h
      · cases h
        exact .inr rfl
      · cases h
  · rcases snap.instances with hans | ⟨e, hans⟩
    · rw [hans] at h
      rcases pickByTag_row h with ⟨i, hi, rfl⟩
      exact .inl ⟨i, Table.get_eq_some_iff.2 ⟨hi, rfl⟩, rfl⟩
    · rw [hans] at h
      cases h

/-- What is found under a recorded ID has this ID. -/
theorem findInstance_id {vm : VerdaMachine} {inst : Instance} (hid : vm.status.instanceID ≠ "")
    (h : (findInstance vm).eval snap.view = .ok (some inst)) : inst.id = vm.status.instanceID := by
  rw [eval_findInstance, if_pos hid] at h
  cases hans : snap.answers (.instancesGetByID vm.status.instanceID) with
  | ok i =>
    rw [hans] at h
    cases h
    exact (Table.get_eq_some_iff.1 (Snapshot.get_of_answers hans)).2
  | error e =>
    rw [hans, pickByID] at h
    split at h
    · cases h
      rfl
    · cases h

/-- The next lookup finds the same instance, under its ID, or fails. -/
theorem findInstance_again {vm vm' : VerdaMachine} {inst : Instance}
    (h : (findInstance vm).eval snap.view = .ok (some inst)) (hid : vm'.status.instanceID = inst.id)
    (htag : machineTagValue vm' = machineTagValue vm) :
    (findInstance vm').eval snap.view = .ok (some inst) ∨
      ∃ e, (findInstance vm').eval snap.view = .error e := by
  by_cases hrecorded : vm.status.instanceID ≠ ""
  · -- the same lookup
    have hsame : vm'.status.instanceID = vm.status.instanceID := hid.trans (findInstance_id hrecorded h)
    rw [eval_findInstance, hsame, htag, ← eval_findInstance]
    exact .inl h
  · rw [eval_findInstance, if_neg hrecorded] at h
    rw [eval_findInstance, hid, htag]
    rcases snap.instances with hans | ⟨e, hans⟩
    · rw [hans] at h ⊢
      split
      · rcases pickByTag_row h with ⟨i, hi, rfl⟩
        have hrow : snap.account.instances.get (toInstance i).id = some i :=
          Table.get_eq_some_iff.2 ⟨hi, rfl⟩
        rcases snap.instance_ (toInstance i).id with heq | ⟨e, heq, hnot⟩
        · rw [heq, hrow]
          exact .inl rfl
        · rw [heq, pickByID, hnot]
          exact .inr ⟨_, rfl⟩
      · exact .inl h
    · rw [hans] at h
      cases h

theorem quiet_findInstance (vm : VerdaMachine) : snap.Quiet (findInstance vm) := by
  rw [findInstance_eq]
  exact Snapshot.quiet_lookupInstance

/-! ## Conditions that stay -/

theorem setInstanceReady_self {vm : VerdaMachine} {c : Condition}
    (h : vm.status.conditions.instanceReady = some c) : setInstanceReady vm c = vm := by
  rw [setInstanceReady, withStatus, ← h]

theorem setOSVolumeReady_self {vm : VerdaMachine} {c : Condition}
    (h : vm.status.conditions.osVolumeReady = some c) : setOSVolumeReady vm c = vm := by
  rw [setOSVolumeReady, withStatus, ← h]

/-! ## The OS volume -/

theorem quiet_lookupOSVolume (vm : VerdaMachine) : snap.Quiet (lookupOSVolume vm) := by
  rw [lookupOSVolume, Snapshot.quiet_bind]
  constructor
  · split
    · exact Snapshot.quiet_getVolume
    · exact Snapshot.quiet_findVolumeByName
  · split
    · exact Snapshot.quiet_pure _
    · split <;> exact Snapshot.quiet_pure _

/-- The ID and the name are all that the lookup reads. -/
theorem lookupOSVolume_congr {vm vm' : VerdaMachine} (hid : vm'.status.osVolumeID = vm.status.osVolumeID)
    (hmeta : vm'.metadata = vm.metadata) : lookupOSVolume vm' = lookupOSVolume vm := by
  unfold lookupOSVolume osVolumeName
  rw [hid, hmeta]

/-- The clone that was found is a row, under the recorded ID if there is one. -/
theorem lookupOSVolume_row {vm : VerdaMachine} {volume : Volume}
    (h : (lookupOSVolume vm).eval snap.view = .ok (some volume)) :
    ∃ v, snap.account.volume v.id = some v ∧ volume = toVolume v ∧
      (vm.status.osVolumeID ≠ "" → v.id = vm.status.osVolumeID) := by
  rw [lookupOSVolume, Prog.eval_bind] at h
  by_cases hid : vm.status.osVolumeID ≠ ""
  · rw [if_pos hid] at h
    rcases snap.eval_getVolume vm.status.osVolumeID with ⟨v, hrow, heval⟩ | ⟨-, heval⟩ | ⟨e, heval, hkind⟩
    · rw [heval] at h
      cases h
      have hkey := (volume_eq_some_iff.1 hrow).2
      exact ⟨v, by rw [hkey, hrow], rfl, fun _ => hkey⟩
    · rw [heval] at h
      simp [errNotFound, Prog.eval] at h
    · rw [heval] at h
      simp [hkind, Prog.eval] at h
  · rw [if_neg hid] at h
    cases hfind : (findVolumeByName (osVolumeName vm)).eval snap.view with
    | ok found =>
      rw [hfind] at h
      cases h
      rcases Snapshot.eval_findVolumeByName hfind with ⟨v, hrow, rfl⟩
      exact ⟨v, hrow, rfl, fun hne => absurd hne hid⟩
    | error e =>
      rw [hfind] at h
      dsimp only at h
      split at h <;> cases h

/-- The clone that was found is found again, under its ID, or the lookup fails. -/
theorem lookupOSVolume_again {vm vm' : VerdaMachine} {volume : Volume}
    (h : (lookupOSVolume vm).eval snap.view = .ok (some volume))
    (hid : vm'.status.osVolumeID = volume.id) (hmeta : vm'.metadata = vm.metadata) :
    (lookupOSVolume vm').eval snap.view = .ok (some volume) ∨
      ∃ e, (lookupOSVolume vm').eval snap.view = .error e := by
  by_cases hsame : vm'.status.osVolumeID = vm.status.osVolumeID
  · rw [lookupOSVolume_congr hsame hmeta]
    exact .inl h
  · -- it was found by its name, and has an ID now
    rcases lookupOSVolume_row h with ⟨v, hrow, rfl, hkey⟩
    have hunrecorded : vm.status.osVolumeID = "" := by
      by_contra hne
      exact hsame (hid.trans (hkey hne))
    have hne : vm'.status.osVolumeID ≠ "" := by rwa [hunrecorded] at hsame
    rw [lookupOSVolume, Prog.eval_bind, if_pos hne, hid]
    rcases snap.eval_getVolume (toVolume v).id with ⟨v', hrow', heval⟩ | ⟨hnone, -⟩ | ⟨e, heval, hkind⟩
    · rw [heval, Option.some.inj (hrow'.symm.trans hrow)]
      exact .inl rfl
    · rw [show snap.account.volume (toVolume v).id = some v from hrow] at hnone
      cases hnone
    · rw [heval]
      simp only [ne_eq, hkind, not_false_eq_true, if_true]
      exact .inr ⟨e, rfl⟩

/-- The two objects have the same spec and the same OS volume. -/
structure SameVolume (vm vm' : VerdaMachine) : Prop where
  metadata : vm'.metadata = vm.metadata
  spec : vm'.spec = vm.spec
  osVolumeID : vm'.status.osVolumeID = vm.status.osVolumeID
  osVolumeReady : vm'.status.conditions.osVolumeReady = vm.status.conditions.osVolumeReady

theorem not_quiet_tagVolume {m : Method} {id : String} : ¬ snap.Quiet (tagVolume m id) := by
  rw [tagVolume, Snapshot.quiet_bind, Snapshot.quiet_request]
  rintro ⟨h, -⟩
  cases h

/-- Without a request the volume has its tag already. -/
theorem adoptOSVolume_of_quiet {vm : VerdaMachine} {volume : Volume}
    (h : snap.Quiet (adoptOSVolume vm volume)) : volume.managed = true := by
  rw [adoptOSVolume, Snapshot.quiet_bind] at h
  by_contra hmanaged
  have htag := h.1
  rw [tagOSVolume, if_neg hmanaged, Snapshot.quiet_bind] at htag
  exact not_quiet_tagVolume htag.1

/-- Adopt a volume that has its tag. -/
theorem reads_adoptOSVolume {vm : VerdaMachine} {volume : Volume} (h : volume.managed = true) :
    snap.Reads (adoptOSVolume vm volume) (.ok volume,
      setOSVolumeReady (withStatus vm fun s => { s with osVolumeID := volume.id })
        (osVolumeCondition volume)) := by
  have htag : tagOSVolume volume = pure true := if_pos h
  have hvolume : { volume with managed := true } = volume := by rw [← h]
  rw [adoptOSVolume, htag]
  refine .bind (.pure true) ?_
  rw [hvolume]
  exact .pure _

/-- A volume that was adopted is adopted again without effect. -/
theorem adoptOSVolume_again {vm : VerdaMachine} {volume : Volume} (h : volume.managed = true)
    (hid : vm.status.osVolumeID = volume.id)
    (hready : vm.status.conditions.osVolumeReady = some (osVolumeCondition volume)) :
    snap.Reads (adoptOSVolume vm volume) (.ok volume, vm) := by
  have hsame : setOSVolumeReady (withStatus vm fun s => { s with osVolumeID := volume.id })
      (osVolumeCondition volume) = vm := by
    simp only [setOSVolumeReady, withStatus, ← hid, ← hready]
  have hreads : snap.Reads (adoptOSVolume vm volume) _ := reads_adoptOSVolume h
  rwa [hsame] at hreads

theorem quiet_resolveOSVolume (idOrName : String) : snap.Quiet (resolveOSVolume idOrName) := by
  have hname : snap.Quiet (resolveOSVolumeByName idOrName) := by
    rw [resolveOSVolumeByName, Snapshot.quiet_bind]
    refine ⟨Snapshot.quiet_findVolumeByName, ?_⟩
    split
    · split <;> exact Snapshot.quiet_pure _
    · split <;> exact Snapshot.quiet_pure _
  unfold resolveOSVolume
  split
  · rw [Snapshot.quiet_bind]
    refine ⟨Snapshot.quiet_getVolume, ?_⟩
    split
    · exact Snapshot.quiet_pure _
    · split
      · exact Snapshot.quiet_pure _
      · exact hname
  · exact hname

/-- Nothing is cloned as long as the source is not found. -/
theorem cloneOSVolume_of_quiet {vc : VerdaCluster} {vm : VerdaMachine}
    (h : snap.Quiet (cloneOSVolume vc vm)) : ∃ e,
      (resolveOSVolume vm.spec.osVolumeID).eval snap.view = .error e := by
  rw [cloneOSVolume, Snapshot.quiet_bind] at h
  cases hres : (resolveOSVolume vm.spec.osVolumeID).eval snap.view with
  | error e => exact ⟨e, rfl⟩
  | ok sourceID =>
    have hclone := h.2
    simp only [hres, cloneVolume, Snapshot.quiet_bind] at hclone
    cases Snapshot.quiet_request.1 hclone.1.1

theorem reads_cloneOSVolume {vc : VerdaCluster} {vm : VerdaMachine} {e : Err}
    (h : (resolveOSVolume vm.spec.osVolumeID).eval snap.view = .error e) :
    snap.Reads (cloneOSVolume vc vm) (.error e, setOSVolumeReady vm
      { status := false, reason := "SourceVolumeNotFound", message := e.msg }) :=
  .bind ⟨quiet_resolveOSVolume _, h⟩ (.pure _)

/-- **The OS volume** stays as the first pass left it. The next one may fail to look it up. -/
theorem ensureOSVolume_again {vc : VerdaCluster} {vm vm₁ vm₂ : VerdaMachine} {r : Except Err Volume}
    (h : snap.Reads (ensureOSVolume vc vm) (r, vm₁)) (hsame : SameVolume vm₁ vm₂) :
    snap.Reads (ensureOSVolume vc vm₂) (r, vm₂) ∨
      ∃ e, snap.Reads (ensureOSVolume vc vm₂) (.error e, vm₂) := by
  obtain ⟨hquiet, heval⟩ := h
  rw [ensureOSVolume, Snapshot.quiet_bind] at hquiet
  rw [ensureOSVolume, Prog.eval_bind] at heval
  cases hlookup : (lookupOSVolume vm).eval snap.view with
  | error e =>
    rw [hlookup] at heval
    cases heval
    have hagain := lookupOSVolume_congr hsame.osVolumeID hsame.metadata
    rw [← hagain] at hlookup
    exact .inl (.bind ⟨quiet_lookupOSVolume _, hlookup⟩ (.pure _))
  | ok found =>
    rw [hlookup] at hquiet heval
    cases found with
    | some volume =>
      have hmanaged := adoptOSVolume_of_quiet hquiet.2
      have hreads : snap.Reads (adoptOSVolume vm volume) _ := reads_adoptOSVolume hmanaged
      rw [hreads.eval] at heval
      cases heval
      rcases lookupOSVolume_again hlookup hsame.osVolumeID hsame.metadata with hagain | ⟨e, hagain⟩
      · refine .inl (.bind ⟨quiet_lookupOSVolume _, hagain⟩ ?_)
        exact adoptOSVolume_again hmanaged hsame.osVolumeID hsame.osVolumeReady
      · exact .inr ⟨e, .bind ⟨quiet_lookupOSVolume _, hagain⟩ (.pure _)⟩
    | none =>
      rw [Snapshot.quiet_bind] at hquiet
      rw [Prog.eval_bind] at heval
      obtain ⟨e, hres⟩ := cloneOSVolume_of_quiet hquiet.2.1
      have hreads : snap.Reads (cloneOSVolume vc vm) _ := reads_cloneOSVolume hres
      rw [hreads.eval] at heval
      cases heval
      have hagain : (lookupOSVolume vm₂).eval snap.view = .ok none := by
        rw [lookupOSVolume_congr hsame.osVolumeID hsame.metadata]
        exact hlookup
      have hres₂ : (resolveOSVolume vm₂.spec.osVolumeID).eval snap.view = .error e := by
        rw [hsame.spec]
        exact hres
      have hclone : snap.Reads (cloneOSVolume vc vm₂) _ := reads_cloneOSVolume hres₂
      rw [setOSVolumeReady_self hsame.osVolumeReady] at hclone
      exact .inl (.bind ⟨quiet_lookupOSVolume _, hagain⟩ (.bind hclone (.pure _)))

theorem bootSource_again {vc : VerdaCluster} {vm vm₁ vm₂ : VerdaMachine} {r : Except Reply String}
    (h : snap.Reads (bootSource vc vm) (r, vm₁)) (hsame : SameVolume vm₁ vm₂)
    (hready : vm₂.status.conditions.instanceReady = vm₁.status.conditions.instanceReady ∨
      ∃ bootFrom, r = .ok bootFrom) :
    snap.Reads (bootSource vc vm₂) (r, vm₂) ∨
      ∃ e, snap.Reads (bootSource vc vm₂) (.error (.error e), vm₂) := by
  have hspec : vm₂.spec = vm.spec := by
    obtain ⟨_, _, hvm₁⟩ : AdoptsVolume vm vm₁ := h.obeys (bootSource_uses vc vm)
    rw [hsame.spec, hvm₁]
  obtain ⟨hquiet, heval⟩ := h
  by_cases hid : vm.spec.osVolumeID ≠ ""
  · rw [bootSource, if_pos hid, Snapshot.quiet_bind] at hquiet
    rw [bootSource, if_pos hid, Prog.eval_bind] at heval
    rw [bootSource, hspec, if_pos hid]
    rcases hensure : (ensureOSVolume vc vm).eval snap.view with ⟨e | volume, vm'⟩
    · rw [hensure] at heval
      cases heval
      rcases ensureOSVolume_again ⟨hquiet.1, hensure⟩ hsame with hagain | ⟨e, hagain⟩
      · exact .inl (.bind hagain (.pure _))
      · exact .inr ⟨e, .bind hagain (.pure _)⟩
    · rw [hensure] at heval
      dsimp only at heval
      split at heval
      · rename_i hstatus
        cases heval
        have hready := hready.resolve_right (by rintro ⟨_, h⟩; cases h)
        have hsame' : SameVolume vm' vm₂ := ⟨hsame.1, hsame.2, hsame.3, hsame.4⟩
        rcases ensureOSVolume_again ⟨hquiet.1, hensure⟩ hsame' with hagain | ⟨e, hagain⟩
        · refine .inl (.bind hagain ?_)
          dsimp only
          rw [if_pos hstatus, setInstanceReadyFalse, setInstanceReady_self hready]
          exact .pure _
        · exact .inr ⟨e, .bind hagain (.pure _)⟩
      · rename_i hstatus
        cases heval
        rcases ensureOSVolume_again ⟨hquiet.1, hensure⟩ hsame with hagain | ⟨e, hagain⟩
        · refine .inl (.bind hagain ?_)
          dsimp only
          rw [if_neg hstatus]
          exact .pure _
        · exact .inr ⟨e, .bind hagain (.pure _)⟩
  · rw [bootSource, if_neg hid] at heval
    cases heval
    rw [bootSource, hspec, if_neg hid]
    exact .inl (.pure _)

/-! ## Creating the instance -/

/-- Only the metadata and the spec of the machine go into the instance. -/
theorem createMachineInstance_congr {boot : BootstrapInput} {cluster : Cluster} {vc : VerdaCluster}
    {machine : Machine} {vm vm' : VerdaMachine} (bootFrom : String) (hmeta : vm'.metadata = vm.metadata)
    (hspec : vm'.spec = vm.spec) :
    createMachineInstance boot cluster vc machine vm' bootFrom =
      createMachineInstance boot cluster vc machine vm bootFrom := by
  unfold createMachineInstance instanceSpec osVolumeSize dataVolumes machineTagValue
  rw [hmeta, hspec]

theorem not_quiet_createWith {spec : InstanceSpec} {scriptID : Option String} :
    ¬ snap.Quiet (createWith spec scriptID) := by
  rw [createWith, Snapshot.quiet_bind, Snapshot.quiet_request]
  rintro ⟨h, -⟩
  cases h

/-- Nothing is created without a request that changes something. -/
theorem createInstance_of_quiet {spec : InstanceSpec} (h : snap.Quiet (createInstance spec)) :
    ∃ e, (createInstance spec).eval snap.view = .error e := by
  rw [createInstance, Snapshot.quiet_bind, Snapshot.eval_request] at h
  rw [createInstance, Prog.eval_bind, Snapshot.eval_request]
  cases hlist : snap.answers .instancesGet with
  | error e => exact ⟨_, rfl⟩
  | ok instances =>
    rw [hlist] at h
    cases hfind : instances.find? (blocksHostname spec.hostname) with
    | some existing => simp [hfind, Prog.eval]
    | none =>
      simp only [hfind, Snapshot.quiet_bind] at h ⊢
      rw [Prog.eval_bind]
      cases hdel : (deleteStartupScriptByName spec.hostname).eval snap.view with
      | error e => exact ⟨e, rfl⟩
      | ok u =>
        simp only [hdel] at h
        have hcreate := h.2.2
        split at hcreate
        · exact absurd hcreate not_quiet_createWith
        · rw [Snapshot.quiet_bind, Snapshot.quiet_request] at hcreate
          cases hcreate.1

/-- Without a request that changes something the creation fails. -/
theorem createMachineInstance_of_quiet {boot : BootstrapInput} {cluster : Cluster} {vc : VerdaCluster}
    {machine : Machine} {vm : VerdaMachine} {bootFrom : String}
    (h : snap.Quiet (createMachineInstance boot cluster vc machine vm bootFrom)) :
    ∃ e, snap.Reads (createMachineInstance boot cluster vc machine vm bootFrom) (.error e) := by
  have hfails : ∃ e, (createMachineInstance boot cluster vc machine vm bootFrom).eval snap.view =
      .error e := by
    unfold createMachineInstance at h ⊢
    cases hdata : getBootstrapData machine boot.secret with
    | error e => exact ⟨_, rfl⟩
    | ok data =>
      simp only [hdata] at h ⊢
      cases hscript : boot.toStartupScript data vm.metadata.name with
      | error e => exact ⟨_, rfl⟩
      | ok script =>
        simp only [hscript] at h
        exact createInstance_of_quiet h
  exact hfails.imp fun e he => ⟨h, he⟩

/-! ## Without an instance -/

/-- An object whose instance was not found. -/
theorem reads_acquireInstance_none {boot : BootstrapInput} {cluster : Cluster} {vc : VerdaCluster}
    {machine : Machine} {vm vm' : VerdaMachine} {reply : Reply}
    (hfind : (findInstance vm).eval snap.view = .ok none)
    (hboot : snap.Reads (bootSource vc vm) (.error reply, vm')) :
    snap.Reads (acquireInstance boot cluster vc machine vm) (.error reply, vm') :=
  .bind ⟨quiet_findInstance vm, hfind⟩ (.bind hboot (.pure _))

/-- The condition after a creation that failed. -/
def createFailed (e : Err) : Condition where
  status := false
  reason := if e.kind = .hostnameInUse then "HostnameInUse" else "InstanceCreateFailed"
  message := e.msg

/-- The reply after a creation that failed. -/
def createReply (e : Err) : Reply :=
  if e.kind = .hostnameInUse then .ok { requeueAfter := instanceResyncInterval } else .error e

theorem reads_acquireInstance_failed {boot : BootstrapInput} {cluster : Cluster} {vc : VerdaCluster}
    {machine : Machine} {vm vm' : VerdaMachine} {bootFrom : String} {e : Err}
    (hfind : (findInstance vm).eval snap.view = .ok none)
    (hboot : snap.Reads (bootSource vc vm) (.ok bootFrom, vm'))
    (hcreate : snap.Reads (createMachineInstance boot cluster vc machine vm' bootFrom) (.error e)) :
    snap.Reads (acquireInstance boot cluster vc machine vm)
      (.error (createReply e), setInstanceReady vm' (createFailed e)) := by
  refine .bind ⟨quiet_findInstance vm, hfind⟩ (.bind hboot (.bind hcreate ?_))
  by_cases hkind : e.kind = .hostnameInUse
  · simp only [createReply, createFailed, hkind, if_true]
    exact .pure _
  · simp only [createReply, createFailed, hkind, if_false]
    exact .pure _

/-- **Without an instance** the object stays as the first pass left it. -/
theorem acquireInstance_again {boot : BootstrapInput} {cluster : Cluster} {vc : VerdaCluster}
    {machine : Machine} {vm : VerdaMachine} (hfind : (findInstance vm).eval snap.view = .ok none)
    (hquiet : snap.Quiet (acquireInstance boot cluster vc machine vm)) :
    ∃ reply vm', snap.Reads (acquireInstance boot cluster vc machine vm) (.error reply, vm') ∧
      ∃ reply', snap.Reads (acquireInstance boot cluster vc machine vm') (.error reply', vm') := by
  have hagain : ∀ vm', AdoptsVolume vm vm' → (findInstance vm').eval snap.view = .ok none := by
    rintro _ ⟨_, _, rfl⟩
    exact hfind
  rw [acquireInstance, Snapshot.quiet_bind, hfind, Snapshot.quiet_bind] at hquiet
  rcases hboot : (bootSource vc vm).eval snap.view with ⟨reply | bootFrom, vm₁⟩
  · have hreads : snap.Reads (bootSource vc vm) (.error reply, vm₁) := ⟨hquiet.2.1, hboot⟩
    have hadopt : AdoptsVolume vm vm₁ := hreads.obeys (bootSource_uses vc vm)
    refine ⟨reply, vm₁, reads_acquireInstance_none hfind hreads, ?_⟩
    rcases bootSource_again hreads ⟨rfl, rfl, rfl, rfl⟩ (.inl rfl) with hsame | ⟨e, hfails⟩
    · exact ⟨reply, reads_acquireInstance_none (hagain vm₁ hadopt) hsame⟩
    · exact ⟨.error e, reads_acquireInstance_none (hagain vm₁ hadopt) hfails⟩
  · have hreads : snap.Reads (bootSource vc vm) (.ok bootFrom, vm₁) := ⟨hquiet.2.1, hboot⟩
    have hadopt : AdoptsVolume vm vm₁ := hreads.obeys (bootSource_uses vc vm)
    rw [hboot, Snapshot.quiet_bind] at hquiet
    obtain ⟨e, hcreate⟩ := createMachineInstance_of_quiet hquiet.2.2.1
    refine ⟨_, _, reads_acquireInstance_failed hfind hreads hcreate, ?_⟩
    -- only a condition was written since the creation failed, and it is what the next one reads
    obtain ⟨vm₂, hvm₂⟩ : ∃ vm₂, vm₂ = setInstanceReady vm₁ (createFailed e) := ⟨_, rfl⟩
    have hadopt₂ : AdoptsVolume vm vm₂ := hadopt.trans ⟨_, _, hvm₂⟩
    have hsame₂ : SameVolume vm₁ vm₂ := by
      subst hvm₂
      exact ⟨rfl, rfl, rfl, rfl⟩
    have hcreate₂ : snap.Reads (createMachineInstance boot cluster vc machine vm₂ bootFrom)
        (.error e) := by
      rw [createMachineInstance_congr bootFrom hsame₂.metadata hsame₂.spec]
      exact hcreate
    rw [← hvm₂]
    rcases bootSource_again hreads hsame₂ (.inr ⟨_, rfl⟩) with hsame | ⟨e', hfails⟩
    · have hfailed := reads_acquireInstance_failed (hagain vm₂ hadopt₂) hsame hcreate₂
      rw [setInstanceReady_self (by rw [hvm₂]; rfl)] at hfailed
      exact ⟨_, hfailed⟩
    · exact ⟨.error e', reads_acquireInstance_none (hagain vm₂ hadopt₂) hfails⟩

/-! ## With an instance -/

/-- Nothing is left to do for the tag of the OS volume. -/
def TagSettled (snap : Snapshot) (vm : VerdaMachine) : Prop :=
  vm.status.osVolumeID = "" ∨ Condition.isTrue vm.status.conditions.osVolumeReady = true ∨
    ∃ e, (getVolume vm.status.osVolumeID).eval snap.view = .error e

theorem TagSettled.reads {vm : VerdaMachine} (h : TagSettled snap vm) :
    snap.Reads (ensureOSVolumeTag vm) vm := by
  unfold ensureOSVolumeTag
  split
  · exact .pure vm
  · rename_i hnot
    rcases h with hid | hready | ⟨e, hget⟩
    · exact absurd (.inl hid) hnot
    · exact absurd (.inr hready) hnot
    · exact .bind ⟨Snapshot.quiet_getVolume, hget⟩ (.pure vm)

theorem tagSettled_of_reads {vm vm' : VerdaMachine} (h : snap.Reads (ensureOSVolumeTag vm) vm') :
    TagSettled snap vm' := by
  obtain ⟨hquiet, heval⟩ := h
  unfold ensureOSVolumeTag at hquiet heval
  split at heval
  · rename_i hdone
    cases heval
    exact hdone.imp_right .inl
  · rename_i hnot
    rw [if_neg hnot, Snapshot.quiet_bind] at hquiet
    rw [Prog.eval_bind] at heval
    cases hget : (getVolume vm.status.osVolumeID).eval snap.view with
    | error e =>
      rw [hget] at heval
      cases heval
      exact .inr (.inr ⟨e, hget⟩)
    | ok volume =>
      rw [hget] at hquiet heval
      dsimp only at hquiet heval
      split at heval
      · cases heval
        exact .inr (.inl rfl)
      · rename_i hmanaged
        rw [if_neg hmanaged, Snapshot.quiet_bind] at hquiet
        exact absurd hquiet.2.1 not_quiet_tagVolume

/-- The instance is recorded, with all that comes with it. -/
structure Recorded (snap : Snapshot) (inst : Instance) (vm : VerdaMachine) : Prop where
  instanceID : vm.status.instanceID = inst.id
  instanceState : vm.status.instanceState = inst.status
  startupScriptID : inst.startupScriptID ≠ "" → vm.status.startupScriptID = inst.startupScriptID
  failureDomain : vm.status.failureDomain = inst.location
  addresses : vm.status.addresses = instanceAddresses inst
  providerID : vm.spec.providerID = providerID inst.hostname
  tag : TagSettled snap vm

theorem recorded_of_reads {vm vm' : VerdaMachine} {inst : Instance}
    (h : snap.Reads (recordInstance vm inst) vm') : Recorded snap inst vm' := by
  obtain ⟨hquiet, heval⟩ := h
  rw [recordInstance, Snapshot.quiet_bind] at hquiet
  rw [recordInstance, Prog.eval_bind] at heval
  obtain ⟨vm₁, hvm₁⟩ : ∃ vm₁, snap.Reads (ensureOSVolumeTag (withStatus vm fun s =>
    { s with instanceID := inst.id, instanceState := inst.status })) vm₁ := ⟨_, hquiet.1, rfl⟩
  have htag := tagSettled_of_reads hvm₁
  rw [hvm₁.eval] at heval
  obtain ⟨_, hkeeps⟩ := hvm₁.obeys (ensureOSVolumeTag_uses _)
  subst heval
  refine ⟨congrArg (·.status.instanceID) hkeeps, congrArg (·.status.instanceState) hkeeps, ?_, rfl, rfl,
    rfl, htag⟩
  exact fun hscript => if_pos hscript

theorem Recorded.reads {vm : VerdaMachine} {inst : Instance} (h : Recorded snap inst vm) :
    snap.Reads (recordInstance vm inst) vm := by
  have hscript : (if inst.startupScriptID ≠ "" then inst.startupScriptID
      else vm.status.startupScriptID) = vm.status.startupScriptID := by
    split
    · exact (h.startupScriptID ‹_›).symm
    · rfl
  have hstart : (withStatus vm fun s => { s with instanceID := inst.id, instanceState := inst.status }) =
      vm := by
    simp only [withStatus, ← h.instanceID, ← h.instanceState]
  rw [recordInstance, hstart]
  refine .bind h.tag.reads ?_
  simp only [withStatus, hscript, ← h.failureDomain, ← h.addresses, ← h.providerID]
  exact .pure vm

theorem Recorded.setInstanceReady {vm : VerdaMachine} {inst : Instance} (h : Recorded snap inst vm)
    (c : Condition) : Recorded snap inst (setInstanceReady vm c) :=
  ⟨h.1, h.2, h.3, h.4, h.5, h.6, h.7⟩

/-- Without a request that changes something, an instance without capacity is not deleted. -/
theorem deleteInstance_of_quiet {id : String} {i : Sdk.Instance}
    (hrow : snap.account.instances.get id = some i) (hstatus : i.status = statusNoCapacity)
    (h : snap.Quiet (deleteInstance id)) : ∃ e, snap.Reads (deleteInstance id) (.error e) := by
  have hfails : ∃ e, (deleteInstance id).eval snap.view = .error e := by
    rw [deleteInstance, Snapshot.quiet_bind, Snapshot.eval_request] at h
    rw [deleteInstance, Snapshot.eval_request_bind]
    rcases snap.instance_ id with hans | ⟨e, hans, hnot⟩
    · rw [hans, hrow, found] at h ⊢
      cases hmanaged : isManaged i with
      | false =>
        simp only [hmanaged, Bool.not_false, if_true]
        exact ⟨_, rfl⟩
      | true =>
        -- it would be shut down
        have hshutdown := h.2
        simp only [hmanaged, hstatus, Bool.not_true, Bool.false_eq_true, if_false, statusNoCapacity,
          statusDiscontinued, statusDeleted, statusDeleting, statusOffline, String.reduceEq, or_self,
          Snapshot.quiet_bind] at hshutdown
        cases Snapshot.quiet_request.1 hshutdown.1
    · rw [hans]
      simp only [hnot]
      exact ⟨_, rfl⟩
  exact hfails.imp fun e he => ⟨h, he⟩

/-- **With an instance** that does not run yet the object stays as the first pass left it. -/
theorem settleInstance_again {vc : VerdaCluster} {vm vm' : VerdaMachine} {inst : Instance} {reply : Reply}
    (h : snap.Reads (settleInstance vc vm inst) (reply, vm')) (hrunning : inst.status ≠ statusRunning)
    (hrow : inst.status ≠ statusNotFound →
      ∃ i, snap.account.instances.get inst.id = some i ∧ i.status = inst.status) :
    Recorded snap inst vm' ∧ ∃ reply', snap.Reads (settleInstance vc vm' inst) (reply', vm') := by
  obtain ⟨hquiet, heval⟩ := h
  rw [settleInstance, Snapshot.quiet_bind] at hquiet
  rw [settleInstance, Prog.eval_bind] at heval
  obtain ⟨vm₁, hvm₁⟩ : ∃ vm₁, snap.Reads (recordInstance vm inst) vm₁ := ⟨_, hquiet.1, rfl⟩
  have hrecorded := recorded_of_reads hvm₁
  rw [hvm₁.eval] at hquiet heval
  simp only [if_neg hrunning] at hquiet heval
  unfold settleInstance
  simp only [if_neg hrunning]
  by_cases hcapacity : inst.status = statusNoCapacity
  · simp only [if_pos hcapacity] at hquiet heval ⊢
    obtain ⟨i, hi, hstatus⟩ := hrow (by rw [hcapacity]; decide)
    rw [Snapshot.quiet_bind] at hquiet
    rw [Prog.eval_bind] at heval
    obtain ⟨e, hdelete⟩ := deleteInstance_of_quiet hi (hstatus.trans hcapacity) hquiet.2.1
    rw [hdelete.eval] at heval
    cases heval
    exact ⟨hrecorded, .error e, .bind hrecorded.reads (.bind hdelete (.pure _))⟩
  · simp only [if_neg hcapacity] at heval ⊢
    split at heval
    · rename_i hfailed
      cases heval
      refine ⟨hrecorded.setInstanceReady _, .ok {}, .bind (hrecorded.setInstanceReady _).reads ?_⟩
      simp only [if_pos hfailed]
      exact .pure _
    · rename_i hfailed
      cases heval
      refine ⟨hrecorded.setInstanceReady _, .ok { requeueAfter := instancePollInterval },
        .bind (hrecorded.setInstanceReady _).reads ?_⟩
      simp only [if_neg hfailed]
      exact .pure _

/-- The pass that finds the instance running provisions the machine. -/
theorem settleInstance_running {vc : VerdaCluster} {vm vm' : VerdaMachine} {inst : Instance}
    {reply : Reply} (h : snap.Reads (settleInstance vc vm inst) (reply, vm'))
    (hrunning : inst.status = statusRunning) :
    Recorded snap inst vm' ∧ isSet vm'.status.provisioned = true ∧
      vm'.status.conditions.instanceReady = some readyCondition := by
  obtain ⟨hquiet, heval⟩ := h
  rw [settleInstance, Snapshot.quiet_bind] at hquiet
  rw [settleInstance, Prog.eval_bind] at heval
  have hrecorded := recorded_of_reads ⟨hquiet.1, rfl⟩
  simp only [if_pos hrunning] at heval
  cases heval
  have hready := hrecorded.setInstanceReady readyCondition
  exact ⟨⟨hready.1, hready.2, hready.3, hready.4, hready.5, hready.6, hready.7⟩, rfl, rfl⟩

/-! ## Once the machine is provisioned -/

/-- The condition `resyncInstance` leaves. -/
def resyncCondition (inst : Instance) : Condition :=
  if inst.status = statusRunning then readyCondition
  else if instanceGone inst then
    { status := false, reason := "InstanceTerminated"
      message := stateMessage inst ++ "; delete the Machine to replace it" }
  else if inst.status = statusError then
    { status := false, reason := "InstanceFailed", message := stateMessage inst }
  else { status := false, reason := "InstanceNotRunning", message := stateMessage inst }

/-- What `resyncInstance` copies from an instance. -/
def resynced (inst : Instance) (vm : VerdaMachine) : VerdaMachine :=
  setInstanceReady
    (withStatus vm fun s => { s with
      instanceState := inst.status
      addresses := if inst.ip ≠ "" then instanceAddresses inst else s.addresses })
    (resyncCondition inst)

theorem reads_resyncInstance {vm : VerdaMachine} {found : Option Instance} {inst : Instance}
    (hfind : (findInstance vm).eval snap.view = .ok found)
    (hinst : found.getD { id := vm.status.instanceID, status := statusNotFound } = inst) :
    snap.Reads (resyncInstance vm)
      (.ok { requeueAfter := instanceResyncInterval }, resynced inst vm) := by
  refine .bind ⟨quiet_findInstance vm, hfind⟩ ?_
  simp only [hinst]
  unfold resynced resyncCondition
  split
  · exact .pure _
  · split
    · exact .pure _
    · split <;> exact .pure _

theorem reads_resyncInstance_error {vm : VerdaMachine} {e : Err}
    (hfind : (findInstance vm).eval snap.view = .error e) :
    snap.Reads (resyncInstance vm) (.error e, vm) :=
  .bind ⟨quiet_findInstance vm, hfind⟩ (.pure _)

theorem resynced_resynced (inst : Instance) (vm : VerdaMachine) :
    resynced inst (resynced inst vm) = resynced inst vm := by
  simp only [resynced, setInstanceReady, withStatus]
  split <;> rfl

/-- What the pass that provisions the machine leaves is what `resyncInstance` would copy. -/
theorem Recorded.resynced {vm : VerdaMachine} {inst : Instance} (h : Recorded snap inst vm)
    (hrunning : inst.status = statusRunning)
    (hready : vm.status.conditions.instanceReady = some readyCondition) : resynced inst vm = vm := by
  have haddresses : (if inst.ip ≠ "" then instanceAddresses inst else vm.status.addresses) =
      vm.status.addresses := by
    rw [h.addresses, ite_self]
  simp only [Controller.resynced, resyncCondition, hrunning, if_true]
  rw [setInstanceReady_self]
  · simp only [withStatus, haddresses, ← hrunning, ← h.instanceState]
  · exact hready

/-- **A machine that is resynced** stays as the first pass left it. -/
theorem resyncInstance_again {vm vm' : VerdaMachine} {reply : Reply}
    (h : snap.Reads (resyncInstance vm) (reply, vm')) :
    ∃ reply', snap.Reads (resyncInstance vm') (reply', vm') := by
  cases hfind : (findInstance vm).eval snap.view with
  | error e =>
    have heq := h.eval.symm.trans (reads_resyncInstance_error hfind).eval
    cases heq
    exact ⟨_, h⟩
  | ok found =>
    obtain ⟨inst, hinst⟩ : ∃ inst,
      found.getD { id := vm.status.instanceID, status := statusNotFound } = inst := ⟨_, rfl⟩
    have heq := h.eval.symm.trans (reads_resyncInstance hfind hinst).eval
    cases heq
    -- neither the ID nor the name has changed
    have hagain : (findInstance (resynced inst vm)).eval snap.view = .ok found := hfind
    have hreads := reads_resyncInstance hagain hinst
    rw [resynced_resynced] at hreads
    exact ⟨_, hreads⟩

/-! ## The whole pass -/

section

variable {boot : BootstrapInput} {cluster : Cluster} {vc : VerdaCluster} {machine : Machine}

theorem reconcileNormal_resync {vm : VerdaMachine} (h : isSet vm.status.provisioned = true) :
    reconcileNormal boot cluster vc machine vm = resyncInstance vm := if_pos h

/-- The condition of a machine that waits. -/
def waitCondition (cluster : Cluster) : Condition :=
  if !isSet cluster.infrastructureProvisioned then
    { status := false, reason := "WaitingForClusterInfrastructure"
      message := "Cluster infrastructure is not provisioned yet" }
  else
    { status := false, reason := "WaitingForBootstrapData"
      message := "Machine bootstrap data secret is not available yet" }

theorem reconcileNormal_waits {vm : VerdaMachine} (hprov : isSet vm.status.provisioned = false)
    (h : isSet cluster.infrastructureProvisioned = false ∨ machine.dataSecretName = none) :
    reconcileNormal boot cluster vc machine vm =
      pure (.ok {}, setInstanceReady vm (waitCondition cluster)) := by
  rw [reconcileNormal, waitCondition, if_neg (by simp [hprov])]
  split
  · rfl
  · rename_i hinfra
    rw [if_pos (h.resolve_left (by simpa using hinfra))]
    rfl

/-- The machine is not provisioned and waits for nothing. -/
structure Acquiring (cluster : Cluster) (machine : Machine) (vm : VerdaMachine) : Prop where
  provisioned : isSet vm.status.provisioned = false
  infrastructure : isSet cluster.infrastructureProvisioned = true
  bootstrap : machine.dataSecretName ≠ none

variable {vm vm' : VerdaMachine} {inst : Instance}

/-- Such a machine gets an instance, which is settled. -/
theorem Acquiring.reconcileNormal_eq (h : Acquiring cluster machine vm) : ∃ settle,
    reconcileNormal boot cluster vc machine vm =
      acquireInstance boot cluster vc machine vm >>= settle ∧
    (∀ reply vm', settle (.error reply, vm') = pure (reply, vm')) ∧
    ∀ inst vm', settle (.ok inst, vm') = settleInstance vc vm' inst := by
  unfold reconcileNormal
  rw [if_neg (by rw [h.provisioned]; decide), if_neg (by rw [h.infrastructure]; decide),
    if_neg h.bootstrap]
  exact ⟨_, rfl, fun _ _ => rfl, fun _ _ => rfl⟩

theorem Acquiring.reads_error (h : Acquiring cluster machine vm) {reply : Reply}
    (hreads : snap.Reads (acquireInstance boot cluster vc machine vm) (.error reply, vm')) :
    snap.Reads (reconcileNormal boot cluster vc machine vm) (reply, vm') := by
  obtain ⟨settle, heq, herror, -⟩ := h.reconcileNormal_eq
  rw [heq]
  exact .bind hreads (herror reply vm' ▸ .pure _)

theorem reads_acquireInstance_found (hfind : (findInstance vm).eval snap.view = .ok (some inst)) :
    snap.Reads (acquireInstance boot cluster vc machine vm) (.ok inst, vm) :=
  .bind ⟨quiet_findInstance vm, hfind⟩ (.pure _)

theorem Acquiring.reads_settle (h : Acquiring cluster machine vm) {out : Reply × VerdaMachine}
    (hfind : (findInstance vm).eval snap.view = .ok (some inst)) :
    snap.Reads (reconcileNormal boot cluster vc machine vm) out ↔
      snap.Reads (settleInstance vc vm inst) out := by
  obtain ⟨settle, heq, -, hok⟩ := h.reconcileNormal_eq
  have hacquire : snap.Reads (acquireInstance boot cluster vc machine vm) (.ok inst, vm) :=
    reads_acquireInstance_found hfind
  rw [heq]
  constructor
  · rintro ⟨hquiet, heval⟩
    rw [Snapshot.quiet_bind, hacquire.eval, hok] at hquiet
    rw [Prog.eval_bind, hacquire.eval, hok] at heval
    exact ⟨hquiet.2, heval⟩
  · intro hreads
    exact .bind hacquire (hok inst vm ▸ hreads)

/-- A lookup that fails leaves the object alone, on either way. -/
theorem Acquiring.again_error {e : Err} (h : Acquiring cluster machine vm)
    (hfind : (findInstance vm).eval snap.view = .error e) :
    snap.Reads (reconcileNormal boot cluster vc machine vm) (.error e, vm) :=
  h.reads_error (.bind ⟨quiet_findInstance vm, hfind⟩ (.pure _))

theorem Acquiring.again_found (h : Acquiring cluster machine vm)
    (hfind : (findInstance vm).eval snap.view = .ok (some inst)) {reply : Reply}
    (hreads : snap.Reads (reconcileNormal boot cluster vc machine vm) (reply, vm')) :
    ∃ reply', snap.Reads (reconcileNormal boot cluster vc machine vm') (reply', vm') := by
  have hsettle := (h.reads_settle hfind).1 hreads
  have hsettles : Settles inst vm vm' := hsettle.obeys (settleInstance_uses vc vm inst)
  have htag : machineTagValue vm' = machineTagValue vm := by
    rw [machineTagValue, machineTagValue, hsettles.metadata]
  by_cases hrunning : inst.status = statusRunning
  · -- the next pass is a resync
    obtain ⟨hrecorded, hprov, hready⟩ := settleInstance_running hsettle hrunning
    rw [reconcileNormal_resync hprov]
    rcases findInstance_again hfind hrecorded.instanceID htag with hagain | ⟨e, hagain⟩
    · have hresync := reads_resyncInstance hagain rfl
      rw [Option.getD_some, hrecorded.resynced hrunning hready] at hresync
      exact ⟨_, hresync⟩
    · exact ⟨_, reads_resyncInstance_error hagain⟩
  · have hrow : inst.status ≠ statusNotFound →
        ∃ i, snap.account.instances.get inst.id = some i ∧ i.status = inst.status := by
      intro hstatus
      obtain ⟨i, hi, hinst⟩ := (findInstance_row hfind).resolve_right hstatus
      exact ⟨i, hi, (congrArg Instance.status hinst).symm⟩
    obtain ⟨hrecorded, reply', hagain⟩ := settleInstance_again hsettle hrunning hrow
    have hprov : isSet vm'.status.provisioned = false := by
      have hprovisions := hsettle.obeys (settleInstance_provisions h.provisioned vc inst)
      exact Bool.eq_false_iff.2 fun hset => hrunning (hprovisions hset).1
    have h' : Acquiring cluster machine vm' := ⟨hprov, h.infrastructure, h.bootstrap⟩
    rcases findInstance_again hfind hrecorded.instanceID htag with hsame | ⟨e, hfails⟩
    · exact ⟨reply', (h'.reads_settle hsame).2 hagain⟩
    · exact ⟨_, h'.again_error hfails⟩

theorem Acquiring.again_none (h : Acquiring cluster machine vm)
    (hfind : (findInstance vm).eval snap.view = .ok none) {reply : Reply}
    (hreads : snap.Reads (reconcileNormal boot cluster vc machine vm) (reply, vm')) :
    ∃ reply', snap.Reads (reconcileNormal boot cluster vc machine vm') (reply', vm') := by
  have hquiet : snap.Quiet (acquireInstance boot cluster vc machine vm) := by
    obtain ⟨settle, heq, -⟩ := h.reconcileNormal_eq
    have hwhole := hreads.quiet
    rw [heq, Snapshot.quiet_bind] at hwhole
    exact hwhole.1
  obtain ⟨reply₁, vm₁, hfirst, reply₂, hsecond⟩ := acquireInstance_again hfind hquiet
  cases hreads.eval.symm.trans (h.reads_error hfirst).eval
  have hprov : isSet vm'.status.provisioned = false := by
    obtain ⟨_, _, rfl⟩ : AdoptsVolume vm vm' :=
      hfirst.obeys (acquireInstance_uses boot cluster vc machine vm)
    exact h.provisioned
  have h' : Acquiring cluster machine vm' := ⟨hprov, h.infrastructure, h.bootstrap⟩
  exact ⟨_, h'.reads_error hsecond⟩

/-- A pass that changes nothing leaves an object that the next pass leaves alone. -/
theorem reconcileNormal_again {reply : Reply}
    (hreads : snap.Reads (reconcileNormal boot cluster vc machine vm) (reply, vm')) :
    ∃ reply', snap.Reads (reconcileNormal boot cluster vc machine vm') (reply', vm') := by
  by_cases hprov : isSet vm.status.provisioned = true
  · rw [reconcileNormal_resync hprov] at hreads
    have hkept := (hreads.obeys (resyncInstance_uses vm)).2.2.2.2.2
    rw [reconcileNormal_resync (by rw [hkept]; exact hprov)]
    exact resyncInstance_again hreads
  · rw [Bool.not_eq_true] at hprov
    by_cases hwaits : isSet cluster.infrastructureProvisioned = false ∨ machine.dataSecretName = none
    · rw [reconcileNormal_waits hprov hwaits] at hreads
      cases hreads.eval
      have hprov' : isSet (setInstanceReady vm (waitCondition cluster)).status.provisioned = false := hprov
      rw [reconcileNormal_waits hprov' hwaits]
      exact ⟨.ok {}, .pure _⟩
    · rw [not_or, Bool.not_eq_false] at hwaits
      have h : Acquiring cluster machine vm := ⟨hprov, hwaits.1, hwaits.2⟩
      cases hfind : (findInstance vm).eval snap.view with
      | error e =>
        cases hreads.eval.symm.trans (h.again_error hfind).eval
        exact ⟨_, h.again_error hfind⟩
      | ok found =>
        cases found with
        | none => exact h.again_none hfind hreads
        | some inst => exact h.again_found hfind hreads

end

/-- **Reconciliation settles.** As long as the account stays as it is, a pass that makes no request that
changes something is followed by one that makes none either and leaves the object as it is. -/
theorem reconcileNormal_settles (snap : Snapshot) (boot : BootstrapInput) (cluster : Cluster)
    (vc : VerdaCluster) (machine : Machine) (vm vm' : VerdaMachine) (reply : Reply)
    (hquiet : snap.Quiet (reconcileNormal boot cluster vc machine vm))
    (hpass : (reconcileNormal boot cluster vc machine vm).eval snap.view = (reply, vm')) :
    snap.Quiet (reconcileNormal boot cluster vc machine vm') ∧
      ((reconcileNormal boot cluster vc machine vm').eval snap.view).2 = vm' := by
  obtain ⟨reply', hagain⟩ := reconcileNormal_again ⟨hquiet, hpass⟩
  exact ⟨hagain.quiet, by rw [hagain.eval]⟩

/-! ## A sample -/

/-- A machine that lost its status, with the clone that its instance was created from. -/
def lostMachine : VerdaMachine where
  metadata := { ns := "default", name := "m0" }
  spec := { instanceType := "t", osVolumeID := "base" }
  status := { osVolumeID := "v1" }

def lostAccount : Account where
  instances := ⟨[
    { id := "x1", hostname := "m0", status := statusRunning, ip := some "1.2.3.4"
      tags := [⟨tagMachine, "default/m0"⟩, ⟨tagManagedBy, managedByValue⟩] }], List.nodup_singleton _⟩
  volumes := ⟨[{ volume :=
    { id := "v1", name := "default-m0-os", status := volumeStatusAttached
      tags := [⟨tagManagedBy, managedByValue⟩] } }], List.nodup_singleton _⟩

def lostSnapshot : Snapshot := .ofAccount lostAccount fun _ => .error absent

def lostPass : VerdaMachine → ClientM (Reply × VerdaMachine) :=
  reconcileNormal ⟨.ok none, fun _ _ => .ok []⟩
    { ns := "default", name := "c0", infrastructureProvisioned := some true }
    { metadata := { ns := "default", name := "c0" }, spec := { location := "here" } }
    { ns := "default", name := "m0", dataSecretName := some "data" }

/-- The machine after that pass. -/
def foundMachine : VerdaMachine := ((lostPass lostMachine).eval lostSnapshot.view).2

/-- The pass finds the instance by its tag and provisions the machine; the next one is a resync. -/
theorem reconcileNormal_settles_sample : isSet foundMachine.status.provisioned = true ∧
    lostSnapshot.Quiet (lostPass foundMachine) ∧
    ((lostPass foundMachine).eval lostSnapshot.view).2 = foundMachine := by
  have hquiet : lostSnapshot.Quiet (lostPass lostMachine) := by
    unfold Snapshot.Quiet
    decide +kernel
  exact ⟨by decide +kernel,
    reconcileNormal_settles lostSnapshot _ _ _ _ lostMachine foundMachine _ hquiet rfl⟩

end VerdaCapi.Controller
