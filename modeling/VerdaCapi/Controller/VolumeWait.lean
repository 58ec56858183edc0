import VerdaCapi.Controller.MachineRules

/-!
# What a deletion waits for

Once its instance is gone, `reconcileDelete` purges the volumes that Verda has moved to the trash and
waits as long as others are left. `progresses_iff`: the wait is for something that happens, unless all
that is left of the volumes is detached, as Verda leaves them under the spot policy `keep_detached`.
Nobody deletes such a volume (`detached_forever`).
-/

namespace VerdaCapi.Controller

open Remote Go Api Cloud

variable {snap : Snapshot}

/-! ## The loop over the volumes -/

/-- A volume of which Verda says that it is there, or that it is not. -/
def Answered (snap : Snapshot) (trash : List String) (id : String) : Prop :=
  if id ∈ trash then ∀ e, snap.answers (.volumesDelete id true) = .error e → isNotFound e = true
  else ∀ e, snap.answers (.volumesGet id) = .error e → isNotFound e = true

/-- The volume is neither in the trash nor gone. -/
def Left (snap : Snapshot) (trash : List String) (id : String) : Prop :=
  id ∉ trash ∧ ∃ vol, snap.answers (.volumesGet id) = .ok vol ∧ vol.status ≠ volumeStatusDeleted

/-- What the loop asks about a volume. -/
def purgeCall (trash : List String) (id : String) : Call :=
  ⟨.purgeInstanceVolumes, if id ∈ trash then .volumesDelete id true else .volumesGet id⟩

section

variable {trash : List String} {id : String} {n : Nat} {ids : List String}

/-- One round of the loop: the volume counts if it is left. -/
theorem purgeVolumes_cons (n : Nat) (ids : List String) (h : Answered snap trash id) : ∃ n',
    (n' = n + 1 ∧ Left snap trash id ∨ n' = n ∧ ¬ Left snap trash id) ∧
    (purgeVolumes trash n (id :: ids)).eval snap.view = (purgeVolumes trash n' ids).eval snap.view ∧
    (purgeVolumes trash n (id :: ids)).traceOf snap.view =
      ⟨purgeCall trash id, snap.view (purgeCall trash id)⟩ ::
        (purgeVolumes trash n' ids).traceOf snap.view := by
  by_cases htrash : id ∈ trash
  · have hleft : ¬ Left snap trash id := fun hl => hl.1 htrash
    refine ⟨n, .inr ⟨rfl, hleft⟩, ?_⟩
    rw [Answered, if_pos htrash] at h
    rw [purgeVolumes, if_pos htrash, purgeCall, if_pos htrash, Snapshot.eval_request_bind,
      Snapshot.traceOf_request_bind]
    cases hans : snap.answers (.volumesDelete id true) with
    | error e =>
      simp only [Snapshot.view, hans, h e hans, if_true]
      exact ⟨trivial, trivial⟩
    | ok u =>
      simp only [Snapshot.view, hans]
      exact ⟨trivial, trivial⟩
  · rw [Answered, if_neg htrash] at h
    rw [purgeVolumes, if_neg htrash, purgeCall, if_neg htrash, Snapshot.eval_request_bind,
      Snapshot.traceOf_request_bind]
    cases hans : snap.answers (.volumesGet id) with
    | error e =>
      have hleft : ¬ Left snap trash id := by
        rintro ⟨-, vol, hvol, -⟩
        rw [hans] at hvol
        cases hvol
      refine ⟨n, .inr ⟨rfl, hleft⟩, ?_⟩
      simp only [Snapshot.view, hans, h e hans, if_true]
      exact ⟨trivial, trivial⟩
    | ok vol =>
      by_cases hdeleted : vol.status = volumeStatusDeleted
      · have hleft : ¬ Left snap trash id := by
          rintro ⟨-, vol', hvol, hstatus⟩
          rw [hans] at hvol
          cases hvol
          exact hstatus hdeleted
        refine ⟨n, .inr ⟨rfl, hleft⟩, ?_⟩
        simp [Snapshot.view, hans, hdeleted]
      · refine ⟨n + 1, .inl ⟨rfl, htrash, vol, hans, hdeleted⟩, ?_⟩
        simp [Snapshot.view, hans, hdeleted]

/-- A request that fails ends the loop. -/
theorem purgeVolumes_fails (n : Nat) (ids : List String) (h : ¬ Answered snap trash id) :
    ∃ e, (purgeVolumes trash n (id :: ids)).eval snap.view = .error e := by
  by_cases htrash : id ∈ trash
  · rw [Answered, if_pos htrash] at h
    push Not at h
    rcases h with ⟨e, hans, hnot⟩
    rw [purgeVolumes, if_pos htrash, Snapshot.eval_request_bind, hans]
    simp only [hnot]
    exact ⟨_, rfl⟩
  · rw [Answered, if_neg htrash] at h
    push Not at h
    rcases h with ⟨e, hans, hnot⟩
    rw [purgeVolumes, if_neg htrash, Snapshot.eval_request_bind, hans]
    simp only [hnot]
    exact ⟨_, rfl⟩

/-- **The loop** goes through if every request is answered, and then counts the volumes that are left. -/
theorem eval_purgeVolumes (h : ∀ id ∈ ids, Answered snap trash id) : ∃ m,
    (purgeVolumes trash n ids).eval snap.view = .ok m ∧ n ≤ m ∧
    (n < m ↔ ∃ id ∈ ids, Left snap trash id) ∧
    (purgeVolumes trash n ids).traceOf snap.view =
      ids.map fun id => ⟨purgeCall trash id, snap.view (purgeCall trash id)⟩ := by
  induction ids generalizing n with
  | nil => exact ⟨n, rfl, le_rfl, by simp, rfl⟩
  | cons id ids ih =>
    rw [List.forall_mem_cons] at h
    obtain ⟨n', hn', heval, htrace⟩ := purgeVolumes_cons n ids h.1
    obtain ⟨m, hm, hle, hlt, hrest⟩ := ih (n := n') h.2
    refine ⟨m, heval.trans hm, ?_, ?_, ?_⟩
    · rcases hn' with ⟨rfl, -⟩ | ⟨rfl, -⟩ <;> omega
    · rw [List.exists_mem_cons_iff, ← hlt]
      rcases hn' with ⟨rfl, hleft⟩ | ⟨rfl, hleft⟩
      · simp only [hleft, true_or, iff_true]
        omega
      · simp [hleft]
    · rw [htrace, hrest, List.map_cons]

theorem answered_of_eval {m : Nat} (h : (purgeVolumes trash n ids).eval snap.view = .ok m) :
    ∀ id ∈ ids, Answered snap trash id := by
  induction ids generalizing n with
  | nil => exact List.forall_mem_nil _
  | cons id ids ih =>
    by_cases hans : Answered snap trash id
    · obtain ⟨n', -, heval, -⟩ := purgeVolumes_cons n ids hans
      exact List.forall_mem_cons.2 ⟨hans, ih (heval.symm.trans h)⟩
    · obtain ⟨e, he⟩ := purgeVolumes_fails n ids hans
      rw [he] at h
      cases h

end

/-! ## The pass -/

/-- Whatever is answered, a machine that is released without an error has lost its finalizer. -/
theorem releaseMachine_finalizer (vm : VerdaMachine) : (releaseMachine vm).Obeys (fun _ => True)
    fun out => ∀ r, out.1 = .ok r → machineFinalizer ∉ out.2.metadata.finalizers := by
  unfold releaseMachine
  refine (Prog.obeys_true _).bind fun out _ => ?_
  rcases out with ⟨result, vm⟩
  cases result with
  | error e =>
    intro r h
    cases h
  | ok u =>
    refine (Prog.obeys_true _).bind fun out _ => ?_
    rcases out with ⟨result, vm⟩
    cases result with
    | error e =>
      intro r h
      cases h
    | ok u =>
      intro r _
      simp [removeFinalizer]

/-- The volume that an answer shows. -/
def volumeOf : (Σ c : Call, c.Res) → Option Sdk.Volume
  | ⟨⟨_, .volumesGet _⟩, .ok vol⟩ => some vol
  | _ => none

theorem deletes_purgeCall {trash : List String} {id : String} :
    (purgeCall trash id).op.deletes = true ↔ id ∈ trash := by
  by_cases h : id ∈ trash
  · simp [purgeCall, h, Sdk.Op.deletes]
  · simp [purgeCall, h, Sdk.Op.deletes]

theorem volumeOf_purgeCall {trash : List String} {id : String} {vol : Sdk.Volume} :
    volumeOf ⟨purgeCall trash id, snap.view (purgeCall trash id)⟩ = some vol ↔
      id ∉ trash ∧ snap.answers (.volumesGet id) = .ok vol := by
  by_cases h : id ∈ trash
  · have hcall : purgeCall trash id = ⟨.purgeInstanceVolumes, .volumesDelete id true⟩ := by
      rw [purgeCall, if_pos h]
    rw [hcall]
    simp [volumeOf, h]
  · have hcall : purgeCall trash id = ⟨.purgeInstanceVolumes, .volumesGet id⟩ := by
      rw [purgeCall, if_neg h]
    rw [hcall, Snapshot.view]
    cases snap.answers (.volumesGet id) with
    | error e => simp [volumeOf]
    | ok v => simp [volumeOf, h]

/-- The deletion moves on: if a pass succeeds and keeps the finalizer, it deletes something, or a volume
that it waits for is not just detached. -/
def Progresses (snap : Snapshot) (now : Time) (vm : VerdaMachine) : Prop :=
  (∃ r, ((reconcileDelete now vm).eval snap.view).1 = .ok r) →
  machineFinalizer ∈ ((reconcileDelete now vm).eval snap.view).2.metadata.finalizers →
    (∃ e ∈ (reconcileDelete now vm).traceOf snap.view, e.1.op.deletes = true) ∨
    ∃ e ∈ (reconcileDelete now vm).traceOf snap.view, ∃ vol ∈ volumeOf e,
      vol.status ≠ volumeStatusDeleted ∧ vol.status ≠ volumeStatusDetached

/-- Of the volumes of the recorded instance none is in the trash, at least one is left, and all that are
left are detached. -/
structure Abandoned (snap : Snapshot) (vm : VerdaMachine) (i : Sdk.Instance) (trash : List Sdk.Volume) :
    Prop where
  recorded : vm.status.instanceID ≠ ""
  found : snap.answers (.instancesGetByID vm.status.instanceID) = .ok i
  listed : i.status ≠ statusNotFound
  managed : isManaged i = true
  listing : snap.answers .volumesInTrash = .ok trash
  untrashed : ∀ id ∈ instanceVolumeIDs i, id ∉ trash.map (·.id)
  answered : ∀ id ∈ instanceVolumeIDs i, ∀ e, snap.answers (.volumesGet id) = .error e →
    isNotFound e = true
  detached : ∀ id ∈ instanceVolumeIDs i, ∀ vol, snap.answers (.volumesGet id) = .ok vol →
    vol.status = volumeStatusDeleted ∨ vol.status = volumeStatusDetached
  left : ∃ id ∈ instanceVolumeIDs i, ∃ vol, snap.answers (.volumesGet id) = .ok vol ∧
    vol.status = volumeStatusDetached

/-- An instance that is gone was found under the recorded ID. -/
theorem findInstance_gone {vm : VerdaMachine} {inst : Instance}
    (h : (findInstance vm).eval snap.view = .ok (some inst)) (hgone : instanceGone inst = true)
    (hstatus : inst.status ≠ statusNotFound) : vm.status.instanceID ≠ "" ∧
      ∃ i, snap.answers (.instancesGetByID vm.status.instanceID) = .ok i ∧ inst = toInstance i := by
  rw [eval_findInstance] at h
  split at h
  · rename_i hid
    refine ⟨hid, ?_⟩
    cases hans : snap.answers (.instancesGetByID vm.status.instanceID) with
    | ok i =>
      rw [hans] at h
      cases h
      exact ⟨i, rfl, rfl⟩
    | error e =>
      rw [hans, pickByID] at h
      split at h
      · cases h
        exact absurd rfl hstatus
      · cases h
  · -- a lookup by tag passes over it
    cases hans : snap.answers .instancesGet with
    | error e =>
      rw [hans] at h
      cases h
    | ok is =>
      rw [hans, pickByTag] at h
      split at h
      · split at h
        · cases h
        · cases h
          exact absurd hgone ‹_›
      · cases h

/-- What the pass does when Verda does not know of an instance. -/
theorem reconcileDelete_none {now : Time} {vm : VerdaMachine}
    (h : (findInstance vm).eval snap.view = .ok none) : (reconcileDelete now vm).eval snap.view =
      (releaseMachine (setInstanceReadyFalse vm "Deleting" "Deleting Verda instance")).eval snap.view := by
  have hfind : findInstance (setInstanceReadyFalse vm "Deleting" "Deleting Verda instance") =
    findInstance vm := rfl
  rw [reconcileDelete, Prog.eval_bind, hfind, h]

theorem reconcileDelete_notFound {now : Time} {vm : VerdaMachine} {inst : Instance}
    (h : (findInstance vm).eval snap.view = .ok (some inst)) (hstatus : inst.status = statusNotFound) :
    (reconcileDelete now vm).eval snap.view =
      (releaseMachine (setInstanceReadyFalse vm "Deleting" "Deleting Verda instance")).eval snap.view := by
  have hfind : findInstance (setInstanceReadyFalse vm "Deleting" "Deleting Verda instance") =
    findInstance vm := rfl
  have hgone : instanceGone inst = true := by simp [instanceGone, hstatus]
  rw [reconcileDelete, Prog.eval_bind, hfind, h]
  simp [hgone, hstatus]

theorem reconcileDelete_error {now : Time} {vm : VerdaMachine} {e : Err}
    (h : (findInstance vm).eval snap.view = .error e) :
    ((reconcileDelete now vm).eval snap.view).1 = .error e := by
  have hfind : findInstance (setInstanceReadyFalse vm "Deleting" "Deleting Verda instance") =
    findInstance vm := rfl
  rw [reconcileDelete, Prog.eval_bind, hfind, h]
  rfl

/-- What the pass does when the instance is gone but still listed. -/
theorem reconcileDelete_gone {vm vm' : VerdaMachine} {inst : Instance} (now : Time)
    (hvm : vm' = setInstanceReadyFalse vm "Deleting" "Deleting Verda instance")
    (h : (findInstance vm).eval snap.view = .ok (some inst)) (hgone : instanceGone inst = true)
    (hstatus : inst.status ≠ statusNotFound) :
    (∀ e, (purgeInstanceVolumes inst.id).eval snap.view = .error e →
      (reconcileDelete now vm).eval snap.view = (.error e, vm')) ∧
    (∀ n, (purgeInstanceVolumes inst.id).eval snap.view = .ok n → 0 < n →
      (reconcileDelete now vm).eval snap.view = (.ok { requeueAfter := deletePollInterval }, vm') ∧
      (reconcileDelete now vm).traceOf snap.view = (findInstance vm).traceOf snap.view ++
        (purgeInstanceVolumes inst.id).traceOf snap.view) ∧
    ((purgeInstanceVolumes inst.id).eval snap.view = .ok 0 →
      (reconcileDelete now vm).eval snap.view = (releaseMachine vm').eval snap.view) := by
  have hfind : findInstance (setInstanceReadyFalse vm "Deleting" "Deleting Verda instance") =
    findInstance vm := rfl
  subst hvm
  rw [reconcileDelete, Prog.eval_bind, Prog.traceOf_bind, hfind, h]
  simp only [hgone, Bool.not_true, Bool.false_eq_true, if_false, ne_eq, hstatus, not_false_eq_true,
    if_true, Prog.eval_bind, Prog.traceOf_bind]
  refine ⟨fun e he => ?_, fun n hn hpos => ?_, fun hzero => ?_⟩
  · rw [he]
    rfl
  · rw [hn]
    simp only [gt_iff_lt, hpos, if_true]
    exact ⟨rfl, List.append_nil _ ▸ rfl⟩
  · rw [hzero]
    rfl

section

variable {i : Sdk.Instance} {id : String} {trash : List Sdk.Volume}

theorem eval_purgeInstanceVolumes (hans : snap.answers (.instancesGetByID id) = .ok i)
    (hmanaged : isManaged i = true) (htrash : snap.answers .volumesInTrash = .ok trash) :
    (purgeInstanceVolumes id).eval snap.view =
      (purgeVolumes (trash.map (·.id)) 0 (instanceVolumeIDs i)).eval snap.view ∧
    (purgeInstanceVolumes id).traceOf snap.view =
      [⟨⟨.purgeInstanceVolumes, .instancesGetByID id⟩, .ok i⟩,
        ⟨⟨.purgeInstanceVolumes, .volumesInTrash⟩, .ok trash⟩] ++
      (purgeVolumes (trash.map (·.id)) 0 (instanceVolumeIDs i)).traceOf snap.view := by
  rw [purgeInstanceVolumes, Snapshot.eval_request_bind, Snapshot.traceOf_request_bind, hans]
  simp only [hmanaged, Bool.not_true, Bool.false_eq_true, if_false]
  rw [Snapshot.eval_request_bind, Snapshot.traceOf_request_bind, htrash]
  exact ⟨rfl, rfl⟩

/-- Volumes are counted only for a managed instance whose trash could be listed. -/
theorem purgeInstanceVolumes_counts {n : Nat}
    (h : (purgeInstanceVolumes id).eval snap.view = .ok n) (hpos : 0 < n) :
    ∃ i trash, snap.answers (.instancesGetByID id) = .ok i ∧ isManaged i = true ∧
      snap.answers .volumesInTrash = .ok trash := by
  rw [purgeInstanceVolumes, Snapshot.eval_request_bind] at h
  cases hans : snap.answers (.instancesGetByID id) with
  | error e =>
    simp only [hans] at h
    split at h
    · cases h
      exact absurd hpos (lt_irrefl 0)
    · cases h
  | ok i =>
    simp only [hans] at h
    cases hmanaged : isManaged i with
    | false =>
      simp only [hmanaged, Bool.not_false, if_true] at h
      cases h
    | true =>
      simp only [hmanaged, Bool.not_true, Bool.false_eq_true, if_false] at h
      rw [Snapshot.eval_request_bind] at h
      cases htrash : snap.answers .volumesInTrash with
      | error e =>
        simp only [htrash] at h
        cases h
      | ok trash => exact ⟨i, trash, rfl, hmanaged, rfl⟩

/-- The requests of a pass that waits, with their answers. -/
def waitTrace (snap : Snapshot) (id : String) (i : Sdk.Instance) (trash : List Sdk.Volume) :
    List (Σ c : Call, c.Res) :=
  ⟨⟨.getInstance, .instancesGetByID id⟩, .ok i⟩ ::
  ⟨⟨.purgeInstanceVolumes, .instancesGetByID id⟩, .ok i⟩ ::
  ⟨⟨.purgeInstanceVolumes, .volumesInTrash⟩, .ok trash⟩ ::
  (instanceVolumeIDs i).map fun id =>
    ⟨purgeCall (trash.map (·.id)) id, snap.view (purgeCall (trash.map (·.id)) id)⟩

/-- Beyond the three reads, such a pass has one request for each volume. -/
theorem exists_waitTrace {P : (Σ c : Call, c.Res) → Prop}
    (hget : ¬ P ⟨⟨.getInstance, .instancesGetByID id⟩, .ok i⟩)
    (hread : ¬ P ⟨⟨.purgeInstanceVolumes, .instancesGetByID id⟩, .ok i⟩)
    (htrash : ¬ P ⟨⟨.purgeInstanceVolumes, .volumesInTrash⟩, .ok trash⟩) :
    (∃ e ∈ waitTrace snap id i trash, P e) ↔ ∃ volID ∈ instanceVolumeIDs i,
      P ⟨purgeCall (trash.map (·.id)) volID, snap.view (purgeCall (trash.map (·.id)) volID)⟩ := by
  simp only [waitTrace, List.exists_mem_cons_iff, List.mem_map, exists_exists_and_eq_and, hget, hread,
    htrash, false_or]

/-- It deletes the volumes that are in the trash. -/
theorem deletes_waitTrace : (∃ e ∈ waitTrace snap id i trash, e.1.op.deletes = true) ↔
    ∃ volID ∈ instanceVolumeIDs i, volID ∈ trash.map (·.id) := by
  rw [exists_waitTrace nofun nofun nofun]
  simp only [deletes_purgeCall]

/-- It asks about the others. -/
theorem volumeOf_waitTrace {vol : Sdk.Volume} :
    (∃ e ∈ waitTrace snap id i trash, volumeOf e = some vol) ↔
      ∃ volID ∈ instanceVolumeIDs i, volID ∉ trash.map (·.id) ∧
        snap.answers (.volumesGet volID) = .ok vol := by
  rw [exists_waitTrace nofun nofun nofun]
  simp only [volumeOf_purgeCall]

/-- What a pass that waits has asked. -/
theorem reconcileDelete_waits {vm : VerdaMachine} (now : Time) (hid : vm.status.instanceID ≠ "")
    (hans : snap.answers (.instancesGetByID vm.status.instanceID) = .ok i)
    (hgone : instanceGone (toInstance i) = true) (hstatus : i.status ≠ statusNotFound)
    (hmanaged : isManaged i = true) (htrash : snap.answers .volumesInTrash = .ok trash)
    (hall : ∀ id ∈ instanceVolumeIDs i, Answered snap (trash.map (·.id)) id)
    (hleft : ∃ id ∈ instanceVolumeIDs i, Left snap (trash.map (·.id)) id) :
    (reconcileDelete now vm).eval snap.view = (.ok { requeueAfter := deletePollInterval },
      setInstanceReadyFalse vm "Deleting" "Deleting Verda instance") ∧
    (reconcileDelete now vm).traceOf snap.view = waitTrace snap vm.status.instanceID i trash := by
  have hfound : (findInstance vm).eval snap.view = .ok (some (toInstance i)) := by
    rw [eval_findInstance, if_pos hid, hans]
    rfl
  have hrow : (toInstance i).id = vm.status.instanceID :=
    (Table.get_eq_some_iff.1 (Snapshot.get_of_answers hans)).2
  have htraceFind : (findInstance vm).traceOf snap.view =
      [⟨⟨.getInstance, .instancesGetByID vm.status.instanceID⟩, .ok i⟩] := by
    rw [findInstance_eq, lookupInstance, if_pos hid, ← hans]
    rfl
  obtain ⟨heval, htrace⟩ := eval_purgeInstanceVolumes hans hmanaged htrash
  obtain ⟨n, hn, -, hpos, hloop⟩ := eval_purgeVolumes (n := 0) hall
  rw [hn] at heval
  rw [← hrow] at heval htrace
  obtain ⟨hreply, htr⟩ := (reconcileDelete_gone now rfl hfound hgone hstatus).2.1 n heval (hpos.2 hleft)
  refine ⟨hreply, htr.trans ?_⟩
  rw [htrace, htraceFind, hloop, hrow]
  rfl

end

/-- A pass over an instance that is gone but still listed, if it neither fails nor releases the machine. -/
theorem progresses_gone {now : Time} {vm : VerdaMachine} {inst : Instance} {r : Result}
    (hfound : (findInstance vm).eval snap.view = .ok (some inst)) (hgone : instanceGone inst = true)
    (hstatus : inst.status ≠ statusNotFound) (hnot : ¬ ∃ i trash, Abandoned snap vm i trash)
    (hr : ((reconcileDelete now vm).eval snap.view).1 = .ok r)
    (hreleased : ∀ vm', (reconcileDelete now vm).eval snap.view ≠
      (releaseMachine vm').eval snap.view) :
    (∃ e ∈ (reconcileDelete now vm).traceOf snap.view, e.1.op.deletes = true) ∨
    ∃ e ∈ (reconcileDelete now vm).traceOf snap.view, ∃ vol ∈ volumeOf e,
      vol.status ≠ volumeStatusDeleted ∧ vol.status ≠ volumeStatusDetached := by
  obtain ⟨hid, i, hans, rfl⟩ := findInstance_gone hfound hgone hstatus
  have hrow : (toInstance i).id = vm.status.instanceID :=
    (Table.get_eq_some_iff.1 (Snapshot.get_of_answers hans)).2
  obtain ⟨herror, -, hzero⟩ := reconcileDelete_gone now rfl hfound hgone hstatus
  cases hpurge : (purgeInstanceVolumes (toInstance i).id).eval snap.view with
  | error e =>
    rw [herror e hpurge] at hr
    cases hr
  | ok n =>
    have hpos : 0 < n := by
      refine Nat.pos_of_ne_zero fun h => ?_
      subst h
      exact hreleased _ (hzero hpurge)
    rw [hrow] at hpurge
    obtain ⟨i', trash, hans', hmanaged, htrash⟩ := purgeInstanceVolumes_counts hpurge hpos
    rw [hans] at hans'
    cases hans'
    rw [(eval_purgeInstanceVolumes hans hmanaged htrash).1] at hpurge
    have hall := answered_of_eval hpurge
    obtain ⟨m, hm, -, hleft, -⟩ := eval_purgeVolumes (n := 0) hall
    rw [hpurge] at hm
    cases hm
    rw [(reconcileDelete_waits now hid hans hgone hstatus hmanaged htrash hall (hleft.1 hpos)).2,
      deletes_waitTrace]
    by_contra hneither
    push Not at hneither
    have hvolumes : ∀ volID ∈ instanceVolumeIDs i, ∀ vol,
        snap.answers (.volumesGet volID) = .ok vol →
        vol.status = volumeStatusDeleted ∨ vol.status = volumeStatusDetached := by
      intro volID hvolID vol hvol
      obtain ⟨e, he, hshow⟩ := volumeOf_waitTrace.2 ⟨volID, hvolID, hneither.1 volID hvolID, hvol⟩
      exact or_iff_not_imp_left.2 (hneither.2 e he vol hshow)
    refine hnot ⟨i, trash, hid, hans, hstatus, hmanaged, htrash, hneither.1, ?_, hvolumes, ?_⟩
    · intro volID hvolID
      have hanswered := hall volID hvolID
      rwa [Answered, if_neg (hneither.1 volID hvolID)] at hanswered
    · rcases hleft.1 hpos with ⟨volID, hvolID, -, vol, hvol, hdeleted⟩
      exact ⟨volID, hvolID, vol, hvol, (hvolumes volID hvolID vol hvol).resolve_left hdeleted⟩

/-- A pass that only finds detached volumes waits for them and does nothing. -/
theorem not_progresses {now : Time} {vm : VerdaMachine} {i : Sdk.Instance} {trash : List Sdk.Volume}
    (hab : Abandoned snap vm i trash) (hfinalizer : machineFinalizer ∈ vm.metadata.finalizers)
    (hgone : instanceGone (toInstance i) = true) : ¬ Progresses snap now vm := by
  intro hprog
  have hleft : ∃ id ∈ instanceVolumeIDs i, Left snap (trash.map (·.id)) id := by
    rcases hab.left with ⟨id, hid, vol, hvol, hstatus⟩
    refine ⟨id, hid, hab.untrashed id hid, vol, hvol, ?_⟩
    rw [hstatus]
    decide
  have hall : ∀ id ∈ instanceVolumeIDs i, Answered snap (trash.map (·.id)) id := by
    intro id hid
    rw [Answered, if_neg (hab.untrashed id hid)]
    exact hab.answered id hid
  obtain ⟨heval, htrace⟩ := reconcileDelete_waits now hab.recorded hab.found hgone hab.listed
    hab.managed hab.listing hall hleft
  rw [Progresses, heval, htrace, deletes_waitTrace] at hprog
  rcases hprog ⟨_, rfl⟩ hfinalizer with ⟨id, hid, htrashed⟩ | ⟨e, he, vol, hvol, hdeleted, hdetached⟩
  · exact hab.untrashed id hid htrashed
  · rcases volumeOf_waitTrace.1 ⟨e, he, hvol⟩ with ⟨id, hid, -, hans⟩
    rcases hab.detached id hid vol hans with hst | hst
    · exact hdeleted hst
    · exact hdetached hst

/-- **A deletion** that waits moves on unless all that is left of the volumes is detached. -/
theorem progresses_iff (snap : Snapshot) (now : Time) (vm : VerdaMachine)
    (hfinalizer : machineFinalizer ∈ vm.metadata.finalizers)
    (hgone : ∀ inst, (findInstance vm).eval snap.view = .ok (some inst) → instanceGone inst = true) :
    Progresses snap now vm ↔ ¬ ∃ i trash, Abandoned snap vm i trash := by
  constructor
  · rintro hprog ⟨i, trash, hab⟩
    refine not_progresses hab hfinalizer (hgone _ ?_) hprog
    rw [eval_findInstance, if_pos hab.recorded, hab.found]
    rfl
  · rintro hnot ⟨r, hr⟩ hkept
    -- a pass that releases the machine removes the finalizer
    have hreleased : ∀ vm', (reconcileDelete now vm).eval snap.view ≠
        (releaseMachine vm').eval snap.view := by
      intro vm' heq
      rw [heq] at hr hkept
      exact (Prog.runs_traceOf snap.view (releaseMachine vm')).obeys
        (releaseMachine_finalizer vm') r hr hkept
    cases hfound : (findInstance vm).eval snap.view with
    | error e =>
      rw [reconcileDelete_error hfound] at hr
      cases hr
    | ok found =>
      cases found with
      | none => exact absurd (reconcileDelete_none hfound) (hreleased _)
      | some inst =>
        by_cases hstatus : inst.status = statusNotFound
        · exact absurd (reconcileDelete_notFound hfound hstatus) (hreleased _)
        · exact progresses_gone hfound (hgone inst hfound) hstatus hnot hr hreleased

/-! ## Samples -/

/-- A spot machine of which the instance was discontinued. -/
def spotMachine : VerdaMachine where
  metadata :=
    { ns := "default", name := "m0", deletionTimestamp := some 0, finalizers := [machineFinalizer] }
  spec := { instanceType := "t", spot := some true, spotDiscontinuePolicy := "keep_detached" }
  status := { provisioned := some true, instanceID := "x1" }

/-- The instance, with its OS volume and these others. -/
def spotInstance (volumeIDs : List String) : Sdk.Instance where
  id := "x1"
  hostname := "m0"
  status := statusDiscontinued
  osVolumeID := some "v1"
  volumeIDs
  tags := [⟨tagManagedBy, managedByValue⟩]

/-- Its account, in which a volume can be deleted and nothing else is done. -/
def spotSnapshot (volumeIDs : List String) (volumes : Table StoredVolume.id) : Snapshot :=
  .ofAccount { instances := ⟨[spotInstance volumeIDs], List.nodup_singleton _⟩, volumes } fun
    | .volumesDelete _ _ => .ok ()
    | _ => .error absent

theorem spotMachine_gone (volumeIDs : List String) (volumes : Table StoredVolume.id) (inst : Instance)
    (h : (findInstance spotMachine).eval (spotSnapshot volumeIDs volumes).view = .ok (some inst)) :
    instanceGone inst = true := by
  cases h
  rfl

/-- The OS volume in the trash, and another volume that is not detached yet. -/
def releasedVolumes : Table StoredVolume.id where
  rows :=
    [{ volume := { id := "v1", name := "m0-os", status := "deleted" }, trashed := true },
      { volume := { id := "v2", name := "m0-data", status := "detaching" } }]

/-- The pass purges the volume in the trash and waits for the other one. -/
theorem progresses_iff_sample :
    ((reconcileDelete 0 spotMachine).eval (spotSnapshot ["v2"] releasedVolumes).view).1.toOption.isSome ∧
    machineFinalizer ∈
      ((reconcileDelete 0 spotMachine).eval (spotSnapshot ["v2"] releasedVolumes).view).2.metadata.finalizers ∧
    Progresses (spotSnapshot ["v2"] releasedVolumes) 0 spotMachine := by
  refine ⟨by decide, by decide, (progresses_iff _ 0 spotMachine (by decide) (spotMachine_gone _ _)).2 ?_⟩
  rintro ⟨i, trash, hab⟩
  have hfound := hab.found
  have hlisting := hab.listing
  cases hfound
  cases hlisting
  exact hab.untrashed "v1" (by decide) (by decide)

def detachedVolume : Table StoredVolume.id where
  rows := [{ volume := { id := "v1", name := "m0-os", status := volumeStatusDetached } }]

/-- A volume that Verda left detached is waited for, and nothing is deleted. The next pass does the
same. -/
theorem detached_forever :
    machineFinalizer ∈ spotMachine.metadata.finalizers ∧
    (∀ inst, (findInstance spotMachine).eval (spotSnapshot [] detachedVolume).view = .ok (some inst) →
      instanceGone inst = true) ∧
    ¬ Progresses (spotSnapshot [] detachedVolume) 0 spotMachine ∧
    ∀ now, ¬ Progresses (spotSnapshot [] detachedVolume) now
      ((reconcileDelete 0 spotMachine).eval (spotSnapshot [] detachedVolume).view).2 := by
  have habandoned : ∀ vm : VerdaMachine, vm.status.instanceID = "x1" →
      Abandoned (spotSnapshot [] detachedVolume) vm (spotInstance []) [] := by
    intro vm hid
    have hvolumes : instanceVolumeIDs (spotInstance []) = ["v1"] := by decide
    refine ⟨by rw [hid]; decide, by rw [hid]; rfl, by decide, by decide, rfl, ?_, ?_, ?_, ?_⟩
    · simp
    · rw [hvolumes]
      intro id hmem e herr
      rw [List.mem_singleton.1 hmem] at herr
      cases herr
    · rw [hvolumes]
      intro id hmem vol hvol
      rw [List.mem_singleton.1 hmem] at hvol
      cases hvol
      exact .inr rfl
    · exact ⟨"v1", by decide, _, rfl, rfl⟩
  have hgone : instanceGone (toInstance (spotInstance [])) = true := by decide
  refine ⟨by decide, spotMachine_gone _ _, ?_, fun now => ?_⟩
  · exact not_progresses (habandoned _ rfl) (by decide) hgone
  · exact not_progresses (habandoned _ rfl) (by decide) hgone

end VerdaCapi.Controller
