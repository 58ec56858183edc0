import VerdaCapi.Controller.VolumeWait
import Mathlib.Data.Finset.Card

/-!
# A finished purge is complete

`PurgeInstanceVolumes` goes through the volume IDs that an instance lists, each once and the empty ones
left out, and deletes what is in the trash. `purgeInstanceVolumes_complete`: the number it returns is the
number of volumes that are neither in the trash nor gone nor deleted, and if that is none, every volume has
been purged or was gone already.

The requests do not interfere: a request to delete is only about a volume in the trash, and what is asked
later is about other volumes. So the whole call can be read against the account as it was before.
-/

namespace VerdaCapi.Controller

open Remote Go Api Cloud

/-! ## The volumes of an instance -/

section

variable {inst : Sdk.Instance} {x : String}

/-- The IDs that Verda lists, the OS volume first. -/
def listedVolumeIDs (inst : Sdk.Instance) : List String := inst.osVolumeID.toList ++ inst.volumeIDs

/-- `add` of `instanceVolumeIDs`. -/
def addVolumeID (ids : List String) (id : String) : List String :=
  if id ≠ "" ∧ id ∉ ids then ids ++ [id] else ids

theorem instanceVolumeIDs_eq_foldl (inst : Sdk.Instance) :
    instanceVolumeIDs inst = (listedVolumeIDs inst).foldl addVolumeID [] := by
  rw [listedVolumeIDs, List.foldl_append]
  cases h : inst.osVolumeID with
  | none =>
    rw [instanceVolumeIDs, h]
    rfl
  | some id =>
    rw [instanceVolumeIDs, h]
    rfl

theorem mem_addVolumeID {ids : List String} {id : String} :
    x ∈ addVolumeID ids id ↔ x ∈ ids ∨ (x ≠ "" ∧ x = id) := by
  unfold addVolumeID
  split
  · rename_i h
    rw [List.mem_append, List.mem_singleton]
    refine or_congr_right ⟨fun hx => ⟨hx ▸ h.1, hx⟩, And.right⟩
  · rename_i h
    refine ⟨.inl, fun hx => hx.elim (fun hx => hx) ?_⟩
    rintro ⟨hne, rfl⟩
    by_contra hx
    exact h ⟨hne, hx⟩

theorem nodup_addVolumeID {ids : List String} {id : String} (h : ids.Nodup) :
    (addVolumeID ids id).Nodup := by
  unfold addVolumeID
  split
  · rename_i hadd
    rw [← List.concat_eq_append]
    exact h.concat hadd.2
  · exact h

theorem mem_foldl_addVolumeID {ids acc : List String} :
    x ∈ ids.foldl addVolumeID acc ↔ x ∈ acc ∨ (x ≠ "" ∧ x ∈ ids) := by
  induction ids generalizing acc with
  | nil => simp
  | cons id ids ih =>
    rw [List.foldl_cons, ih, mem_addVolumeID, List.mem_cons, and_or_left, or_assoc]

theorem nodup_foldl_addVolumeID {ids acc : List String} (h : acc.Nodup) :
    (ids.foldl addVolumeID acc).Nodup := by
  induction ids generalizing acc with
  | nil => exact h
  | cons id ids ih => exact ih (nodup_addVolumeID h)

/-- Each ID once, and no empty one. -/
theorem mem_instanceVolumeIDs : x ∈ instanceVolumeIDs inst ↔ x ≠ "" ∧ x ∈ listedVolumeIDs inst := by
  rw [instanceVolumeIDs_eq_foldl, mem_foldl_addVolumeID]
  simp

theorem nodup_instanceVolumeIDs (inst : Sdk.Instance) : (instanceVolumeIDs inst).Nodup := by
  rw [instanceVolumeIDs_eq_foldl]
  exact nodup_foldl_addVolumeID List.nodup_nil

/-- To count among the IDs of the loop is to count the distinct IDs that are listed. -/
theorem countP_instanceVolumeIDs (p : String → Bool) : (instanceVolumeIDs inst).countP p =
    ((listedVolumeIDs inst).toFinset.filter fun id => id ≠ "" ∧ p id = true).card := by
  rw [List.countP_eq_length_filter, ← List.toFinset_card_of_nodup ((nodup_instanceVolumeIDs inst).filter p)]
  congr 1
  ext id
  simp only [List.mem_toFinset, List.mem_filter, mem_instanceVolumeIDs, Finset.mem_filter]
  tauto

end

/-! ## What the loop returns -/

section

variable {snap : Snapshot} {id : String} {ids : List String} {n : Nat}

/-- The volume is neither in the trash nor gone nor deleted. -/
def unreleased (acc : Account) (id : String) : Bool :=
  (acc.volume id).any fun v => v.status != volumeStatusDeleted

theorem mem_trash_iff {acc : Account} :
    id ∈ acc.trash.map (·.id) ↔ ∃ v, acc.volumes.get id = some v ∧ v.trashed = true := by
  simp only [Account.trash, List.map_map, List.mem_map, List.mem_filter, Table.get_eq_some_iff]
  constructor
  · rintro ⟨v, ⟨hv, ht⟩, rfl⟩
    exact ⟨v, ⟨hv, rfl⟩, ht⟩
  · rintro ⟨v, ⟨hv, rfl⟩, ht⟩
    exact ⟨v, ⟨hv, ht⟩, rfl⟩

/-- A volume that is not in the trash is active or does not exist. -/
theorem get_eq_none_of_volume {acc : Account} (htrash : id ∉ acc.trash.map (·.id))
    (hvolume : acc.volume id = none) : acc.volumes.get id = none := by
  rw [mem_trash_iff] at htrash
  rw [Account.volume] at hvolume
  cases hrow : acc.volumes.get id with
  | none => rfl
  | some v =>
    rw [hrow] at hvolume
    cases ht : v.trashed with
    | true => exact absurd ⟨v, hrow, ht⟩ htrash
    | false =>
      simp only [ht, Bool.false_eq_true, if_false] at hvolume
      cases hvolume

/-- An answer about a volume is what the account says. -/
theorem answers_volumesGet (htrash : id ∉ snap.account.trash.map (·.id))
    (h : Answered snap (snap.account.trash.map (·.id)) id) :
    snap.answers (.volumesGet id) = found (snap.account.volume id) := by
  rw [Answered, if_neg htrash] at h
  rcases snap.volume id with heq | ⟨e, heq, hnot⟩
  · exact heq
  · rw [h e heq] at hnot
    cases hnot

theorem left_iff_unreleased (h : Answered snap (snap.account.trash.map (·.id)) id) :
    Left snap (snap.account.trash.map (·.id)) id ↔ unreleased snap.account id = true := by
  by_cases htrash : id ∈ snap.account.trash.map (·.id)
  · obtain ⟨v, hv, ht⟩ := mem_trash_iff.1 htrash
    have hnone : snap.account.volume id = none := by
      rw [Account.volume, hv]
      exact if_pos ht
    refine ⟨fun hleft => absurd htrash hleft.1, fun hun => ?_⟩
    rw [unreleased, hnone] at hun
    cases hun
  · rw [Left, answers_volumesGet htrash h, unreleased]
    cases snap.account.volume id with
    | none => simp [found]
    | some v => simp [found, htrash]

/-- The loop adds the number of the volumes that are left. -/
theorem purgeVolumes_count (h : ∀ id ∈ ids, Answered snap (snap.account.trash.map (·.id)) id) :
    (purgeVolumes (snap.account.trash.map (·.id)) n ids).eval snap.view =
      .ok (n + ids.countP (unreleased snap.account)) := by
  induction ids generalizing n with
  | nil => rfl
  | cons id ids ih =>
    rw [List.forall_mem_cons] at h
    obtain ⟨n', hn', heval, -⟩ := purgeVolumes_cons n ids h.1
    rw [left_iff_unreleased h.1] at hn'
    rw [heval, ih h.2, List.countP_cons]
    rcases hn' with ⟨rfl, hun⟩ | ⟨rfl, hun⟩
    · rw [if_pos hun]
      congr 1
      omega
    · rw [if_neg hun]
      rfl

/-- A call that returns a number has read the instance and the trash. -/
theorem purgeInstanceVolumes_reads {inst : Sdk.Instance}
    (hinst : snap.account.instances.get id = some inst) (hmanaged : isManaged inst = true)
    (hret : (purgeInstanceVolumes id).eval snap.view = .ok n) :
    snap.answers (.instancesGetByID id) = .ok inst ∧
      snap.answers .volumesInTrash = .ok snap.account.trash := by
  have hans : snap.answers (.instancesGetByID id) = .ok inst := by
    rcases snap.instance_ id with heq | ⟨e, heq, hnot⟩
    · rw [heq, hinst]
      rfl
    · rw [purgeInstanceVolumes, Snapshot.eval_request_bind, heq] at hret
      simp only [hnot] at hret
      cases hret
  refine ⟨hans, snap.trash.resolve_right ?_⟩
  rintro ⟨e, he⟩
  rw [purgeInstanceVolumes, Snapshot.eval_request_bind, hans] at hret
  simp only [hmanaged, Bool.not_true, Bool.false_eq_true, if_false] at hret
  rw [Snapshot.eval_request_bind, he] at hret
  cases hret

/-- How often a run asks to delete a volume for good. -/
def purgeRequests (volID : String) (tr : List (Σ c : Call, c.Res)) : Nat :=
  tr.countP fun e => decide (e.1.op = .volumesDelete volID true)

/-- The loop asks once for each volume in the trash. -/
theorem purgeRequests_map {trash : List String} {volID : String} (hnodup : ids.Nodup)
    (hmem : volID ∈ ids) (htrash : volID ∈ trash) :
    purgeRequests volID (ids.map fun id => ⟨purgeCall trash id, snap.view (purgeCall trash id)⟩) = 1 := by
  rw [purgeRequests, List.countP_map, ← List.count_eq_one_of_mem hnodup hmem, List.count]
  refine List.countP_congr fun id _ => ?_
  simp only [Function.comp_apply, decide_eq_true_eq, beq_iff_eq, purgeCall]
  split
  · simp
  · rename_i hnot
    simp only [reduceCtorEq, false_iff]
    rintro rfl
    exact hnot htrash

/-- **A finished purge is complete.** -/
theorem purgeInstanceVolumes_complete {inst : Sdk.Instance}
    (hinst : snap.account.instances.get id = some inst) (hmanaged : isManaged inst = true)
    (hret : (purgeInstanceVolumes id).eval snap.view = .ok n) :
    (n = 0 → ∀ volID ∈ listedVolumeIDs inst, volID ≠ "" →
      purgeRequests volID ((purgeInstanceVolumes id).traceOf snap.view) = 1 ∨
      snap.account.volumes.get volID = none ∨
      ∃ v, snap.account.volume volID = some v ∧ v.status = volumeStatusDeleted) ∧
    ((listedVolumeIDs inst).toFinset.filter fun volID =>
      volID ≠ "" ∧ unreleased snap.account volID = true).card = n := by
  obtain ⟨hans, htrash⟩ := purgeInstanceVolumes_reads hinst hmanaged hret
  obtain ⟨heval, htrace⟩ := eval_purgeInstanceVolumes hans hmanaged htrash
  have hanswered := answered_of_eval (heval.symm.trans hret)
  obtain ⟨-, -, -, -, hloop⟩ := eval_purgeVolumes (n := 0) hanswered
  have hcount : (instanceVolumeIDs inst).countP (unreleased snap.account) = n := by
    have hsame := (purgeVolumes_count hanswered).symm.trans (heval.symm.trans hret)
    rw [Nat.zero_add] at hsame
    exact Except.ok.inj hsame
  refine ⟨fun hzero volID hlisted hne => ?_, countP_instanceVolumeIDs _ ▸ hcount⟩
  have hmem : volID ∈ instanceVolumeIDs inst := mem_instanceVolumeIDs.2 ⟨hne, hlisted⟩
  -- what was in the trash is asked for; of the rest, nothing is left because the count is zero
  by_cases hin : volID ∈ snap.account.trash.map (·.id)
  · refine .inl ?_
    rw [htrace, hloop]
    exact purgeRequests_map (nodup_instanceVolumeIDs inst) hmem hin
  · refine .inr ?_
    cases hvolume : snap.account.volume volID with
    | none => exact .inl (get_eq_none_of_volume hin hvolume)
    | some v =>
      refine .inr ⟨v, rfl, ?_⟩
      have hreleased : ¬ unreleased snap.account volID = true :=
        List.countP_eq_zero.1 (hcount.trans hzero) volID hmem
      rw [unreleased, hvolume] at hreleased
      simpa using hreleased

end

/-! ## A sample -/

/-- An instance that lists a volume twice and an empty ID. -/
def purgedInstance : Sdk.Instance where
  id := "x1"
  hostname := "m0"
  status := "discontinued"
  osVolumeID := some "v1"
  volumeIDs := ["v1", "", "v2", "v3"]
  tags := [⟨tagManagedBy, managedByValue⟩]

/-- `v1` is in the trash, `v2` is detached and `v3` is gone. -/
def purgedSnapshot : Snapshot :=
  .ofAccount
    { instances := ⟨[purgedInstance], List.nodup_singleton _⟩
      volumes := ⟨[⟨{ id := "v1", name := "m0-os", status := "deleted" }, true⟩,
        stored { id := "v2", name := "m0-data", status := volumeStatusDetached }], by decide⟩ }
    fun _ => .error absent

/-- Of these only `v2` is counted. -/
theorem purgeInstanceVolumes_complete_sample :
    (purgeInstanceVolumes "x1").eval purgedSnapshot.view = .ok 1 ∧
    ((listedVolumeIDs purgedInstance).toFinset.filter fun volID =>
      volID ≠ "" ∧ unreleased purgedSnapshot.account volID = true).card = 1 := by
  have hret : (purgeInstanceVolumes "x1").eval purgedSnapshot.view = .ok 1 := by decide
  exact ⟨hret, (purgeInstanceVolumes_complete rfl (by decide) hret).2⟩

end VerdaCapi.Controller
