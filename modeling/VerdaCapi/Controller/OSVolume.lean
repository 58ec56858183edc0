import VerdaCapi.Cloud.Snapshot
import VerdaCapi.Controller.Machine

/-!
# OS volumes by ID and by name

`resolveOSVolume` takes a volume's ID or its name. By name it insists on an OS volume; by ID it only asks
whether there is such a volume. `resolveOSVolume_iff` says for which volumes the two agree, and for which
texts the answer is an OS volume.
-/

namespace VerdaCapi.Controller

open Remote Go Api Cloud

section

variable {acc : Account} {other : (op : Sdk.Op) → Except Sdk.ApiErr (Sdk.Ans op)} {x id : String}
  {v : Sdk.Volume}

/-- What `resolveOSVolume` returns with the volumes of an account, if no read fails. -/
def resolved (acc : Account) (other : (op : Sdk.Op) → Except Sdk.ApiErr (Sdk.Ans op)) (x : String) :
    Except Err String :=
  (resolveOSVolume x).eval (Snapshot.ofAccount acc other).view

/-- By name: the first volume of that name, if it is an OS volume. -/
theorem eval_resolveOSVolumeByName :
    (resolveOSVolumeByName x).eval (Snapshot.ofAccount acc other).view = .ok id ↔
      ∃ v, acc.active.find? (fun v => v.name == x) = some v ∧ v.isOSVolume = true ∧ v.id = id := by
  have hlist : (Snapshot.ofAccount acc other).answers .volumesList = .ok acc.active := rfl
  rw [resolveOSVolumeByName, Prog.eval_bind, findVolumeByName, Snapshot.eval_request_bind, hlist]
  dsimp only
  cases acc.active.find? fun v => v.name == x with
  | none => exact ⟨fun h => (by cases h), fun h => (by obtain ⟨_, h, -⟩ := h; cases h)⟩
  | some v =>
    rw [Prog.eval_pure]
    dsimp only
    cases hos : v.isOSVolume with
    | false =>
      rw [if_pos (by simp [toVolume, hos])]
      refine ⟨fun h => (by cases h), ?_⟩
      rintro ⟨v', hv', hos', -⟩
      cases hv'
      rw [hos] at hos'
      cases hos'
    | true =>
      rw [if_neg (by simp [toVolume, hos])]
      constructor
      · intro h
        exact ⟨v, rfl, hos, Except.ok.inj h⟩
      · rintro ⟨v', hv', -, rfl⟩
        cases hv'
        rfl

/-- A volume with the ID is taken as it is. Without one, or if the text is no UUID, the name decides. -/
theorem resolved_eq_ok : resolved acc other x = .ok id ↔
    (isUUID (toLower x) = true ∧ acc.volume x ≠ none ∧ x = id) ∨
    ((isUUID (toLower x) = true → acc.volume x = none) ∧
      ∃ v, acc.active.find? (fun v => v.name == x) = some v ∧ v.isOSVolume = true ∧ v.id = id) := by
  rw [resolved, resolveOSVolume]
  have hanswer : (Snapshot.ofAccount acc other).answers (.volumesGet x) = found (acc.volume x) := rfl
  by_cases huuid : isUUID (toLower x) = true
  · rw [if_pos huuid, Prog.eval_bind, getVolume, Snapshot.eval_request_bind, hanswer]
    cases acc.volume x with
    | some v =>
      simp only [huuid, true_and, ne_eq, reduceCtorEq, not_false_eq_true, forall_const, false_and, or_false]
      exact ⟨fun h => Except.ok.inj h, fun h => h ▸ rfl⟩
    | none =>
      simp only [huuid, true_and, ne_eq, not_true_eq_false, false_and, false_or, forall_const]
      exact eval_resolveOSVolumeByName
  · rw [if_neg huuid, eval_resolveOSVolumeByName]
    simp only [huuid, false_and, false_or, false_implies, true_and, Bool.false_eq_true]

/-! ## Volumes that can be told apart -/

theorem hex_toLower {c : Char} (h : ('0' ≤ c ∧ c ≤ '9') ∨ ('a' ≤ c ∧ c ≤ 'f') ∨ c = '-') :
    c.toLower = c := by
  refine dif_neg ?_
  rintro ⟨hA, hZ⟩
  rcases h with ⟨-, h9⟩ | ⟨ha, -⟩ | rfl
  · exact absurd (UInt32.le_trans hA h9) (by decide)
  · exact absurd (UInt32.le_trans ha hZ) (by decide)
  · exact absurd hA (by decide)

theorem toLower_of_isUUID (h : isUUID x = true) : toLower x = x := by
  have hchars : x.toList.map Char.toLower = x.toList := by
    refine (List.map_congr_left fun c hc => ?_).trans (List.map_id _)
    obtain ⟨i, hi, rfl⟩ := List.getElem_of_mem hc
    unfold isUUID at h
    simp only [Bool.and_eq_true, List.all_eq_true] at h
    have hc := h.2 (x.toList[i], i) (List.mk_mem_zipIdx_iff_getElem?.2 (List.getElem?_eq_getElem hi))
    refine hex_toLower ?_
    dsimp only at hc
    split at hc
    · exact .inr (.inr (by simpa using hc))
    · simp only [Bool.or_eq_true, Bool.and_eq_true, decide_eq_true_eq] at hc
      exact hc.imp_right .inl
  rw [toLower, hchars, String.ofList_toList]

/-- The volumes have lower-case UUIDs, no two have the same name, and no name is the ID of another. That
IDs are distinct is part of an account. -/
structure DistinctVolumes (acc : Account) : Prop where
  uuid : ∀ v ∈ acc.active, isUUID v.id = true
  name : ∀ v ∈ acc.active, ∀ v' ∈ acc.active, v.name = v'.name → v = v'
  apart : ∀ v ∈ acc.active, ∀ v' ∈ acc.active, v.name = v'.id → v = v'

theorem DistinctVolumes.isUUID_of_volume (h : DistinctVolumes acc) (hsome : acc.volume x ≠ none) :
    isUUID (toLower x) = true := by
  obtain ⟨v, hv⟩ := Option.ne_none_iff_exists'.1 hsome
  obtain ⟨hmem, rfl⟩ := volume_eq_some_iff.1 hv
  rw [toLower_of_isUUID (h.uuid v hmem)]
  exact h.uuid v hmem

/-- The first volume of a name is the only one. -/
theorem DistinctVolumes.find?_name (h : DistinctVolumes acc) :
    acc.active.find? (fun v => v.name == x) = some v ↔ v ∈ acc.active ∧ v.name = x := by
  constructor
  · intro hfind
    exact ⟨List.mem_of_find?_eq_some hfind, by simpa using List.find?_some hfind⟩
  · rintro ⟨hv, rfl⟩
    have hsome : (acc.active.find? fun v' => v'.name == v.name).isSome :=
      List.find?_isSome.2 ⟨v, hv, beq_self_eq_true v.name⟩
    obtain ⟨v', hv'⟩ := Option.isSome_iff_exists.1 hsome
    have hsame : v'.name = v.name := by simpa using List.find?_some hv'
    rw [hv', h.name v' (List.mem_of_find?_eq_some hv') v hv hsame]

theorem volume_ne_none_iff : acc.volume x ≠ none ↔ ∃ v ∈ acc.active, v.id = x := by
  rw [Option.ne_none_iff_exists']
  simp only [volume_eq_some_iff]

/-- With such volumes: an ID is taken as it is, and any other text is the name of an OS volume. -/
theorem DistinctVolumes.resolved_iff (h : DistinctVolumes acc) : resolved acc other x = .ok id ↔
    (∃ v ∈ acc.active, v.id = x ∧ x = id) ∨
    ((∀ v ∈ acc.active, v.id ≠ x) ∧ ∃ v ∈ acc.active, v.name = x ∧ v.isOSVolume = true ∧ v.id = id) := by
  -- the check for a UUID makes no difference: all IDs are UUIDs
  have hnone : (isUUID (toLower x) = true → acc.volume x = none) ↔ ∀ v ∈ acc.active, v.id ≠ x := by
    have hrow : acc.volume x = none ↔ ∀ v ∈ acc.active, v.id ≠ x := by
      rw [← not_iff_not, ← ne_eq, volume_ne_none_iff]
      push Not
      rfl
    rw [← hrow]
    constructor
    · intro himp
      by_contra hsome
      exact hsome (himp (h.isUUID_of_volume hsome))
    · exact fun hempty _ => hempty
  have hsome : (isUUID (toLower x) = true ∧ acc.volume x ≠ none ∧ x = id) ↔
      ∃ v ∈ acc.active, v.id = x ∧ x = id := by
    constructor
    · rintro ⟨-, hsome, rfl⟩
      obtain ⟨v, hmem, hid⟩ := volume_ne_none_iff.1 hsome
      exact ⟨v, hmem, hid, rfl⟩
    · rintro ⟨v, hmem, hid, rfl⟩
      have hsome := volume_ne_none_iff.2 ⟨v, hmem, hid⟩
      exact ⟨h.isUUID_of_volume hsome, hsome, rfl⟩
  rw [resolved_eq_ok, hnone, hsome]
  simp only [h.find?_name, and_assoc]

/-- By its ID and by its name, a volume is found or refused alike. -/
def SameOutcome (acc : Account) (other : (op : Sdk.Op) → Except Sdk.ApiErr (Sdk.Ans op))
    (v : Sdk.Volume) : Prop :=
  (resolved acc other v.id = .ok v.id ∧ resolved acc other v.name = .ok v.id) ∨
    ((∃ e, resolved acc other v.id = .error e) ∧ ∃ e, resolved acc other v.name = .error e)

/-- What the text resolves to is an OS volume. -/
def ResolvesToOS (acc : Account) (other : (op : Sdk.Op) → Except Sdk.ApiErr (Sdk.Ans op))
    (x : String) : Prop :=
  ∀ id, resolved acc other x = .ok id → ∃ v ∈ acc.active, v.id = id ∧ v.isOSVolume = true

theorem DistinctVolumes.resolved_id (h : DistinctVolumes acc) (hv : v ∈ acc.active) :
    resolved acc other v.id = .ok v.id :=
  h.resolved_iff.2 (.inl ⟨v, hv, rfl, rfl⟩)

theorem DistinctVolumes.resolved_name_iff (h : DistinctVolumes acc) (hv : v ∈ acc.active) :
    resolved acc other v.name = .ok v.id ↔ v.isOSVolume = true ∨ v.name = v.id := by
  rw [h.resolved_iff]
  constructor
  · rintro (⟨-, -, -, hid⟩ | ⟨-, v', hv', hname, hos, -⟩)
    · exact .inr hid
    · rw [h.name v' hv' v hv hname] at hos
      exact .inl hos
  · intro hcase
    by_cases hid : v.name = v.id
    · exact .inl ⟨v, hv, hid.symm, hid⟩
    · refine .inr ⟨fun v' hv' hname => ?_, v, hv, rfl, hcase.resolve_right hid, rfl⟩
      rw [← h.apart v hv v' hv' hname.symm] at hname
      exact hid hname.symm

/-- **By ID or by name.** A volume resolves alike by its ID and by its name if and only if it is an OS volume
or its name is its ID; a text resolves to OS volumes only if and only if it is not the ID of a volume of
another kind. -/
theorem resolveOSVolume_iff (h : DistinctVolumes acc) :
    (∀ v ∈ acc.active, SameOutcome acc other v ↔ v.isOSVolume = true ∨ v.name = v.id) ∧
    ∀ x, ResolvesToOS acc other x ↔ ∀ v ∈ acc.active, v.id = x → v.isOSVolume = true := by
  refine ⟨fun v hv => ?_, fun x => ?_⟩
  · have hiff : resolved acc other v.name = .ok v.id ↔ _ := h.resolved_name_iff hv
    rw [← hiff]
    constructor
    · rintro (⟨-, hname⟩ | ⟨⟨e, he⟩, -⟩)
      · exact hname
      · rw [h.resolved_id hv] at he
        cases he
    · exact fun hname => .inl ⟨h.resolved_id hv, hname⟩
  · constructor
    · rintro hos v hv rfl
      obtain ⟨v', hv', hid, hos⟩ := hos v.id (h.resolved_id hv)
      have hrow := volume_eq_some_iff.2 ⟨hv', hid⟩
      rw [volume_eq_some_iff.2 ⟨hv, rfl⟩] at hrow
      cases hrow
      exact hos
    · intro hos id hid
      rcases h.resolved_iff.1 hid with ⟨v, hv, rfl, rfl⟩ | ⟨-, v, hv, -, hv_os, rfl⟩
      · exact ⟨v, hv, rfl, hos v hv rfl⟩
      · exact ⟨v, hv, rfl, hv_os⟩

end

/-! ## An OS volume and a data volume -/

/-- The ID of the volume. -/
def goldenID : String := "0f8fad5b-d9cb-469f-a165-70867728950e"

theorem isUUID_goldenID : isUUID goldenID = true := by
  unfold isUUID
  decide

/-- The volume `golden`. -/
def golden (isOSVolume : Bool) : Sdk.Volume :=
  { id := goldenID, name := "golden", status := "detached", isOSVolume := isOSVolume }

/-- The account that has this volume only. -/
def oneVolume (isOSVolume : Bool) : Account where
  volumes := ⟨[stored (golden isOSVolume)], List.nodup_singleton _⟩

theorem oneVolume_distinct (isOSVolume : Bool) : DistinctVolumes (oneVolume isOSVolume) := by
  have hall : ∀ v ∈ (oneVolume isOSVolume).active, v = golden isOSVolume :=
    fun v hv => List.mem_singleton.1 hv
  refine ⟨fun v hv => ?_, fun v hv v' hv' _ => ?_, fun v hv v' hv' _ => ?_⟩
  · rw [hall v hv]
    exact isUUID_goldenID
  · rw [hall v hv, hall v' hv']
  · rw [hall v hv, hall v' hv']

/-- Requests that change something are refused. -/
def readOnly (op : Sdk.Op) : Except Sdk.ApiErr (Sdk.Ans op) := .error (.api 403 "forbidden")

/-- An OS volume is accepted by its ID and by its name. -/
theorem resolveOSVolume_sample :
    (∀ v ∈ (oneVolume true).active, SameOutcome (oneVolume true) readOnly v) ∧
      ResolvesToOS (oneVolume true) readOnly "golden" := by
  have hos : ∀ v ∈ (oneVolume true).active, v.isOSVolume = true := by decide
  have hdistinct := oneVolume_distinct true
  exact ⟨fun v hv => ((resolveOSVolume_iff hdistinct).1 v hv).2 (.inl (hos v hv)),
    ((resolveOSVolume_iff hdistinct).2 "golden").2 fun v hv _ => hos v hv⟩

/-- A data volume is accepted by its ID and refused by its name. -/
theorem resolveOSVolume_dataVolume : DistinctVolumes (oneVolume false) ∧
    golden false ∈ (oneVolume false).active ∧ (golden false).isOSVolume = false ∧
    resolved (oneVolume false) readOnly goldenID = .ok goldenID ∧
    resolved (oneVolume false) readOnly "golden" = .error
      ⟨.other, "volume \"golden\" (0f8fad5b-d9cb-469f-a165-70867728950e) is not an OS volume"⟩ := by
  have hmem : golden false ∈ (oneVolume false).active := List.mem_singleton_self _
  have hname : isUUID (toLower "golden") = false := by
    unfold isUUID
    decide
  have hid : resolved (oneVolume false) readOnly (golden false).id = .ok (golden false).id :=
    (oneVolume_distinct false).resolved_id hmem
  refine ⟨oneVolume_distinct false, hmem, rfl, hid, ?_⟩
  rw [resolved, resolveOSVolume, hname]
  decide

end VerdaCapi.Controller
