import VerdaCapi.Cloud.Account

/-!
# What a scan of a listing returns

`FindInstanceByHostname` and `FindInstanceByTag` go through a listing with the same loop. It passes
over discontinued instances only, so an instance that is deleted or missing can hide a live one that
is listed after it. `scan_eq` says what the loop returns, and `scan_eq_live_iff` when that is live.
-/

namespace VerdaCapi.Cloud

/-- The first wanted instance that is not discontinued. -/
def firstUp (want : Instance → Bool) (is : List Sdk.Instance) : Option Sdk.Instance :=
  is.find? fun i => want (toInstance i) && i.status != statusDiscontinued

/-- The last wanted instance. -/
def lastWanted (want : Instance → Bool) (is : List Sdk.Instance) : Option Sdk.Instance :=
  (is.filter fun i => want (toInstance i)).getLast?

/-- If the first wanted instance that is not discontinued is gone, then so is every wanted one. -/
def LiveUpFirst (want : Instance → Bool) (is : List Sdk.Instance) : Prop :=
  ∀ i ∈ firstUp want is, isGone i = true → ∀ j ∈ is, want (toInstance j) = true → isGone j = true

instance (want : Instance → Bool) (is : List Sdk.Instance) : Decidable (LiveUpFirst want is) :=
  inferInstanceAs (Decidable (∀ i ∈ (_ : Option Sdk.Instance), _))

section

variable {want : Instance → Bool} {is : List Sdk.Instance} {i : Sdk.Instance}

theorem isGone_of_discontinued (h : i.status = statusDiscontinued) : isGone i = true := by
  simp [isGone, h]

theorem mem_of_firstUp (h : firstUp want is = some i) :
    i ∈ is ∧ want (toInstance i) = true ∧ i.status ≠ statusDiscontinued := by
  refine ⟨List.mem_of_find?_eq_some h, ?_⟩
  have hi := List.find?_some h
  simpa using hi

/-- Without a first one, every wanted instance is discontinued. -/
theorem isGone_of_firstUp_eq_none (h : firstUp want is = none) {j : Sdk.Instance} (hj : j ∈ is)
    (hwant : want (toInstance j) = true) : isGone j = true := by
  have hnot := List.find?_eq_none.1 h j hj
  refine isGone_of_discontinued ?_
  simpa [hwant] using hnot

theorem mem_of_lastWanted (h : lastWanted want is = some i) :
    i ∈ is ∧ want (toInstance i) = true :=
  List.mem_filter.1 (List.mem_of_getLast? h)

theorem lastWanted_eq_none_iff :
    lastWanted want is = none ↔ ∀ j ∈ is, want (toInstance j) = false := by
  simp [lastWanted]

/-- **The loop**, from any point of it: the first wanted instance that is not discontinued, else the
last wanted one, else the one in hand. -/
theorem scan_eq (gone : Option Instance) :
    scan want gone is = (((firstUp want is).or (lastWanted want is)).map toInstance).or gone := by
  induction is generalizing gone with
  | nil => rfl
  | cons i is ih =>
    by_cases hwant : want (toInstance i) = true
    · by_cases hdisc : i.status = statusDiscontinued
      · have hstatus : (toInstance i).status = statusDiscontinued := hdisc
        have hup : firstUp want (i :: is) = firstUp want is := by
          simp [firstUp, hdisc]
        have hlast : lastWanted want (i :: is) = some ((lastWanted want is).getD i) := by
          simp [lastWanted, hwant, List.getLast?_cons]
        simp only [scan, hwant, hstatus, Bool.not_true, Bool.false_eq_true, if_false, if_true, ih,
          hup, hlast]
        cases firstUp want is with
        | some k => rfl
        | none => cases lastWanted want is <;> rfl
      · have hstatus : (toInstance i).status ≠ statusDiscontinued := hdisc
        have hup : firstUp want (i :: is) = some i := by
          simp [firstUp, hwant, hdisc]
        simp [scan, hwant, hstatus, hup]
    · have hup : firstUp want (i :: is) = firstUp want is := by
        simp [firstUp, hwant]
      have hlast : lastWanted want (i :: is) = lastWanted want is := by
        simp [lastWanted, hwant]
      simp [scan, hwant, ih, hup, hlast]

theorem scan_none_eq :
    scan want none is = ((firstUp want is).or (lastWanted want is)).map toInstance := by
  rw [scan_eq, Option.or_none]

/-- What a scan returns was listed and wanted. -/
theorem scan_eq_some {inst : Instance} (h : scan want none is = some inst) :
    ∃ i ∈ is, want (toInstance i) = true ∧ inst = toInstance i := by
  rw [scan_none_eq] at h
  rcases Option.map_eq_some_iff.1 h with ⟨i, hi, rfl⟩
  rcases Option.or_eq_some_iff.1 hi with hup | ⟨-, hlast⟩
  · exact ⟨i, (mem_of_firstUp hup).1, (mem_of_firstUp hup).2.1, rfl⟩
  · exact ⟨i, (mem_of_lastWanted hlast).1, (mem_of_lastWanted hlast).2, rfl⟩

/-- A scan returns a live instance exactly when the first one that is not discontinued is live. -/
theorem scan_eq_live_iff {i : Sdk.Instance} (hlive : isGone i = false) :
    ((firstUp want is).or (lastWanted want is)) = some i ↔ firstUp want is = some i := by
  rw [Option.or_eq_some_iff]
  refine ⟨fun h => ?_, fun h => .inl h⟩
  rcases h with hup | ⟨hnone, hlast⟩
  · exact hup
  · rcases mem_of_lastWanted hlast with ⟨hmem, hwant⟩
    rw [isGone_of_firstUp_eq_none hnone hmem hwant] at hlive
    cases hlive

end

end VerdaCapi.Cloud
