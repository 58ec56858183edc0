import Mathlib.Algebra.Order.Group.Defs
import Mathlib.Logic.Function.Basic
import Mathlib.Tactic.Common

/-!
# A throttle that remembers the last request

Requests come one after the other, each for a key and in some state. A request is due unless the last due
one for its key was in the same state and less than an interval ago. Of the moment of a due request the
throttle keeps what `stamp` makes of it, which may be coarser, or nothing.

A run is the list of its entries, so that a statement about two requests and what lies between them is one
about a way to take the list apart. `spaced` is the rule for two due requests.
-/

namespace Throttle

/-! ## Runs -/

section

variable {M M' R R' : Type}

/-- A request of a run, with its answer and the memory before and after it. -/
structure Entry (M R : Type) where
  request : R
  before : M
  due : Bool
  after : M

/-- The entry of a request. -/
def entry (step : M → R → Bool × M) (m : M) (r : R) : Entry M R where
  request := r
  before := m
  due := (step m r).1
  after := (step m r).2

/-- The entries of the requests `rs`, from the memory `m` on. -/
def entries (step : M → R → Bool × M) : M → List R → List (Entry M R)
  | _, [] => []
  | m, r :: rs => entry step m r :: entries step (step m r).2 rs

/-- The memory after the requests `rs`. -/
def final (step : M → R → Bool × M) : M → List R → M
  | m, [] => m
  | m, r :: rs => final step (step m r).2 rs

variable {step : M → R → Bool × M} {m : M} {rs : List R}

theorem entries_append (rs' : List R) :
    entries step m (rs ++ rs') = entries step m rs ++ entries step (final step m rs) rs' := by
  induction rs generalizing m with
  | nil => rfl
  | cons r rs ih => exact congrArg (entry step m r :: ·) ih

theorem final_append (rs' : List R) :
    final step m (rs ++ rs') = final step (final step m rs) rs' := by
  induction rs generalizing m with
  | nil => rfl
  | cons r rs ih => exact ih

theorem map_request_entries : (entries step m rs).map Entry.request = rs := by
  induction rs generalizing m with
  | nil => rfl
  | cons r rs ih => exact congrArg (r :: ·) ih

theorem entries_eq_cons {e : Entry M R} {rest : List (Entry M R)} (h : entries step m rs = e :: rest) :
    ∃ r rs', rs = r :: rs' ∧ e = entry step m r ∧ rest = entries step (step m r).2 rs' := by
  cases rs with
  | nil => cases h
  | cons r rs =>
    obtain ⟨rfl, rfl⟩ := List.cons.inj h
    exact ⟨r, rs, rfl, rfl, rfl⟩

/-- A run that is taken apart is two runs. -/
theorem entries_eq_append {pre rest : List (Entry M R)} (h : entries step m rs = pre ++ rest) :
    ∃ rs₁ rs₂, rs = rs₁ ++ rs₂ ∧ pre = entries step m rs₁ ∧ rest = entries step (final step m rs₁) rs₂ := by
  induction pre generalizing m rs with
  | nil => exact ⟨[], rs, rfl, rfl, h.symm⟩
  | cons e pre ih =>
    obtain ⟨r, rs, rfl, rfl, hrest⟩ := entries_eq_cons h
    obtain ⟨rs₁, rs₂, rfl, rfl, rfl⟩ := ih hrest.symm
    exact ⟨r :: rs₁, rs₂, rfl, rfl, rfl⟩

theorem exists_entry_of_mem {e : Entry M R} (he : e ∈ entries step m rs) :
    ∃ m' r, r ∈ rs ∧ e = entry step m' r := by
  obtain ⟨pre, rest, hcut⟩ := List.append_of_mem he
  obtain ⟨rs₁, rs₂, rfl, -, hrest⟩ := entries_eq_append hcut
  obtain ⟨r, rs₂, rfl, rfl, -⟩ := entries_eq_cons hrest.symm
  exact ⟨_, r, by simp, rfl⟩

/-- What every entry keeps, the run keeps. -/
theorem final_of_keeps {P : M → Prop} (hm : P m) (h : ∀ e ∈ entries step m rs, P e.before → P e.after) :
    P (final step m rs) := by
  induction rs generalizing m with
  | nil => exact hm
  | cons r rs ih =>
    have hnext : P (step m r).2 := h (entry step m r) List.mem_cons_self hm
    exact ih hnext fun e he => h e (List.mem_cons_of_mem _ he)

/-- The entry, with its request and memories seen through other types. -/
def Entry.map (abs : M → M') (f : R → R') (e : Entry M R) : Entry M' R' where
  request := f e.request
  before := abs e.before
  due := e.due
  after := abs e.after

/-- A step that another one simulates gives the same answers. -/
theorem entries_map {step' : M' → R' → Bool × M'} (abs : M → M') (f : R → R')
    (h : ∀ m, ∀ r ∈ rs, step' (abs m) (f r) = ((step m r).1, abs (step m r).2)) :
    entries step' (abs m) (rs.map f) = (entries step m rs).map (Entry.map abs f) := by
  induction rs generalizing m with
  | nil => rfl
  | cons r rs ih =>
    have hstep := h m r List.mem_cons_self
    rw [List.map_cons, entries, entries, List.map_cons, hstep,
      ih fun m r hr => h m r (List.mem_cons_of_mem _ hr), entry, hstep]
    rfl

end

/-! ## The throttle -/

/-- A request: what it is for and in which state, the moment the memory is compared with, and the moment
that is remembered if the request is due. -/
structure Request (K S T : Type) where
  key : K
  state : S
  since : T
  now : T

/-- For each key the state and the moment of the last due request. -/
abbrev Memory (K S T : Type) := K → Option (S × T)

variable {K S T : Type} [LinearOrder T] [AddCommGroup T]

/-- The request has to wait for the one that is remembered. -/
def Waits (interval : T) (mem : Memory K S T) (r : Request K S T) : Prop :=
  ∃ e ∈ mem r.key, e.1 = r.state ∧ r.since - e.2 < interval

variable [DecidableEq K] [DecidableEq S]

instance (interval : T) (mem : Memory K S T) (r : Request K S T) : Decidable (Waits interval mem r) :=
  inferInstanceAs (Decidable (∃ e ∈ mem r.key, e.1 = r.state ∧ r.since - e.2 < interval))

/-- Answer a request. -/
def ask (interval : T) (stamp : T → Option T) (mem : Memory K S T) (r : Request K S T) :
    Bool × Memory K S T :=
  if Waits interval mem r then (false, mem)
  else (true, Function.update mem r.key ((stamp r.now).map fun t => (r.state, t)))

variable {interval : T} {stamp : T → Option T} {mem : Memory K S T} {r : Request K S T}

theorem ask_of_waits (h : Waits interval mem r) : ask interval stamp mem r = (false, mem) := if_pos h

theorem ask_of_not_waits (h : ¬ Waits interval mem r) :
    ask interval stamp mem r =
      (true, Function.update mem r.key ((stamp r.now).map fun t => (r.state, t))) := if_neg h

theorem ask_due_iff : (ask interval stamp mem r).1 = true ↔ ¬ Waits interval mem r := by
  by_cases h : Waits interval mem r
  · simp [ask_of_waits h, h]
  · simp [ask_of_not_waits h, h]

theorem ask_remembers (h : (ask interval stamp mem r).1 = true) :
    (ask interval stamp mem r).2 r.key = (stamp r.now).map fun t => (r.state, t) := by
  rw [ask_of_not_waits (ask_due_iff.1 h)]
  exact Function.update_self _ _ _

/-- A key keeps its memory while no request for it is due. -/
theorem ask_keeps {k : K} (h : r.key = k → (ask interval stamp mem r).1 = false) :
    (ask interval stamp mem r).2 k = mem k := by
  by_cases hwaits : Waits interval mem r
  · rw [ask_of_waits hwaits]
  · have hkey : k ≠ r.key := by
      rintro rfl
      rw [ask_due_iff.2 hwaits] at h
      exact Bool.noConfusion (h rfl)
    rw [ask_of_not_waits hwaits]
    exact Function.update_of_ne hkey _ _

/-- Two due requests for one key and in one state, with no due request for the key between them, are an
interval apart, less what the stamp of the first one falls behind. -/
theorem spaced [IsOrderedAddMonoid T] {rs : List (Request K S T)}
    {pre mid post : List (Entry (Memory K S T) (Request K S T))}
    {a b : Entry (Memory K S T) (Request K S T)} {last slack : T}
    (hrun : entries (ask interval stamp) mem rs = pre ++ a :: (mid ++ b :: post))
    (hkey : b.request.key = a.request.key) (hstate : b.request.state = a.request.state)
    (ha : a.due = true) (hb : b.due = true)
    (hmid : ∀ e ∈ mid, e.request.key = a.request.key → e.due = false)
    (hstamp : stamp a.request.now = some last) (hslack : a.request.now < last + slack) :
    interval - slack < b.request.since - a.request.now := by
  obtain ⟨rs₁, rs₂, -, -, hfirst⟩ := entries_eq_append hrun
  obtain ⟨r₁, rs₂', -, rfl, hrest⟩ := entries_eq_cons hfirst.symm
  obtain ⟨rs₃, rs₄, -, hbetween, hsecond⟩ := entries_eq_append hrest.symm
  obtain ⟨r₂, -, -, rfl, -⟩ := entries_eq_cons hsecond.symm
  -- What the first request left for the key is still there when the second one comes.
  have hkept : final (ask interval stamp) (ask interval stamp (final (ask interval stamp) mem rs₁) r₁).2
      rs₃ r₁.key = some (r₁.state, last) := by
    refine final_of_keeps (P := fun mem : Memory K S T => mem r₁.key = some (r₁.state, last)) ?_ ?_
    · rw [ask_remembers ha, show stamp r₁.now = some last from hstamp]
      rfl
    · intro e he hbefore
      have hkeep := hmid e (hbetween ▸ he)
      obtain ⟨m, r, -, rfl⟩ := exists_entry_of_mem he
      exact (ask_keeps hkeep).trans hbefore
  have hlate : interval ≤ r₂.since - last := by
    by_contra hlt
    exact ask_due_iff.1 hb ⟨_, hkey ▸ hkept, hstate.symm, not_le.1 hlt⟩
  calc interval - slack ≤ r₂.since - last - slack := sub_le_sub_right hlate slack
    _ = r₂.since - (last + slack) := sub_sub _ _ _
    _ < r₂.since - r₁.now := sub_lt_sub_left hslack _

end Throttle
