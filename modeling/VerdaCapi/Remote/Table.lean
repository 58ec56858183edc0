import Mathlib.Data.List.Nodup

/-!
# Tables

The rows a service stores, each under its own key, in the order in which the service lists them. That
no key occurs twice is part of the type, so a lookup by key and membership say the same.
-/

namespace Remote

variable {α κ : Type} {key : α → κ}

/-- Rows with distinct keys, in listing order. -/
structure Table (key : α → κ) where
  rows : List α := []
  nodup : (rows.map key).Nodup := by decide

namespace Table

instance : Inhabited (Table key) := ⟨{ rows := [], nodup := List.nodup_nil }⟩

/-- A key determines its row. -/
theorem eq_of_key (t : Table key) {x y : α} (hx : x ∈ t.rows) (hy : y ∈ t.rows)
    (h : key x = key y) : x = y :=
  List.inj_on_of_nodup_map t.nodup hx hy h

/-- Add rows under keys that are all new. -/
def extend (t : Table key) (xs : List α) (h : ((xs ++ t.rows).map key).Nodup) : Table key :=
  ⟨xs ++ t.rows, h⟩

@[simp]
theorem mem_extend {t : Table key} {xs : List α} {h : ((xs ++ t.rows).map key).Nodup} {x : α} :
    x ∈ (t.extend xs h).rows ↔ x ∈ xs ∨ x ∈ t.rows :=
  List.mem_append

/-- Change every row in a way that keeps its key. -/
def modify (t : Table key) (f : α → α) (hf : ∀ x, key (f x) = key x) : Table key where
  rows := t.rows.map f
  nodup := by
    have h : key ∘ f = key := funext hf
    simpa [h] using t.nodup

@[simp]
theorem mem_modify {t : Table key} {f : α → α} {hf : ∀ x, key (f x) = key x} {y : α} :
    y ∈ (t.modify f hf).rows ↔ ∃ x ∈ t.rows, f x = y :=
  List.mem_map

/-- Keep only some of the rows. -/
def filter (t : Table key) (p : α → Bool) : Table key where
  rows := t.rows.filter p
  nodup := t.nodup.sublist (List.filter_sublist.map key)

@[simp]
theorem mem_filter {t : Table key} {p : α → Bool} {x : α} :
    x ∈ (t.filter p).rows ↔ x ∈ t.rows ∧ p x = true :=
  List.mem_filter

/-- Rows with distinct keys that agree on their key wherever `p` holds are at most one. -/
theorem length_filter_le_one (t : Table key) (p : α → Bool)
    (h : ∀ x ∈ t.rows, ∀ y ∈ t.rows, p x = true → p y = true → key x = key y) :
    (t.rows.filter p).length ≤ 1 := by
  match hf : t.rows.filter p with
  | [] => simp
  | [x] => simp
  | x :: y :: rest =>
    have hx : x ∈ t.rows ∧ p x = true := List.mem_filter.1 (by simp [hf])
    have hy : y ∈ t.rows ∧ p y = true := List.mem_filter.1 (by simp [hf])
    have hxy := t.eq_of_key hx.1 hy.1 (h x hx.1 y hy.1 hx.2 hy.2)
    have hnodup := (t.filter p).nodup
    simp [filter, hf, hxy] at hnodup

variable [DecidableEq κ]

/-- Put a row under its key, in place of the one that was there. -/
def put (t : Table key) (x : α) : Table key :=
  (t.filter fun y => decide (key y ≠ key x)).extend [x] (by
    rw [List.singleton_append, List.map_cons, List.nodup_cons]
    refine ⟨?_, (t.filter _).nodup⟩
    simp)

@[simp]
theorem mem_put {t : Table key} {x y : α} :
    y ∈ (t.put x).rows ↔ y = x ∨ y ∈ t.rows ∧ key y ≠ key x := by
  simp [put]

/-- The row stored under a key. -/
def get (t : Table key) (k : κ) : Option α := t.rows.find? fun x => decide (key x = k)

theorem get_eq_some_iff {t : Table key} {k : κ} {x : α} :
    t.get k = some x ↔ x ∈ t.rows ∧ key x = k := by
  constructor
  · intro h
    exact ⟨List.mem_of_find?_eq_some h, by simpa using List.find?_some h⟩
  · rintro ⟨hx, rfl⟩
    cases hg : t.get (key x) with
    | none =>
      have := List.find?_eq_none.1 hg x hx
      simp at this
    | some y =>
      have hy : key y = key x := by simpa using List.find?_some hg
      rw [t.eq_of_key (List.mem_of_find?_eq_some hg) hx hy]

theorem get_eq_none_iff {t : Table key} {k : κ} : t.get k = none ↔ ∀ x ∈ t.rows, key x ≠ k := by
  simp [get, List.find?_eq_none]

end Table

end Remote
