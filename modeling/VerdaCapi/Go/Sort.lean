import Mathlib.Data.List.Sort
import Mathlib.Order.Compare

/-!
# Go's `slices.SortFunc`

What `slices.SortFunc` returns has the elements it was given and is sorted. It is not stable, so for
elements that compare equal their order is not known. `SortFunc` stands for any such function. Where
equal elements are the same, the result is determined (`sort_eq_of_perm`).
-/

namespace Go

/-- `slices.SortFunc`. -/
structure SortFunc where
  sort : {α : Type} → (α → α → Ordering) → List α → List α
  perm : ∀ {α : Type} (cmp : α → α → Ordering) (l : List α), (sort cmp l).Perm l
  sorted : ∀ {α : Type} (cmp : α → α → Ordering) [Std.TransCmp cmp] (l : List α),
    (sort cmp l).Pairwise fun a b => (cmp a b).isLE = true

/-- Elements of the list that compare equal are the same. -/
def Distinguishes {α : Type} (cmp : α → α → Ordering) (l : List α) : Prop :=
  ∀ a ∈ l, ∀ b ∈ l, cmp a b = .eq → a = b

/-- Insertion sort is one. -/
def insertion : SortFunc where
  sort cmp l := l.insertionSort fun a b => (cmp a b).isLE = true
  perm cmp l := List.perm_insertionSort _ l
  sorted cmp _ l := by
    have htotal : Std.Total fun a b => (cmp a b).isLE = true := by
      refine ⟨fun a b => ?_⟩
      have hswap : cmp b a = (cmp a b).swap := Std.OrientedCmp.eq_swap
      rw [hswap]
      cases cmp a b <;> simp
    have htrans : IsTrans _ fun a b => (cmp a b).isLE = true := ⟨fun _ _ _ => Std.TransCmp.isLE_trans⟩
    exact List.pairwise_insertionSort _ l

namespace SortFunc

variable {α : Type} {cmp : α → α → Ordering} {l l' : List α}

theorem mem_sort (S : SortFunc) {a : α} : a ∈ S.sort cmp l ↔ a ∈ l := (S.perm cmp l).mem_iff

theorem nodup_map_sort (S : SortFunc) {β : Type} {f : α → β} (h : (l.map f).Nodup) :
    ((S.sort cmp l).map f).Nodup :=
  ((S.perm cmp l).map f).nodup_iff.2 h

/-- A sorted list with the same elements is the result. -/
theorem sort_eq [Std.TransCmp cmp] (S : SortFunc) (hd : Distinguishes cmp l) (hperm : l'.Perm l)
    (hsorted : l'.Pairwise fun a b => (cmp a b).isLE = true) : S.sort cmp l = l' := by
  refine List.Perm.eq_of_pairwise (fun a b ha hb hab hba => ?_) (S.sorted cmp l) hsorted
    ((S.perm cmp l).trans hperm.symm)
  refine hd a (S.mem_sort.1 ha) b (hperm.mem_iff.1 hb) ?_
  exact Std.OrientedCmp.isLE_antisymm hab hba

/-- The order in which the elements were listed does not matter, nor which sort it is. -/
theorem sort_eq_of_perm [Std.TransCmp cmp] (S S' : SortFunc) (hd : Distinguishes cmp l)
    (hperm : l'.Perm l) : S.sort cmp l = S'.sort cmp l' :=
  S.sort_eq hd ((S'.perm cmp l').trans hperm) (S'.sorted cmp l')

end SortFunc

end Go
