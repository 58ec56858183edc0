import Mathlib.Data.List.Induction
import Mathlib.Data.List.Nodup
import Mathlib.Tactic.Common

/-!
# First come, first served, all or nothing

Claimants come one after the other, and each wants some slots. A claimant is served if it is fit and
none of the slots it wants is held by one that was served before it; it then holds all of them. One that
is not served holds nothing.

`mem_served_iff_earlier` is the rule itself. A newcomer changes nothing for those before it (`served_concat`).
No slot is held twice (`served_disjoint`).
-/

namespace FirstCome

variable {α β : Type} (Fit : α → Prop) (wants : α → List β)

/-- The claimant can be served next to those that hold their slots. -/
def Admits (held : List α) (a : α) : Prop := Fit a ∧ ∀ x ∈ wants a, ∀ b ∈ held, x ∉ wants b

instance [DecidablePred Fit] [DecidableEq β] (held : List α) (a : α) :
    Decidable (Admits Fit wants held a) :=
  inferInstanceAs (Decidable (_ ∧ _))

variable [DecidablePred Fit] [DecidableEq β]

/-- Serve one claimant. -/
def serve (held : List α) (a : α) : List α := if Admits Fit wants held a then held ++ [a] else held

/-- Those that are served, in their order. -/
def served (l : List α) : List α := l.foldl (serve Fit wants) []

variable {Fit wants} {held l l' : List α} {a b : α}

theorem serve_of_admits (h : Admits Fit wants held a) : serve Fit wants held a = held ++ [a] := if_pos h

theorem serve_of_not_admits (h : ¬ Admits Fit wants held a) : serve Fit wants held a = held := if_neg h

theorem served_concat : served Fit wants (l ++ [a]) = serve Fit wants (served Fit wants l) a := by
  simp [served]

/-- The served are some of the claimants, in their order. -/
theorem served_sublist (l : List α) : (served Fit wants l).Sublist l := by
  induction l using List.reverseRecOn with
  | nil => exact .slnil
  | append_singleton l a ih =>
    rw [served_concat]
    by_cases h : Admits Fit wants (served Fit wants l) a
    · rw [serve_of_admits h]
      exact ih.append (.refl _)
    · rw [serve_of_not_admits h]
      exact ih.trans (List.sublist_append_left l [a])

/-- A part of a list without repetitions is what a test for it leaves. -/
theorem filter_eq_of_sublist {p : α → Bool} (hsub : l'.Sublist l) (hnodup : l.Nodup)
    (h : ∀ a ∈ l, p a = true ↔ a ∈ l') : l.filter p = l' := by
  induction hsub with
  | slnil => rfl
  | @cons l₁ l₂ a hsub ih =>
    rw [List.nodup_cons] at hnodup
    rw [List.forall_mem_cons] at h
    have hnot : ¬ p a = true := fun hp => hnodup.1 (hsub.subset (h.1.1 hp))
    rw [List.filter_cons_of_neg hnot]
    exact ih hnodup.2 h.2
  | @cons_cons l₁ l₂ a hsub ih =>
    rw [List.nodup_cons] at hnodup
    rw [List.forall_mem_cons] at h
    rw [List.filter_cons_of_pos (h.1.2 (by simp)), ih hnodup.2 fun b hb => ?_]
    have hne : b ≠ a := fun heq => hnodup.1 (heq ▸ hb)
    simpa [hne] using h.2 b hb

/-- Nobody who was served is turned away later. -/
theorem foldl_serve_extends (l held : List α) :
    ∃ more, l.foldl (serve Fit wants) held = held ++ more ∧ more.Sublist l := by
  induction l generalizing held with
  | nil => exact ⟨[], by simp, .slnil⟩
  | cons a l ih =>
    rw [List.foldl_cons]
    rcases ih (serve Fit wants held a) with ⟨more, heq, hsub⟩
    by_cases h : Admits Fit wants held a
    · refine ⟨a :: more, ?_, hsub.cons_cons a⟩
      rw [heq, serve_of_admits h, List.append_assoc]
      rfl
    · refine ⟨more, ?_, hsub.cons a⟩
      rw [heq, serve_of_not_admits h]

/-- Those that come later do not matter. -/
theorem mem_served_append (hnodup : (l ++ l').Nodup) (ha : a ∈ l) :
    a ∈ served Fit wants (l ++ l') ↔ a ∈ served Fit wants l := by
  have hext : ∃ more, l'.foldl (serve Fit wants) (served Fit wants l) =
      served Fit wants l ++ more ∧ more.Sublist l' := foldl_serve_extends l' _
  rcases hext with ⟨more, heq, hsub⟩
  have hmore : a ∉ more := fun hm => (List.nodup_append.1 hnodup).2.2 a ha a (hsub.subset hm) rfl
  have hsplit : served Fit wants (l ++ l') = served Fit wants l ++ more := by
    rw [← heq, served, List.foldl_append, served]
  simp [hsplit, hmore]

/-- Who is served depends on who was served before. -/
theorem mem_served_iff (hnodup : (l ++ a :: l').Nodup) :
    a ∈ served Fit wants (l ++ a :: l') ↔ Admits Fit wants (served Fit wants l) a := by
  have hnot : a ∉ l := by
    have hdup := (List.nodup_cons.1 (List.nodup_middle.1 hnodup)).1
    exact fun hl => hdup (List.mem_append_left l' hl)
  have hassoc : l ++ a :: l' = l ++ [a] ++ l' := by simp
  rw [hassoc] at hnodup ⊢
  rw [mem_served_append hnodup (by simp), served_concat]
  by_cases h : Admits Fit wants (served Fit wants l) a
  · simp [serve_of_admits h, h]
  · rw [serve_of_not_admits h]
    exact iff_of_false (fun hmem => hnot ((served_sublist l).subset hmem)) h

/-- **The rule**, for claimants that come in the order of `r`. -/
theorem mem_served_iff_earlier {r : α → α → Prop} [Std.Asymm r] (hr : l.Pairwise r) (ha : a ∈ l) :
    a ∈ served Fit wants l ↔
      Fit a ∧ ∀ x ∈ wants a, ∀ b ∈ served Fit wants l, r b a → x ∉ wants b := by
  have hnodup : l.Nodup := by
    refine List.Pairwise.imp ?_ hr
    rintro b c hbc rfl
    exact Std.Asymm.asymm _ _ hbc hbc
  rcases List.append_of_mem ha with ⟨l₁, l₂, rfl⟩
  rw [mem_served_iff hnodup]
  refine and_congr_right fun _ => forall₂_congr fun x _ => ?_
  rcases List.pairwise_append.1 hr with ⟨-, hright, hacross⟩
  constructor
  · intro h b hb hba
    rcases List.mem_append.1 ((served_sublist _).subset hb) with hb₁ | hb₂
    · exact h b ((mem_served_append hnodup hb₁).1 hb)
    · -- those from the claimant on do not come before it
      exfalso
      rcases List.mem_cons.1 hb₂ with rfl | hb₂
      · exact Std.Asymm.asymm _ _ hba hba
      · exact Std.Asymm.asymm _ _ hba ((List.pairwise_cons.1 hright).1 b hb₂)
  · intro h b hb
    have hb₁ : b ∈ l₁ := (served_sublist _).subset hb
    exact h b ((mem_served_append hnodup hb₁).2 hb) (hacross b hb₁ a (by simp))

/-- No slot is held twice. -/
theorem served_disjoint (l : List α) :
    (served Fit wants l).Pairwise fun a b => ∀ x ∈ wants b, x ∉ wants a := by
  induction l using List.reverseRecOn with
  | nil => exact .nil
  | append_singleton l a ih =>
    rw [served_concat]
    by_cases h : Admits Fit wants (served Fit wants l) a
    · rw [serve_of_admits h]
      refine List.pairwise_append.2 ⟨ih, List.pairwise_singleton _ _, fun b hb a' ha' => ?_⟩
      obtain rfl := List.mem_singleton.1 ha'
      exact fun x hx => h.2 x hx b hb
    · rw [serve_of_not_admits h]
      exact ih

end FirstCome
