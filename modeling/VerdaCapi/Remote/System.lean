import VerdaCapi.Remote.Prog
import Mathlib.Data.Fintype.Defs
import Mathlib.Data.Fintype.Basic

/-!
# Runs of controllers over a shared world

A `System` has a world `W` shared by threads `ι`. Each thread owns one persisted object `σ`, and runs
one pass at a time over it: the pass is a `Prog`, its requests are answered one by one, and when it
returns its outcome is persisted, possibly only in part. Passes of different threads interleave at
every request. A pass may crash at any point, which leaves the object as it was; the world may drift
on its own; an object may be edited from outside at any time. A pass works on the object as it was when
the pass began, so what it returns is persisted onto an object that may have been edited since.

Everything the environment decides is data: a run is a list of `Move`s, so a concrete run can be
evaluated (`exists_reach_of_run`). `Invariant.sound` is the induction over all runs, packaged once:
an invariant of the world, a local invariant of each object, and a `wp` for each pass. A pass is
verified as if nobody edited its object: it is enough that an edit, made before the outcome is
persisted, differs from one made afterwards by no more than an edit does (`Valid.merge`).
-/

namespace Remote

variable {ι W Op σ ρ Inp Choice Patch Drift Edit : Type} {Res : Op → Type}

/-- The parts of a system. The types `Inp`, `Choice`, `Patch`, `Drift` and `Edit` are what the
environment decides: what a pass is started with, how a request is answered, how much of an outcome
is persisted, how the world drifts, how an object is edited. `persist p seen obj r` is the object after
`r` was persisted, by a pass that has seen `seen`, when `obj` was stored. -/
structure System (ι W Op : Type) (Res : Op → Type) (σ ρ Inp Choice Patch Drift Edit : Type) where
  start : ι → Inp → σ → Prog Op Res ρ
  answer : ι → Choice → W → (o : Op) → Option (Res o × W)
  persist : Patch → σ → σ → ρ → σ
  drift : Drift → W → Option W
  edit : Edit → σ → Option σ

/-- The world, the persisted objects, what is left of the passes under way, and the objects as they were
when these passes began. -/
structure State (ι W Op : Type) (Res : Op → Type) (σ ρ : Type) where
  world : W
  obj : ι → σ
  run : ι → Option (Prog Op Res ρ)
  seen : ι → σ := obj

/-- What a pass has returned that was not persisted yet. -/
def State.returned (s : State ι W Op Res σ ρ) (i : ι) : Option ρ :=
  match s.run i with
  | some (.ret r) => some r
  | _ => none

theorem State.returned_eq_some {s : State ι W Op Res σ ρ} {i : ι} {r : ρ}
    (h : s.returned i = some r) : s.run i = some (.ret r) := by
  unfold State.returned at h
  split at h
  · rename_i hrun
    cases h
    exact hrun
  · cases h

/-- One step of a run. -/
inductive Move (ι Inp Choice Patch Drift Edit : Type) where
  | start (i : ι) (inp : Inp)
  | answer (i : ι) (c : Choice)
  | finish (i : ι) (p : Patch)
  | crash (i : ι)
  | drift (d : Drift)
  | edit (i : ι) (e : Edit)

/-- Conditions on the moves of a run: on the start of a pass, on the moment a request is answered, on
what is persisted of an outcome, on an edit, and whether the world drifts only while no pass is under
way. The object is the stored one, for requests and outcomes as it was when the pass began. -/
structure Conditions (ι W Op σ ρ Inp Patch Edit : Type) where
  start : ι → Inp → σ → W → Prop := fun _ _ _ _ => True
  call : ι → σ → W → Op → Prop := fun _ _ _ _ => True
  finish : ι → Patch → σ → ρ → Prop := fun _ _ _ _ => True
  edit : ι → Edit → σ → Prop := fun _ _ _ => True
  quiet : Prop := False

namespace System

variable [DecidableEq ι]

/-- The effect of a move; `none` when it is not possible in this state. -/
def step (S : System ι W Op Res σ ρ Inp Choice Patch Drift Edit) :
    Move ι Inp Choice Patch Drift Edit → State ι W Op Res σ ρ → Option (State ι W Op Res σ ρ)
  | .start i inp, s =>
    match s.run i with
    | none =>
      some { s with
        run := Function.update s.run i (some (S.start i inp (s.obj i)))
        seen := Function.update s.seen i (s.obj i) }
    | some _ => none
  | .answer i c, s =>
    match s.run i with
    | some (.call o next) =>
      match S.answer i c s.world o with
      | some (x, w) => some { s with world := w, run := Function.update s.run i (some (next x)) }
      | none => none
    | _ => none
  | .finish i p, s =>
    match s.run i with
    | some (.ret r) =>
      some { s with
        obj := Function.update s.obj i (S.persist p (s.seen i) (s.obj i) r)
        run := Function.update s.run i none }
    | _ => none
  | .crash i, s =>
    match s.run i with
    | some _ => some { s with run := Function.update s.run i none }
    | none => none
  | .drift d, s =>
    match S.drift d s.world with
    | some w => some { s with world := w }
    | none => none
  | .edit i e, s =>
    match S.edit e (s.obj i) with
    | some o => some { s with obj := Function.update s.obj i o }
    | none => none

/-- How a move may change an object: not at all, by persisting an outcome, or by an edit. -/
theorem step_obj {S : System ι W Op Res σ ρ Inp Choice Patch Drift Edit}
    {m : Move ι Inp Choice Patch Drift Edit} {s s' : State ι W Op Res σ ρ}
    (h : S.step m s = some s') (i : ι) : s'.obj i = s.obj i ∨
      (∃ p r, m = .finish i p ∧ s.run i = some (.ret r) ∧
        s'.obj i = S.persist p (s.seen i) (s.obj i) r) ∨
      ∃ e, m = .edit i e ∧ S.edit e (s.obj i) = some (s'.obj i) := by
  cases m with
  | start j inp =>
    simp only [step] at h
    split at h <;> cases h
    exact .inl rfl
  | answer j c =>
    simp only [step] at h
    split at h
    · split at h <;> cases h
      exact .inl rfl
    · cases h
  | finish j p =>
    simp only [step] at h
    split at h
    · rename_i r hrun
      cases h
      by_cases hi : i = j
      · subst hi
        exact .inr (.inl ⟨p, r, rfl, hrun, by simp⟩)
      · exact .inl (by simp [hi])
    · cases h
  | crash j =>
    simp only [step] at h
    split at h <;> cases h
    exact .inl rfl
  | drift d =>
    simp only [step] at h
    split at h <;> cases h
    exact .inl rfl
  | edit j e =>
    simp only [step] at h
    split at h
    · rename_i o he
      cases h
      by_cases hi : i = j
      · subst hi
        exact .inr (.inr ⟨e, rfl, by simpa using he⟩)
      · exact .inl (by simp [hi])
    · cases h

/-- How a move may change the world: not at all, by answering a request, or by drift. -/
theorem step_world {S : System ι W Op Res σ ρ Inp Choice Patch Drift Edit}
    {m : Move ι Inp Choice Patch Drift Edit} {s s' : State ι W Op Res σ ρ}
    (h : S.step m s = some s') : s'.world = s.world ∨
      (∃ i c o next x, s.run i = some (.call o next) ∧ S.answer i c s.world o = some (x, s'.world)) ∨
      ∃ d, S.drift d s.world = some s'.world := by
  cases m with
  | start j inp =>
    simp only [step] at h
    split at h <;> cases h
    exact .inl rfl
  | answer j c =>
    simp only [step] at h
    split at h
    · rename_i o next hrun
      split at h
      · rename_i x w hans
        cases h
        exact .inr (.inl ⟨j, c, o, next, x, hrun, hans⟩)
      · cases h
    · cases h
  | finish j p =>
    simp only [step] at h
    split at h <;> cases h
    exact .inl rfl
  | crash j =>
    simp only [step] at h
    split at h <;> cases h
    exact .inl rfl
  | drift d =>
    simp only [step] at h
    split at h
    · rename_i w hd
      cases h
      exact .inr (.inr ⟨d, hd⟩)
    · cases h
  | edit j e =>
    simp only [step] at h
    split at h <;> cases h
    exact .inl rfl

/-- A list of moves, one after the other, each of which must pass the check `ok`. -/
def run (S : System ι W Op Res σ ρ Inp Choice Patch Drift Edit)
    (ok : State ι W Op Res σ ρ → Move ι Inp Choice Patch Drift Edit → Bool) :
    List (Move ι Inp Choice Patch Drift Edit) → State ι W Op Res σ ρ →
      Option (State ι W Op Res σ ρ)
  | [], s => some s
  | m :: ms, s =>
    if ok s m then
      match S.step m s with
      | some s' => S.run ok ms s'
      | none => none
    else none

end System

/-- The move meets the conditions in this state. -/
def Conditions.Meets (C : Conditions ι W Op σ ρ Inp Patch Edit) (s : State ι W Op Res σ ρ) :
    Move ι Inp Choice Patch Drift Edit → Prop
  | .start i inp => C.start i inp (s.obj i) s.world
  | .answer i _ =>
    match s.run i with
    | some (.call o _) => C.call i (s.seen i) s.world o
    | _ => True
  | .finish i p =>
    match s.run i with
    | some (.ret r) => C.finish i p (s.seen i) r
    | _ => True
  | .crash _ => True
  | .drift _ => C.quiet → ∀ i, (s.run i).isNone = true
  | .edit i e => C.edit i e (s.obj i)

/-- Conditions are decidable when their parts are. -/
instance Conditions.decidableMeets [Fintype ι] (C : Conditions ι W Op σ ρ Inp Patch Edit)
    [∀ i inp obj w, Decidable (C.start i inp obj w)] [∀ i obj w o, Decidable (C.call i obj w o)]
    [∀ i p obj r, Decidable (C.finish i p obj r)] [∀ i e obj, Decidable (C.edit i e obj)]
    [Decidable C.quiet] (s : State ι W Op Res σ ρ) :
    (m : Move ι Inp Choice Patch Drift Edit) → Decidable (C.Meets s m)
  | .start i inp => inferInstanceAs (Decidable (C.start i inp (s.obj i) s.world))
  | .answer i _ =>
    match h : s.run i with
    | some (.call o _) =>
      decidable_of_iff (C.call i (s.seen i) s.world o) (by simp [Conditions.Meets, h])
    | some (.ret _) => .isTrue (by simp [Conditions.Meets, h])
    | none => .isTrue (by simp [Conditions.Meets, h])
  | .finish i p =>
    match h : s.run i with
    | some (.ret r) => decidable_of_iff (C.finish i p (s.seen i) r) (by simp [Conditions.Meets, h])
    | some (.call _ _) => .isTrue (by simp [Conditions.Meets, h])
    | none => .isTrue (by simp [Conditions.Meets, h])
  | .crash _ => .isTrue trivial
  | .drift _ => inferInstanceAs (Decidable (C.quiet → ∀ i, (s.run i).isNone = true))
  | .edit i e => inferInstanceAs (Decidable (C.edit i e (s.obj i)))

/-- The states that a run from `s₀` reaches when all its moves meet the conditions `C`. -/
inductive Reach [DecidableEq ι] (S : System ι W Op Res σ ρ Inp Choice Patch Drift Edit)
    (C : Conditions ι W Op σ ρ Inp Patch Edit) (s₀ : State ι W Op Res σ ρ) :
    State ι W Op Res σ ρ → Prop where
  | init : Reach S C s₀ s₀
  | step {s s' : State ι W Op Res σ ρ} {m : Move ι Inp Choice Patch Drift Edit}
      (h : Reach S C s₀ s) (hm : C.Meets s m) (hs : S.step m s = some s') : Reach S C s₀ s'

section

variable [DecidableEq ι] {S : System ι W Op Res σ ρ Inp Choice Patch Drift Edit}
  {C : Conditions ι W Op σ ρ Inp Patch Edit} {s₀ s s' : State ι W Op Res σ ρ}

theorem Reach.trans (h : Reach S C s₀ s) (h' : Reach S C s s') : Reach S C s₀ s' := by
  induction h' with
  | init => exact h
  | step _ hm hs ih => exact ih.step hm hs

/-- Weaker conditions allow more runs. -/
theorem Reach.mono {C' : Conditions ι W Op σ ρ Inp Patch Edit}
    (hC : ∀ (s : State ι W Op Res σ ρ) (m : Move ι Inp Choice Patch Drift Edit),
      C.Meets s m → C'.Meets s m) (h : Reach S C s₀ s) : Reach S C' s₀ s := by
  induction h with
  | init => exact .init
  | step _ hm hs ih => exact ih.step (hC _ _ hm) hs

omit [DecidableEq ι] in
/-- Conditions on the start of passes only. -/
theorem meets_of_start {start : ι → Inp → σ → W → Prop} (s : State ι W Op Res σ ρ)
    (m : Move ι Inp Choice Patch Drift Edit)
    (h : ∀ i inp, m = .start i inp → start i inp (s.obj i) s.world) :
    ({ start := start } : Conditions ι W Op σ ρ Inp Patch Edit).Meets s m := by
  cases m with
  | start i inp => exact h i inp rfl
  | answer i c =>
    simp only [Conditions.Meets]
    split <;> trivial
  | finish i p =>
    simp only [Conditions.Meets]
    split <;> trivial
  | drift d => exact fun h => h.elim
  | _ => trivial

omit [DecidableEq ι] in
/-- Without conditions every move is allowed. -/
theorem meets_default (s : State ι W Op Res σ ρ) (m : Move ι Inp Choice Patch Drift Edit) :
    ({} : Conditions ι W Op σ ρ Inp Patch Edit).Meets s m :=
  meets_of_start s m fun _ _ _ => trivial

/-- An evaluated list of moves is a run, under the conditions its check enforces. -/
theorem reach_of_run {ok : State ι W Op Res σ ρ → Move ι Inp Choice Patch Drift Edit → Bool}
    (hok : ∀ s m, ok s m = true → C.Meets s m) {ms : List (Move ι Inp Choice Patch Drift Edit)}
    (h : S.run ok ms s₀ = some s) : Reach S C s₀ s := by
  induction ms generalizing s₀ with
  | nil =>
    obtain rfl : s₀ = s := by simpa [System.run] using h
    exact .init
  | cons m ms ih =>
    simp only [System.run] at h
    split at h
    · rename_i hm
      split at h
      · rename_i s₁ hs₁
        exact Reach.trans (.step .init (hok _ _ hm) hs₁) (ih h)
      · cases h
    · cases h

/-- To show that some run ends in a certain way it is enough to evaluate it, with a check on its moves. -/
theorem exists_reach_checked (S : System ι W Op Res σ ρ Inp Choice Patch Drift Edit)
    {ok : State ι W Op Res σ ρ → Move ι Inp Choice Patch Drift Edit → Bool}
    (hok : ∀ s m, ok s m = true → C.Meets s m) (s₀ : State ι W Op Res σ ρ)
    (good : State ι W Op Res σ ρ → Bool) (ms : List (Move ι Inp Choice Patch Drift Edit))
    (h : (S.run ok ms s₀).any good = true) : ∃ s, Reach S C s₀ s ∧ good s = true := by
  cases hr : S.run ok ms s₀ with
  | none => simp [hr] at h
  | some s => exact ⟨s, reach_of_run hok hr, by simpa [hr] using h⟩

/-- The same without a check. -/
theorem exists_reach_of_run (S : System ι W Op Res σ ρ Inp Choice Patch Drift Edit)
    (s₀ : State ι W Op Res σ ρ) (bad : State ι W Op Res σ ρ → Bool)
    (ms : List (Move ι Inp Choice Patch Drift Edit))
    (h : (S.run (fun _ _ => true) ms s₀).any bad = true) :
    ∃ s, Reach S {} s₀ s ∧ bad s = true :=
  exists_reach_checked S (fun s m _ => meets_default s m) s₀ bad ms h

/-- The same for conditions that can be decided. -/
theorem exists_reach_meeting (S : System ι W Op Res σ ρ Inp Choice Patch Drift Edit)
    (C : Conditions ι W Op σ ρ Inp Patch Edit)
    [∀ (s : State ι W Op Res σ ρ) (m : Move ι Inp Choice Patch Drift Edit), Decidable (C.Meets s m)]
    (s₀ : State ι W Op Res σ ρ) (good : State ι W Op Res σ ρ → Bool)
    (ms : List (Move ι Inp Choice Patch Drift Edit))
    (h : (S.run (fun s m => decide (C.Meets s m)) ms s₀).any good = true) :
    ∃ s, Reach S C s₀ s ∧ good s = true :=
  exists_reach_checked S (fun _ _ hm => of_decide_eq_true hm) s₀ good ms h

/-- A run that meets the conditions, through a state with one property to a state with another. -/
theorem exists_reach_via (S : System ι W Op Res σ ρ Inp Choice Patch Drift Edit)
    (C : Conditions ι W Op σ ρ Inp Patch Edit)
    [∀ (s : State ι W Op Res σ ρ) (m : Move ι Inp Choice Patch Drift Edit), Decidable (C.Meets s m)]
    (s₀ : State ι W Op Res σ ρ) (mid good : State ι W Op Res σ ρ → Bool)
    (ms₁ ms₂ : List (Move ι Inp Choice Patch Drift Edit))
    (h : ((S.run (fun s m => decide (C.Meets s m)) ms₁ s₀).any fun s₁ => mid s₁ &&
      (S.run (fun s m => decide (C.Meets s m)) ms₂ s₁).any good) = true) :
    ∃ s₁ s₂, Reach S C s₀ s₁ ∧ mid s₁ = true ∧ Reach S C s₁ s₂ ∧ good s₂ = true := by
  obtain ⟨s₁, hs₁, h⟩ := exists_reach_meeting S C s₀ _ ms₁ h
  obtain ⟨hmid, h⟩ := Bool.and_eq_true_iff.1 h
  obtain ⟨s₂, hs₂, hgood⟩ := exists_reach_meeting S C s₁ good ms₂ h
  exact ⟨s₁, s₂, hs₁, hmid, hs₂, hgood⟩

/-- The same for a run of two parts, of which the second is under conditions. -/
theorem exists_reach_then (S : System ι W Op Res σ ρ Inp Choice Patch Drift Edit)
    (C : Conditions ι W Op σ ρ Inp Patch Edit)
    [∀ (s : State ι W Op Res σ ρ) (m : Move ι Inp Choice Patch Drift Edit), Decidable (C.Meets s m)]
    (s₀ : State ι W Op Res σ ρ) (mid good : State ι W Op Res σ ρ → Bool)
    (ms₁ ms₂ : List (Move ι Inp Choice Patch Drift Edit))
    (h : ((S.run (fun _ _ => true) ms₁ s₀).any fun s₁ => mid s₁ &&
      (S.run (fun s m => decide (C.Meets s m)) ms₂ s₁).any good) = true) :
    ∃ s₁ s₂, Reach S {} s₀ s₁ ∧ mid s₁ = true ∧ Reach S C s₁ s₂ ∧ good s₂ = true := by
  obtain ⟨s₁, hs₁, h⟩ := exists_reach_of_run S s₀ _ ms₁ h
  rcases Bool.and_eq_true_iff.1 h with ⟨hmid, h⟩
  obtain ⟨s₂, hs₂, hgood⟩ := exists_reach_meeting S C s₁ good ms₂ h
  exact ⟨s₁, s₂, hs₁, hmid, hs₂, hgood⟩

end

/-! ## The invariant rule -/

/-- What is shown once to conclude about every run:

* `inv` of the world and `loc` of each object hold throughout;
* `rely i` is the interference that thread `i` has to expect during a pass;
* `guar i` is what thread `i` makes sure of before each request;
* `done i` is what holds when a pass of thread `i` returns;
* `touch i` is what an edit may do to the object of thread `i`. -/
structure Invariant (S : System ι W Op Res σ ρ Inp Choice Patch Drift Edit)
    (C : Conditions ι W Op σ ρ Inp Patch Edit) where
  inv : W → Prop
  loc : ι → σ → W → Prop
  rely : ι → W → W → Prop
  guar : ι → σ → W → Op → Prop
  done : ι → σ → ρ → W → Prop
  touch : ι → σ → σ → Prop := fun _ obj obj' => obj' = obj

namespace Invariant

variable {S : System ι W Op Res σ ρ Inp Choice Patch Drift Edit} {C : Conditions ι W Op σ ρ Inp Patch Edit}

/-- The setting in which a pass of thread `i` over the object `obj` runs. -/
def setting (V : Invariant S C) (i : ι) (obj : σ) : Setting W Op Res where
  inv w := V.inv w ∧ V.loc i obj w
  rely := V.rely i
  step w o x w' := C.call i obj w o ∧ ∃ c, S.answer i c w o = some (x, w')
  guar := V.guar i obj

/-- The obligations behind an invariant, one for each kind of move. -/
structure Valid (V : Invariant S C) : Prop where
  refl : ∀ i w, V.rely i w w
  trans : ∀ i {w₁ w₂ w₃}, V.rely i w₁ w₂ → V.rely i w₂ w₃ → V.rely i w₁ w₃
  /-- Drift keeps both invariants, and is expected by a pass under way unless it cannot happen. -/
  drift : ∀ {d w w'}, V.inv w → S.drift d w = some w' →
    V.inv w' ∧ ∀ i, (¬ C.quiet → V.rely i w w') ∧ ∀ obj, V.loc i obj w → V.loc i obj w'
  edit : ∀ {i e obj obj'}, C.edit i e obj → S.edit e obj = some obj' → V.touch i obj obj'
  touched : ∀ {i obj obj' w}, V.inv w → V.loc i obj w → V.touch i obj obj' → V.loc i obj' w
  /-- An outcome that is persisted onto an edited object gives what an edit makes of an object onto
  which it, or as much of it as the edit left, was persisted. -/
  merge : ∀ {i p seen obj obj' r}, V.touch i obj obj' → C.finish i p seen r →
    ∃ q, C.finish i q seen r ∧ V.touch i (S.persist q seen obj r) (S.persist p seen obj' r)
  /-- A request issued under `guar` keeps both invariants, and other threads expect it. -/
  call : ∀ {i obj c w o x w'}, V.inv w → V.loc i obj w → C.call i obj w o → V.guar i obj w o →
    S.answer i c w o = some (x, w') →
    V.inv w' ∧ V.loc i obj w' ∧
      ∀ j, j ≠ i → V.rely j w w' ∧ ∀ obj', V.loc j obj' w → V.loc j obj' w'
  pass : ∀ {i inp obj w}, V.inv w → V.loc i obj w → C.start i inp obj w →
    (S.start i inp obj).wp (V.setting i obj)
      (fun r w => V.done i obj r w ∧ ∀ p, C.finish i p obj r → V.loc i (S.persist p obj obj r) w) w

theorem Valid.lawful {V : Invariant S C} (hV : V.Valid) (i : ι) (obj : σ) :
    (V.setting i obj).Lawful :=
  ⟨hV.refl i, hV.trans i⟩

/-- An object that was edited any number of times. -/
def Edited (V : Invariant S C) (i : ι) : σ → σ → Prop := Relation.ReflTransGen (V.touch i)

theorem Valid.edited {V : Invariant S C} (hV : V.Valid) {i : ι} {obj obj' : σ} {w : W} (hinv : V.inv w)
    (hloc : V.loc i obj w) (h : V.Edited i obj obj') : V.loc i obj' w := by
  induction h with
  | refl => exact hloc
  | tail _ htouch ih => exact hV.touched hinv ih htouch

/-- What may be persisted onto an object may be persisted onto it after any edits. -/
theorem Valid.merge_edited {V : Invariant S C} (hV : V.Valid) {i : ι} {seen obj obj' : σ} {r : ρ} {w : W}
    (hinv : V.inv w) (hloc : ∀ p, C.finish i p seen r → V.loc i (S.persist p seen obj r) w)
    (h : V.Edited i obj obj') : ∀ p, C.finish i p seen r → V.loc i (S.persist p seen obj' r) w := by
  induction h with
  | refl => exact hloc
  | tail _ htouch ih =>
    intro p hp
    obtain ⟨q, hq, hmerged⟩ := hV.merge htouch hp
    exact hV.touched hinv (ih q hq) hmerged

/-- A pass of which whatever part is persisted keeps the local invariant. -/
theorem wp_persist {V : Invariant S C} {i : ι} {obj : σ} {p : Prog Op Res ρ} {w : W}
    (h : p.wp (V.setting i obj)
      (fun r w => V.done i obj r w ∧ ∀ q, V.loc i (S.persist q obj obj r) w) w) :
    p.wp (V.setting i obj)
      (fun r w => V.done i obj r w ∧ ∀ q, C.finish i q obj r → V.loc i (S.persist q obj obj r) w) w :=
  Prog.wp_mono (fun _ _ _ hr => ⟨hr.1, fun q _ => hr.2 q⟩) h

/-- A pass under way that began with `seen`, while `obj` is stored, is safe. -/
structure Safe (V : Invariant S C) (i : ι) (seen obj : σ) (p : Prog Op Res ρ) (w : W) : Prop where
  loc : V.loc i seen w
  edited : V.Edited i seen obj
  wp : p.wp (V.setting i seen)
    (fun r w => V.done i seen r w ∧ ∀ q, C.finish i q seen r → V.loc i (S.persist q seen seen r) w) w

/-- The invariant of a whole state: both invariants hold, and every pass under way is safe. -/
structure Holds (V : Invariant S C) (s : State ι W Op Res σ ρ) : Prop where
  inv : V.inv s.world
  loc : ∀ i, V.loc i (s.obj i) s.world
  run : ∀ i p, s.run i = some p → V.Safe i (s.seen i) (s.obj i) p s.world

variable [DecidableEq ι] {V : Invariant S C} {s s' s₀ : State ι W Op Res σ ρ}

/-- One move keeps the invariant. -/
theorem Holds.step (hV : V.Valid) (h : V.Holds s) {m : Move ι Inp Choice Patch Drift Edit}
    (hm : C.Meets s m) (hs : S.step m s = some s') : V.Holds s' := by
  cases m with
  | start i inp =>
    simp only [System.step] at hs
    split at hs
    · obtain rfl := Option.some.inj hs
      refine ⟨h.inv, h.loc, fun j p hp => ?_⟩
      by_cases hj : j = i
      · subst hj
        obtain rfl : S.start j inp (s.obj j) = p := by simpa using hp
        simp only [Function.update_self]
        exact ⟨h.loc j, .refl, hV.pass h.inv (h.loc j) hm⟩
      · simpa [hj] using h.run j p (by simpa [hj] using hp)
    · cases hs
  | answer i c =>
    simp only [System.step] at hs
    split at hs
    · rename_i o next hrun
      split at hs
      · rename_i x w hans
        obtain rfl := Option.some.inj hs
        -- the pass under way guarantees its request and goes on from the answer
        have hsafe := h.run i _ hrun
        obtain ⟨hg, hk⟩ := hsafe.wp s.world (hV.refl i _) ⟨h.inv, hsafe.loc⟩
        have hc : C.call i (s.seen i) s.world o := by
          simpa [Conditions.Meets, hrun] using hm
        obtain ⟨hinv, hloc, hother⟩ := hV.call h.inv hsafe.loc hc hg hans
        refine ⟨hinv, fun j => ?_, fun j p hp => ?_⟩
        · by_cases hj : j = i
          · subst hj
            exact hV.edited hinv hloc hsafe.edited
          · exact (hother j hj).2 _ (h.loc j)
        · by_cases hj : j = i
          · subst hj
            obtain rfl : next x = p := by simpa using hp
            exact ⟨hloc, hsafe.edited, hk x w ⟨hc, c, hans⟩ ⟨hinv, hloc⟩⟩
          · have hp' : s.run j = some p := by simpa [hj] using hp
            have hsafe' := h.run j p hp'
            exact ⟨(hother j hj).2 _ hsafe'.loc, hsafe'.edited,
              Prog.wp_rely (hV.lawful j _) (hother j hj).1 hsafe'.wp⟩
      · cases hs
    · cases hs
  | finish i q =>
    simp only [System.step] at hs
    split at hs
    · rename_i r hrun
      obtain rfl := Option.some.inj hs
      have hsafe := h.run i _ hrun
      have hdone := hsafe.wp s.world (hV.refl i _) ⟨h.inv, hsafe.loc⟩
      have hc : C.finish i q (s.seen i) r := by
        simpa [Conditions.Meets, hrun] using hm
      refine ⟨h.inv, fun j => ?_, fun j p hp => ?_⟩
      · by_cases hj : j = i
        · subst hj
          simpa using hV.merge_edited h.inv hdone.2 hsafe.edited q hc
        · simpa [hj] using h.loc j
      · by_cases hj : j = i
        · subst hj; simp at hp
        · have hp' : s.run j = some p := by simpa [hj] using hp
          simpa [hj] using h.run j p hp'
    · cases hs
  | crash i =>
    simp only [System.step] at hs
    split at hs
    · obtain rfl := Option.some.inj hs
      refine ⟨h.inv, h.loc, fun j p hp => ?_⟩
      by_cases hj : j = i
      · subst hj; simp at hp
      · exact h.run j p (by simpa [hj] using hp)
    · cases hs
  | drift d =>
    simp only [System.step] at hs
    split at hs
    · rename_i w hd
      obtain rfl := Option.some.inj hs
      obtain ⟨hinv, hrest⟩ := hV.drift h.inv hd
      refine ⟨hinv, fun j => (hrest j).2 _ (h.loc j), fun j p hp => ?_⟩
      have hq : ¬ C.quiet := fun hq => by
        have hidle : s.run j = none := by simpa using hm hq j
        simp only [hidle] at hp
        cases hp
      have hsafe := h.run j p hp
      exact ⟨(hrest j).2 _ hsafe.loc, hsafe.edited,
        Prog.wp_rely (hV.lawful j _) ((hrest j).1 hq) hsafe.wp⟩
    · cases hs
  | edit i e =>
    simp only [System.step] at hs
    split at hs
    · rename_i o he
      obtain rfl := Option.some.inj hs
      have htouch : V.touch i (s.obj i) o := hV.edit hm he
      refine ⟨h.inv, fun j => ?_, fun j p hp => ?_⟩
      · by_cases hj : j = i
        · subst hj; simpa using hV.touched h.inv (h.loc j) htouch
        · simpa [hj] using h.loc j
      · have hsafe := h.run j p hp
        by_cases hj : j = i
        · subst hj
          simpa using (⟨hsafe.loc, hsafe.edited.tail htouch, hsafe.wp⟩ : V.Safe j (s.seen j) o p s.world)
        · simpa [hj] using hsafe
    · cases hs

/-- What holds stays so in every run. -/
theorem Holds.reach (hV : V.Valid) (h₀ : V.Holds s₀) (h : Reach S C s₀ s) : V.Holds s := by
  induction h with
  | init => exact h₀
  | step _ hm hs ih => exact ih.step hV hm hs

/-- **The invariant rule.** Whatever is shown valid holds in every state of every run. -/
theorem sound (hV : V.Valid) (hinv : V.inv s₀.world) (hloc : ∀ i, V.loc i (s₀.obj i) s₀.world)
    (hidle : ∀ i, s₀.run i = none) (h : Reach S C s₀ s) : V.Holds s := by
  refine Holds.reach hV ⟨hinv, hloc, fun i p hp => ?_⟩ h
  rw [hidle i] at hp
  cases hp

omit [DecidableEq ι] in
/-- Every request about to be answered was issued under its guarantee. -/
theorem Holds.guar (hV : V.Valid) (h : V.Holds s) {i : ι} {o : Op} {next : Res o → Prog Op Res ρ}
    (hrun : s.run i = some (.call o next)) : V.guar i (s.seen i) s.world o :=
  ((h.run i _ hrun).wp s.world (hV.refl i _) ⟨h.inv, (h.run i _ hrun).loc⟩).1

omit [DecidableEq ι] in
/-- Every pass that has returned did so under its postcondition. -/
theorem Holds.done (hV : V.Valid) (h : V.Holds s) {i : ι} {r : ρ}
    (hrun : s.run i = some (.ret r)) : V.done i (s.seen i) r s.world :=
  ((h.run i _ hrun).wp s.world (hV.refl i _) ⟨h.inv, (h.run i _ hrun).loc⟩).1

/-- What stored outcomes and edits keep from one object to the next, a run keeps from its start to its
end. -/
theorem Holds.tracks (hV : V.Valid) {i : ι} {R : σ → σ → Prop} (hrefl : ∀ obj, R obj obj)
    (htrans : ∀ {obj₁ obj₂ obj₃}, R obj₁ obj₂ → R obj₂ obj₃ → R obj₁ obj₃)
    (hpersist : ∀ {seen obj r w p}, V.loc i seen w → V.loc i obj w → V.Edited i seen obj →
      V.done i seen r w → C.finish i p seen r → R obj (S.persist p seen obj r))
    (hedit : ∀ {e obj obj' w}, V.loc i obj w → C.edit i e obj → S.edit e obj = some obj' → R obj obj')
    (h₀ : V.Holds s₀) (h : Reach S C s₀ s) : R (s₀.obj i) (s.obj i) := by
  induction h with
  | init => exact hrefl _
  | step hr hm hs ih =>
    have h := h₀.reach hV hr
    refine htrans ih ?_
    rcases System.step_obj hs i with heq | ⟨p, r, rfl, hrun, heq⟩ | ⟨e, rfl, he⟩
    · rw [heq]
      exact hrefl _
    · rw [heq]
      have hsafe := h.run i _ hrun
      refine hpersist hsafe.loc (h.loc i) hsafe.edited (h.done hV hrun) ?_
      simpa [Conditions.Meets, hrun] using hm
    · exact hedit (h.loc i) hm he

/-- What answers and drift keep from one world to the next, a run keeps from its start to its end. -/
theorem Holds.evolves (hV : V.Valid) {R : W → W → Prop} (hrefl : ∀ w, R w w)
    (htrans : ∀ {w₁ w₂ w₃}, R w₁ w₂ → R w₂ w₃ → R w₁ w₃)
    (hcall : ∀ {i obj c w o x w'}, V.inv w → V.guar i obj w o → S.answer i c w o = some (x, w') → R w w')
    (hdrift : ∀ {d w w'}, V.inv w → S.drift d w = some w' → R w w') (h₀ : V.Holds s₀)
    (h : Reach S C s₀ s) : R s₀.world s.world := by
  induction h with
  | init => exact hrefl _
  | step hr hm hs ih =>
    have h := h₀.reach hV hr
    refine htrans ih ?_
    rcases System.step_world hs with heq | ⟨i, c, o, next, x, hrun, hans⟩ | ⟨d, hd⟩
    · rw [heq]
      exact hrefl _
    · exact hcall h.inv (h.guar hV hrun) hans
    · exact hdrift h.inv hd

end Invariant

end Remote
