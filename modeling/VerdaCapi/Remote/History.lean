import VerdaCapi.Remote.System

/-!
# Runs with a history

Some statements are about what a controller asked for earlier. `System.traced` is the same system with
a history of the requests that were answered. No program reads it. `History.last` is what a thread was
told last.

In `System.reporting` every pass tells the last answer it got, so that one can say on what it returned.
-/

namespace Remote

variable {ι W Op σ ρ Inp Choice Patch Drift Edit : Type} {Res : Op → Type}

/-- The requests that were answered, newest first, each with its thread and its answer. -/
abbrev History (ι Op : Type) (Res : Op → Type) := List (ι × Σ o : Op, Res o)

/-- The system, with a history of its requests. -/
def System.traced (S : System ι W Op Res σ ρ Inp Choice Patch Drift Edit) :
    System ι (W × History ι Op Res) Op Res σ ρ Inp Choice Patch Drift Edit where
  start := S.start
  answer i c w o := (S.answer i c w.1 o).map fun r => (r.1, r.2, (i, ⟨o, r.1⟩) :: w.2)
  persist := S.persist
  drift d w := (S.drift d w.1).map fun w' => (w', w.2)
  edit := S.edit

/-- The state without its history. -/
def State.untraced (s : State ι (W × History ι Op Res) Op Res σ ρ) : State ι W Op Res σ ρ where
  world := s.world.1
  obj := s.obj
  run := s.run
  seen := s.seen

/-- The state with an empty history. -/
def State.traced (s : State ι W Op Res σ ρ) : State ι (W × History ι Op Res) Op Res σ ρ where
  world := (s.world, [])
  obj := s.obj
  run := s.run
  seen := s.seen

section

variable {S : System ι W Op Res σ ρ Inp Choice Patch Drift Edit} {w w' : W × History ι Op Res}

theorem System.traced_answer {i : ι} {c : Choice} {o : Op} {x : Res o}
    (h : S.traced.answer i c w o = some (x, w')) :
    S.answer i c w.1 o = some (x, w'.1) ∧ w'.2 = (i, ⟨o, x⟩) :: w.2 := by
  rcases Option.map_eq_some_iff.1 h with ⟨⟨y, w₁⟩, hans, heq⟩
  cases heq
  exact ⟨hans, rfl⟩

theorem System.traced_drift {d : Drift} (h : S.traced.drift d w = some w') :
    S.drift d w.1 = some w'.1 ∧ w'.2 = w.2 := by
  rcases Option.map_eq_some_iff.1 h with ⟨w₁, hd, rfl⟩
  exact ⟨hd, rfl⟩

end

/-! ## What a thread was told last -/

section

variable {β : Type} [DecidableEq ι] {i j : ι} {f : (Σ o, Res o) → Option β} {e : Σ o, Res o}
  {h : History ι Op Res}

/-- The newest answer to thread `i` that `f` picks out, in the form `f` gives it. -/
def History.last (i : ι) (f : (Σ o, Res o) → Option β) (h : History ι Op Res) : Option β :=
  h.findSome? fun e => if e.1 = i then f e.2 else none

theorem History.last_cons_other (hj : j ≠ i) : History.last i f ((j, e) :: h) = History.last i f h := by
  simp [History.last, hj]

theorem History.last_cons_skip (he : f e = none) :
    History.last i f ((j, e) :: h) = History.last i f h := by
  simp [History.last, he]

theorem History.last_cons_pick {b : β} (he : f e = some b) :
    History.last i f ((i, e) :: h) = some b := by
  simp [History.last, he]

end

/-! ## The last answer of a pass -/

section

variable {α : Type}

/-- The program, which returns besides its result the last answer it got, or `last` if it gets none. -/
def Prog.reporting : Prog Op Res α → Option (Σ o, Res o) → Prog Op Res (α × Option (Σ o, Res o))
  | .ret a, last => .ret (a, last)
  | .call o next, _ => .call o fun x => (next x).reporting (some ⟨o, x⟩)

/-- The system, of which the passes tell the last answer they got. -/
def System.reporting (S : System ι W Op Res σ ρ Inp Choice Patch Drift Edit) :
    System ι W Op Res σ (ρ × Option (Σ o, Res o)) Inp Choice Patch Drift Edit where
  start i inp obj := (S.start i inp obj).reporting none
  answer := S.answer
  persist p seen obj r := S.persist p seen obj r.1
  drift := S.drift
  edit := S.edit

/-- The setting with the last answer next to the world. -/
def Setting.remembering (S : Setting W Op Res) : Setting (W × Option (Σ o, Res o)) Op Res where
  inv w := S.inv w.1
  rely w w' := S.rely w.1 w'.1 ∧ w'.2 = w.2
  step w o x w' := S.step w.1 o x w'.1 ∧ w'.2 = some ⟨o, x⟩
  guar w o := S.guar w.1 o

theorem Setting.Lawful.remembering {S : Setting W Op Res} (hS : S.Lawful) : S.remembering.Lawful :=
  ⟨fun w => ⟨hS.refl w.1, rfl⟩, fun h h' => ⟨hS.trans h.1 h'.1, h'.2.trans h.2⟩⟩

/-- To know on what a program returns, it is run with its last answer next to the world. -/
theorem Prog.wp_reporting {S : Setting W Op Res} {p : Prog Op Res α} {w : W} {last : Option (Σ o, Res o)}
    {Q : α × Option (Σ o, Res o) → W → Prop}
    (h : p.wp S.remembering (fun a w => Q (a, w.2) w.1) (w, last)) : (p.reporting last).wp S Q w := by
  induction p generalizing w last with
  | ret a => exact fun w' hr hi => h (w', last) ⟨hr, rfl⟩ hi
  | call o next ih =>
    intro w' hr hi
    obtain ⟨hg, hk⟩ := h (w', last) ⟨hr, rfl⟩ hi
    exact ⟨hg, fun x w'' hs hi' => ih x (hk x (w'', some ⟨o, x⟩) ⟨hs, rfl⟩ hi')⟩

end

end Remote
