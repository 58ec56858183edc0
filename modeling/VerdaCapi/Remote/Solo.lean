import VerdaCapi.Remote.System

/-!
# Passes that nobody disturbs

`Prog.Ends` says that a program can run to its end when its requests are answered one after the other.
Such a pass is a part of a run (`Reach.pass`), which is how a run is built for objects that are not
concrete.
-/

namespace Remote

namespace Prog

variable {W Op α β : Type} {Res : Op → Type} {step : W → (o : Op) → Res o → W → Prop}

/-- From `w` the program can run to its end in `w'`, where it returns `a`. -/
inductive Ends (step : W → (o : Op) → Res o → W → Prop) : Prog Op Res α → W → α → W → Prop where
  | ret (a : α) (w : W) : Ends step (.ret a) w a w
  | call {o : Op} {next : Res o → Prog Op Res α} {x : Res o} {w w' w'' : W} {a : α}
      (hs : step w o x w') (h : Ends step (next x) w' a w'') : Ends step (.call o next) w a w''

variable {p : Prog Op Res α} {f : α → Prog Op Res β} {w w' w'' : W}

theorem Ends.bind {a : α} {b : β} (h : p.Ends step w a w') (h' : (f a).Ends step w' b w'') :
    (p >>= f).Ends step w b w'' := by
  induction h with
  | ret a w => exact h'
  | call hs _ ih => exact .call hs (ih h')

theorem Ends.ret_inv {a b : α} (h : (Prog.ret a : Prog Op Res α).Ends step w b w') : b = a ∧ w' = w := by
  cases h
  exact ⟨rfl, rfl⟩

/-- The first request of a run that ends, and the rest of the run. -/
theorem Ends.call_inv {o : Op} {next : Res o → Prog Op Res α} {a : α}
    (h : (Prog.call o next).Ends step w a w'') :
    ∃ x w', step w o x w' ∧ (next x).Ends step w' a w'' := by
  cases h with
  | call hs h => exact ⟨_, _, hs, h⟩

/-- Renaming requests. -/
theorem Ends.mapOp {Op' : Type} {Res' : Op' → Type} {step' : W → (o : Op') → Res' o → W → Prop}
    {g : Op → Op'} {back : ∀ o, Res' (g o) → Res o} {a : α}
    (hstep : ∀ w o x w', step w o x w' → ∃ y, back o y = x ∧ step' w (g o) y w')
    (h : p.Ends step w a w') : (p.mapOp g back).Ends step' w a w' := by
  induction h with
  | ret a w => exact .ret a w
  | call hs _ ih =>
    rcases hstep _ _ _ _ hs with ⟨y, rfl, hs'⟩
    exact .call hs' ih

end Prog

section

variable {ι W Op σ ρ Inp Choice Patch Drift Edit : Type} {Res : Op → Type} [DecidableEq ι]
  {S : System ι W Op Res σ ρ Inp Choice Patch Drift Edit} {C : Conditions ι W Op σ ρ Inp Patch Edit}
  {s₀ s : State ι W Op Res σ ρ}

/-- How the requests of thread `i` are answered under the conditions. -/
def System.stepFor (S : System ι W Op Res σ ρ Inp Choice Patch Drift Edit)
    (C : Conditions ι W Op σ ρ Inp Patch Edit) (i : ι) (obj : σ) (w : W) (o : Op) (x : Res o) (w' : W) :
    Prop :=
  C.call i obj w o ∧ ∃ c, S.answer i c w o = some (x, w')

/-- A pass under way runs to its end. -/
theorem Reach.answered {i : ι} {objs seen : ι → σ} {run : ι → Option (Prog Op Res ρ)}
    {p : Prog Op Res ρ} {r : ρ} {w w' : W} (hends : p.Ends (S.stepFor C i (seen i)) w r w')
    (h : Reach S C s₀ ⟨w, objs, Function.update run i (some p), seen⟩) :
    Reach S C s₀ ⟨w', objs, Function.update run i (some (.ret r)), seen⟩ := by
  induction hends with
  | ret r w => exact h
  | call hs _ ih =>
    rcases hs with ⟨hcall, c, hans⟩
    refine ih (h.step (m := .answer i c) ?_ ?_)
    · simpa [Conditions.Meets] using hcall
    · simp [System.step, hans]

/-- A pass that starts, runs to its end and is persisted. -/
theorem Reach.pass {r : ρ} {w : W} (h : Reach S C s₀ s) (i : ι) (inp : Inp) (q : Patch)
    (hidle : s.run i = none) (hstart : C.start i inp (s.obj i) s.world)
    (hends : (S.start i inp (s.obj i)).Ends (S.stepFor C i (s.obj i)) s.world r w)
    (hfinish : C.finish i q (s.obj i) r) :
    Reach S C s₀ ⟨w, Function.update s.obj i (S.persist q (s.obj i) (s.obj i) r), s.run,
      Function.update s.seen i (s.obj i)⟩ := by
  have hstarted : Reach S C s₀ ⟨s.world, s.obj,
      Function.update s.run i (some (S.start i inp (s.obj i))), Function.update s.seen i (s.obj i)⟩ :=
    h.step (m := .start i inp) hstart (by simp [System.step, hidle])
  refine (Reach.answered (by simpa using hends) hstarted).step (m := .finish i q) ?_ ?_
  · simpa [Conditions.Meets] using hfinish
  · simp [System.step, hidle]

end

end Remote
