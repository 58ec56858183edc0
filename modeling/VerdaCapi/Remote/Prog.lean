import Mathlib.Logic.Relation
import Mathlib.Tactic.Common

/-!
# Programs that talk to a remote service

A pass of a controller is a sequence of requests to a service it does not own. `Prog Op Res α` is
such a pass as data: it returns, or it issues one request and continues with the answer. Keeping the
continuation explicit lets a run stop after any request, which is what a crash does, and lets the
world change between any two requests.

Two kinds of reasoning are set up here:

* `Prog.Obeys` does not look at the world: which requests a program can issue, and what it can
  return, whatever it is answered;
* `Prog.wp` is a weakest precondition over the states of the service, under interference.

`wp_frame` moves facts from the first kind to the second.
-/

namespace Remote

variable {Op : Type} {Res : Op → Type} {α β γ W : Type}

/-- A program that issues requests `o : Op`, each answered by some `Res o`. -/
inductive Prog (Op : Type) (Res : Op → Type) (α : Type) : Type where
  | ret (a : α)
  | call (o : Op) (next : Res o → Prog Op Res α)

namespace Prog

/-- Sequencing: run `p`, then the program chosen by its result. -/
def bind : Prog Op Res α → (α → Prog Op Res β) → Prog Op Res β
  | .ret a, f => f a
  | .call o next, f => .call o fun x => (next x).bind f

instance : Monad (Prog Op Res) where
  pure := .ret
  bind := .bind

/-- The program that issues one request and returns its answer. -/
def perform (o : Op) : Prog Op Res (Res o) := .call o .ret

@[simp]
theorem pure_eq (a : α) : (pure a : Prog Op Res α) = .ret a := rfl

@[simp]
theorem ret_bind (a : α) (f : α → Prog Op Res β) : (Prog.ret a >>= f) = f a := rfl

@[simp]
theorem call_bind (o : Op) (next : Res o → Prog Op Res α) (f : α → Prog Op Res β) :
    (Prog.call o next >>= f) = .call o fun x => next x >>= f := rfl

@[simp]
theorem perform_bind (o : Op) (f : Res o → Prog Op Res β) :
    ((perform o : Prog Op Res (Res o)) >>= f) = .call o f := rfl

@[simp]
theorem bind_ret (p : Prog Op Res α) : (p >>= fun a => .ret a) = p := by
  induction p with
  | ret a => rfl
  | call o next ih => exact congrArg (Prog.call o) (funext ih)

theorem bind_assoc (p : Prog Op Res α) (f : α → Prog Op Res β) (g : β → Prog Op Res γ) :
    (p >>= f) >>= g = p >>= fun a => f a >>= g := by
  induction p with
  | ret a => rfl
  | call o next ih => exact congrArg (Prog.call o) (funext ih)

/-- Rename the requests of a program. The renamed request must have the same answers. -/
def mapOp {Op' : Type} {Res' : Op' → Type} (f : Op → Op') (h : ∀ o, Res' (f o) → Res o) :
    Prog Op Res α → Prog Op' Res' α
  | .ret a => .ret a
  | .call o next => .call (f o) fun x => (next (h o x)).mapOp f h

/-! ## What a program can do, whatever it is answered -/

/-- Every request `p` can issue satisfies `A`, and every value it can return satisfies `P`. -/
def Obeys (A : Op → Prop) (P : α → Prop) : Prog Op Res α → Prop
  | .ret a => P a
  | .call o next => A o ∧ ∀ x, (next x).Obeys A P

section Obeys

variable {A A' : Op → Prop} {P : α → Prop} {Q : β → Prop}

theorem Obeys.bind {p : Prog Op Res α} {f : α → Prog Op Res β} (hp : p.Obeys A P)
    (hf : ∀ a, P a → (f a).Obeys A Q) : (p >>= f).Obeys A Q := by
  induction p with
  | ret a => exact hf a hp
  | call o next ih => exact ⟨hp.1, fun x => ih x (hp.2 x)⟩

theorem Obeys.mono {p : Prog Op Res α} {P' : α → Prop} (hp : p.Obeys A P)
    (hA : ∀ o, A o → A' o) (hP : ∀ a, P a → P' a) : p.Obeys A' P' := by
  induction p with
  | ret a => exact hP a hp
  | call o next ih => exact ⟨hA o hp.1, fun x => ih x (hp.2 x)⟩

theorem obeys_true (p : Prog Op Res α) : p.Obeys (fun _ => True) fun _ => True := by
  induction p with
  | ret a => trivial
  | call o next ih => exact ⟨trivial, ih⟩

theorem Obeys.mapOp {Op' : Type} {Res' : Op' → Type} {B : Op' → Prop} {p : Prog Op Res α}
    {g : Op → Op'} {h : ∀ o, Res' (g o) → Res o} (hp : p.Obeys A P) (hB : ∀ o, A o → B (g o)) :
    (p.mapOp g h).Obeys B P := by
  induction p with
  | ret a => exact hp
  | call o next ih => exact ⟨hB o hp.1, fun x => ih _ (hp.2 _)⟩

theorem Obeys.and {p : Prog Op Res α} {P' : α → Prop} (h : p.Obeys A P) (h' : p.Obeys A' P') :
    p.Obeys (fun o => A o ∧ A' o) fun a => P a ∧ P' a := by
  induction p with
  | ret a => exact ⟨h, h'⟩
  | call o next ih => exact ⟨⟨h.1, h'.1⟩, fun x => ih x (h.2 x) (h'.2 x)⟩

end Obeys

/-- `p` ends with `a` when it is given the answers `tr`, in this order. -/
inductive Runs : Prog Op Res α → List (Σ o, Res o) → α → Prop where
  | ret (a : α) : Runs (.ret a) [] a
  | call {o : Op} {next : Res o → Prog Op Res α} {x : Res o} {tr : List (Σ o, Res o)} {a : α}
      (h : Runs (next x) tr a) : Runs (.call o next) (⟨o, x⟩ :: tr) a

section Runs

variable {p : Prog Op Res α} {f : α → Prog Op Res β} {tr : List (Σ o, Res o)}

@[simp]
theorem runs_ret_iff {a b : α} : (Prog.ret a : Prog Op Res α).Runs tr b ↔ tr = [] ∧ b = a := by
  constructor
  · rintro ⟨⟩
    exact ⟨rfl, rfl⟩
  · rintro ⟨rfl, rfl⟩
    exact .ret _

theorem runs_call_iff {o : Op} {next : Res o → Prog Op Res α} {a : α} :
    (Prog.call o next).Runs tr a ↔ ∃ x tr', tr = ⟨o, x⟩ :: tr' ∧ (next x).Runs tr' a := by
  constructor
  · rintro ⟨⟩
    exact ⟨_, _, rfl, ‹_›⟩
  · rintro ⟨x, tr', rfl, h⟩
    exact .call h

/-- A run of a sequence is a run of its first part followed by one of the second. -/
theorem runs_bind_iff {b : β} :
    (p >>= f).Runs tr b ↔ ∃ tr₁ a tr₂, tr = tr₁ ++ tr₂ ∧ p.Runs tr₁ a ∧ (f a).Runs tr₂ b := by
  induction p generalizing tr with
  | ret a => simp
  | call o next ih =>
    simp only [call_bind, runs_call_iff, ih]
    constructor
    · rintro ⟨x, _, rfl, tr₁, a, tr₂, rfl, hp, hf⟩
      exact ⟨_, a, tr₂, rfl, ⟨x, tr₁, rfl, hp⟩, hf⟩
    · rintro ⟨_, a, tr₂, rfl, ⟨x, tr₁, rfl, hp⟩, hf⟩
      exact ⟨x, _, rfl, tr₁, a, tr₂, rfl, hp, hf⟩

/-- Whatever the answers were, a finished run returned a value `Obeys` allows. -/
theorem Runs.obeys {A : Op → Prop} {P : α → Prop} {a : α} (h : p.Runs tr a) (hp : p.Obeys A P) :
    P a := by
  induction h with
  | ret a => exact hp
  | call _ ih => exact ih (hp.2 _)

/-- Every request of a finished run is one that `Obeys` allows. -/
theorem Runs.calls {A : Op → Prop} {P : α → Prop} {a : α} (h : p.Runs tr a) (hp : p.Obeys A P) :
    ∀ e ∈ tr, A e.1 := by
  induction h with
  | ret a => exact List.forall_mem_nil _
  | call _ ih =>
    intro e he
    rcases List.mem_cons.1 he with rfl | he
    · exact hp.1
    · exact ih (hp.2 _) e he

/-- The answers determine the result. -/
theorem Runs.unique {a b : α} (h : p.Runs tr a) (h' : p.Runs tr b) : a = b := by
  induction h with
  | ret a =>
    cases h'
    rfl
  | call _ ih =>
    cases h' with
    | call h' => exact ih h'

/-- What a program returns when every request has one fixed answer, as long as nothing changes. -/
def eval (view : (o : Op) → Res o) : Prog Op Res α → α
  | .ret a => a
  | .call o next => (next (view o)).eval view

theorem eval_pure {view : (o : Op) → Res o} (a : α) : (pure a : Prog Op Res α).eval view = a := rfl

theorem eval_bind {view : (o : Op) → Res o} (p : Prog Op Res α) (f : α → Prog Op Res β) :
    (p >>= f).eval view = (f (p.eval view)).eval view := by
  induction p with
  | ret a => rfl
  | call o next ih => exact ih (view o)

/-- The run in which every request has its fixed answer. -/
def traceOf (view : (o : Op) → Res o) : Prog Op Res α → List (Σ o, Res o)
  | .ret _ => []
  | .call o next => ⟨o, view o⟩ :: (next (view o)).traceOf view

theorem traceOf_bind {view : (o : Op) → Res o} (p : Prog Op Res α) (f : α → Prog Op Res β) :
    (p >>= f).traceOf view = p.traceOf view ++ (f (p.eval view)).traceOf view := by
  induction p with
  | ret a => rfl
  | call o next ih => exact congrArg (⟨o, view o⟩ :: ·) (ih (view o))

theorem runs_traceOf (view : (o : Op) → Res o) (p : Prog Op Res α) :
    p.Runs (p.traceOf view) (p.eval view) := by
  induction p with
  | ret a => exact .ret a
  | call o next ih => exact .call (ih (view o))

theorem forall_mem_traceOf {view : (o : Op) → Res o} {P : (Σ o, Res o) → Prop}
    (h : ∀ o, P ⟨o, view o⟩) (p : Prog Op Res α) : ∀ e ∈ p.traceOf view, P e := by
  induction p with
  | ret a => exact List.forall_mem_nil _
  | call o next ih => exact List.forall_mem_cons.2 ⟨h o, ih (view o)⟩

/-- Run a program on given answers. -/
def replay [DecidableEq Op] : Prog Op Res α → List (Σ o, Res o) → Option α
  | .ret a, [] => some a
  | .call o next, ⟨o', x⟩ :: tr => if h : o' = o then (next (h ▸ x)).replay tr else none
  | _, _ => none

/-- To show that some run ends in a certain way it is enough to replay it. -/
theorem exists_runs_of_replay [DecidableEq Op] (p : Prog Op Res α) (tr : List (Σ o, Res o))
    (good : α → Bool) (h : (p.replay tr).any good = true) : ∃ a, p.Runs tr a ∧ good a = true := by
  induction p generalizing tr with
  | ret a =>
    cases tr with
    | nil => exact ⟨a, .ret a, by simpa [replay] using h⟩
    | cons e tr => simp [replay] at h
  | call o next ih =>
    cases tr with
    | nil => simp [replay] at h
    | cons e tr =>
      rcases e with ⟨o', x⟩
      by_cases ho : o' = o
      · subst ho
        obtain ⟨a, hrun, ha⟩ := ih x tr (by simpa [replay] using h)
        exact ⟨a, .call hrun, ha⟩
      · simp [replay, ho] at h

end Runs

end Prog

/-! ## Weakest preconditions under interference -/

/-- What a program may assume and must keep while it runs: the invariant `inv` of the world, the
interference `rely` that may happen between its requests, how the service answers (`step`), and the
condition `guar` under which it may issue a request. -/
structure Setting (W Op : Type) (Res : Op → Type) where
  inv : W → Prop
  rely : W → W → Prop
  step : W → (o : Op) → Res o → W → Prop
  guar : W → Op → Prop

/-- A setting seen through a renaming of requests. -/
def Setting.comap {Op' : Type} {Res' : Op' → Type} (S : Setting W Op' Res') (g : Op → Op')
    (h : ∀ o, Res' (g o) → Res o) : Setting W Op Res where
  inv := S.inv
  rely := S.rely
  step w o x w' := ∃ y, h o y = x ∧ S.step w (g o) y w'
  guar w o := S.guar w (g o)

/-- Interference cannot break `P`. -/
def Setting.Stable (S : Setting W Op Res) (P : W → Prop) : Prop :=
  ∀ w w', P w → S.rely w w' → S.inv w' → P w'

/-- Neither interference nor any answer breaks `P`. -/
structure Setting.Keeps (S : Setting W Op Res) (P : W → Prop) : Prop where
  stable : S.Stable P
  step : ∀ w o x w', P w → S.step w o x w' → P w'

theorem Setting.Keeps.trivial {S : Setting W Op Res} : S.Keeps fun _ => True where
  stable _ _ _ _ _ := True.intro
  step _ _ _ _ _ _ := True.intro

theorem Setting.Keeps.and {S : Setting W Op Res} {P Q : W → Prop} (hP : S.Keeps P) (hQ : S.Keeps Q) :
    S.Keeps fun w => P w ∧ Q w where
  stable w w' h hr hi := ⟨hP.stable w w' h.1 hr hi, hQ.stable w w' h.2 hr hi⟩
  step w o x w' h hs := ⟨hP.step w o x w' h.1 hs, hQ.step w o x w' h.2 hs⟩

theorem Setting.Keeps.all {S : Setting W Op Res} {P : β → W → Prop} (h : ∀ b, S.Keeps (P b)) :
    S.Keeps fun w => ∀ b, P b w where
  stable w w' hP hr hi b := (h b).stable w w' (hP b) hr hi
  step w o x w' hP hs b := (h b).step w o x w' (hP b) hs

/-- Interference may be absent, and may happen twice. -/
structure Setting.Lawful (S : Setting W Op Res) : Prop where
  refl : ∀ w, S.rely w w
  trans : ∀ {w₁ w₂ w₃}, S.rely w₁ w₂ → S.rely w₂ w₃ → S.rely w₁ w₃

theorem Setting.Lawful.comap {Op' : Type} {Res' : Op' → Type} {S : Setting W Op' Res'}
    (hS : S.Lawful) (g : Op → Op') (h : ∀ o, Res' (g o) → Res o) : (S.comap g h).Lawful :=
  ⟨hS.refl, hS.trans⟩

namespace Prog

variable {S : Setting W Op Res}

/-- From `w`, under any interference and any answers, every request `p` issues meets `guar`, and if
`p` returns then `Q` holds of the result and of the world at that moment. -/
def wp (S : Setting W Op Res) : Prog Op Res α → (α → W → Prop) → W → Prop
  | .ret a, Q, w => ∀ w', S.rely w w' → S.inv w' → Q a w'
  | .call o next, Q, w => ∀ w', S.rely w w' → S.inv w' →
      S.guar w' o ∧ ∀ x w'', S.step w' o x w'' → S.inv w'' → (next x).wp S Q w''

variable {p : Prog Op Res α} {f : α → Prog Op Res β} {Q Q' : α → W → Prop} {w : W}

theorem wp_mono (hQ : ∀ a w, S.inv w → Q a w → Q' a w) (h : p.wp S Q w) : p.wp S Q' w := by
  induction p generalizing w with
  | ret a => exact fun w' hr hi => hQ a w' hi (h w' hr hi)
  | call o next ih =>
    intro w' hr hi
    obtain ⟨hg, hk⟩ := h w' hr hi
    exact ⟨hg, fun x w'' hs hi' => ih x (hk x w'' hs hi')⟩

/-- A precondition survives interference. -/
theorem wp_rely (hS : S.Lawful) {w' : W} (hr : S.rely w w') (h : p.wp S Q w) : p.wp S Q w' := by
  cases p with
  | ret a => exact fun w'' hr' hi => h w'' (hS.trans hr hr') hi
  | call o next => exact fun w'' hr' hi => h w'' (hS.trans hr hr') hi

/-- To start a program it is enough to be able to start it after any interference. -/
theorem wp_of_rely (hS : S.Lawful) (h : ∀ w', S.rely w w' → S.inv w' → p.wp S Q w') :
    p.wp S Q w := by
  cases p with
  | ret a => exact fun w' hr hi => h w' hr hi w' (hS.refl w') hi
  | call o next => exact fun w' hr hi => h w' hr hi w' (hS.refl w') hi

theorem wp_bind (hS : S.Lawful) {Q : β → W → Prop}
    (h : p.wp S (fun a w => (f a).wp S Q w) w) : (p >>= f).wp S Q w := by
  induction p generalizing w with
  | ret a => exact wp_of_rely hS h
  | call o next ih =>
    intro w' hr hi
    obtain ⟨hg, hk⟩ := h w' hr hi
    exact ⟨hg, fun x w'' hs hi' => ih x (hk x w'' hs hi')⟩

/-- The rule for one request, with a precondition `P` that interference cannot break. -/
theorem wp_call {o : Op} {next : Res o → Prog Op Res α} {P : W → Prop}
    (hstable : S.Stable P) (hP : P w)
    (hcall : ∀ w, P w → S.inv w →
      S.guar w o ∧ ∀ x w', S.step w o x w' → S.inv w' → (next x).wp S Q w') :
    (Prog.call o next).wp S Q w :=
  fun w' hr hi => hcall w' (hstable w w' hP hr hi) hi

/-- The rule for returning, with a precondition `P` that interference cannot break. -/
theorem wp_ret {a : α} {P : W → Prop} (hstable : S.Stable P) (hP : P w)
    (hret : ∀ w, P w → S.inv w → Q a w) : (Prog.ret a : Prog Op Res α).wp S Q w :=
  fun w' hr hi => hret w' (hstable w w' hP hr hi) hi

/-- The rule for one request before which nothing but the invariant is needed. -/
theorem wp_call_any {o : Op} {next : Res o → Prog Op Res α} (hcall : ∀ w, S.inv w →
      S.guar w o ∧ ∀ x w', S.step w o x w' → S.inv w' → (next x).wp S Q w') :
    (Prog.call o next).wp S Q w :=
  fun w' _ hi => hcall w' hi

/-- The rule for returning what holds anyway. -/
theorem wp_ret_any {a : α} (hret : ∀ w, S.inv w → Q a w) : (Prog.ret a : Prog Op Res α).wp S Q w :=
  fun w' _ hi => hret w' hi

/-- Returning with a postcondition that interference cannot break. -/
theorem wp_ret_stable {a : α} (hstable : S.Stable (Q a)) (hQ : Q a w) :
    (Prog.ret a : Prog Op Res α).wp S Q w :=
  wp_ret hstable hQ fun _ h _ => h

/-- Turning the result into another one adds no interference. -/
theorem wp_map {g : α → β} {Q : β → W → Prop} (h : p.wp S (fun a w => Q (g a) w) w) :
    (p >>= fun a => .ret (g a)).wp S Q w := by
  induction p generalizing w with
  | ret a => exact h
  | call o next ih =>
    intro w' hr hi
    obtain ⟨hg, hk⟩ := h w' hr hi
    exact ⟨hg, fun x w'' hs hi' => ih x (hk x w'' hs hi')⟩

/-- **Frame rule.** If every request a program can issue keeps `P`, then the program keeps `P`; what
it returns is known from `Obeys` alone. -/
theorem wp_frame {A : Op → Prop} {R : α → Prop} {P : W → Prop} (hp : p.Obeys A R)
    (hstable : S.Stable P)
    (hguar : ∀ w o, A o → P w → S.inv w → S.guar w o)
    (hstep : ∀ w o x w', A o → P w → S.inv w → S.step w o x w' → S.inv w' → P w')
    (hP : P w) : p.wp S (fun a w => P w ∧ R a) w := by
  induction p generalizing w with
  | ret a => exact fun w' hr hi => ⟨hstable w w' hP hr hi, hp⟩
  | call o next ih =>
    intro w' hr hi
    have hP' := hstable w w' hP hr hi
    exact ⟨hguar w' o hp.1 hP' hi,
      fun x w'' hs hi' => ih x (hp.2 x) (hstep w' o x w'' hp.1 hP' hi hs hi')⟩

/-- A program whose requests are all allowed returns what `Obeys` says. -/
theorem wp_of_obeys {A : Op → Prop} {R : α → Prop} (hp : p.Obeys A R)
    (hguar : ∀ w o, A o → S.inv w → S.guar w o) : p.wp S (fun a _ => R a) w :=
  wp_mono (fun _ _ _ h => h.2) (wp_frame (P := fun _ => True) hp (fun _ _ _ _ _ => trivial)
    (fun w o ho _ hi => hguar w o ho hi) (fun _ _ _ _ _ _ _ _ _ => trivial) trivial)

/-- Facts that hold of every returned value may be added to a postcondition. -/
theorem wp_and_obeys {A : Op → Prop} {R : α → Prop} (hp : p.Obeys A R) (h : p.wp S Q w) :
    p.wp S (fun a w => Q a w ∧ R a) w := by
  induction p generalizing w with
  | ret a => exact fun w' hr hi => ⟨h w' hr hi, hp⟩
  | call o next ih =>
    intro w' hr hi
    obtain ⟨hg, hk⟩ := h w' hr hi
    exact ⟨hg, fun x w'' hs hi' => ih x (hp.2 x) (hk x w'' hs hi')⟩

/-- A program whose requests are all allowed may be verified under another guarantee. -/
theorem wp_allow {A : Op → Prop} {R : α → Prop} {G : W → Op → Prop} (hp : p.Obeys A R)
    (hA : ∀ w o, A o → S.inv w → S.guar w o) (h : p.wp { S with guar := G } Q w) : p.wp S Q w := by
  induction p generalizing w with
  | ret a => exact h
  | call o next ih =>
    intro w' hr hi
    exact ⟨hA w' o hp.1 hi, fun x w'' hs hi' => ih x (hp.2 x) ((h w' hr hi).2 x w'' hs hi')⟩

/-- Postconditions that hold separately hold together. -/
theorem wp_and (h : p.wp S Q w) (h' : p.wp S Q' w) : p.wp S (fun a w => Q a w ∧ Q' a w) w := by
  induction p generalizing w with
  | ret a => exact fun w' hr hi => ⟨h w' hr hi, h' w' hr hi⟩
  | call o next ih =>
    intro w' hr hi
    obtain ⟨hg, hk⟩ := h w' hr hi
    exact ⟨hg, fun x w'' hs hi' => ih x (hk x w'' hs hi') ((h' w' hr hi).2 x w'' hs hi')⟩

/-- A fact that nothing breaks holds at the end as well. -/
theorem wp_keep {P : W → Prop} (hP : S.Keeps P) (h : p.wp S Q w) (hw : P w) :
    p.wp S (fun a w => Q a w ∧ P w) w := by
  induction p generalizing w with
  | ret a => exact fun w' hr hi => ⟨h w' hr hi, hP.stable w w' hw hr hi⟩
  | call o next ih =>
    intro w' hr hi
    obtain ⟨hg, hk⟩ := h w' hr hi
    have hw' := hP.stable w w' hw hr hi
    exact ⟨hg, fun x w'' hs hi' => ih x (hk x w'' hs hi') (hP.step w' o x w'' hw' hs)⟩

/-- A fact that holds when the program begins, and that no request it may issue breaks, may be assumed
like the invariant. -/
theorem wp_assume {P : W → Prop} (hstable : S.Stable P)
    (hstep : ∀ w o x w', P w → S.guar w o → S.step w o x w' → P w') (hw : P w)
    (h : p.wp { S with inv := fun w => S.inv w ∧ P w } Q w) : p.wp S (fun a w => Q a w ∧ P w) w := by
  induction p generalizing w with
  | ret a =>
    intro w' hr hi
    have hw' := hstable w w' hw hr hi
    exact ⟨h w' hr ⟨hi, hw'⟩, hw'⟩
  | call o next ih =>
    intro w' hr hi
    have hw' := hstable w w' hw hr hi
    obtain ⟨hg, hk⟩ := h w' hr ⟨hi, hw'⟩
    refine ⟨hg, fun x w'' hs hi' => ?_⟩
    have hw'' := hstep w' o x w'' hw' hg hs
    exact ih x hw'' (hk x w'' hs ⟨hi', hw''⟩)

/-- What a program returns, it returns from some run. -/
theorem wp_and_runs (h : p.wp S Q w) : p.wp S (fun a w => Q a w ∧ ∃ tr, p.Runs tr a) w := by
  induction p generalizing w with
  | ret a => exact fun w' hr hi => ⟨h w' hr hi, [], .ret a⟩
  | call o next ih =>
    intro w' hr hi
    obtain ⟨hg, hk⟩ := h w' hr hi
    refine ⟨hg, fun x w'' hs hi' => wp_mono ?_ (ih x (hk x w'' hs hi'))⟩
    rintro a w _ ⟨hQ, tr, hrun⟩
    exact ⟨hQ, ⟨o, x⟩ :: tr, .call hrun⟩

/-- Renaming requests moves the setting back along the renaming. -/
theorem wp_mapOp {Op' : Type} {Res' : Op' → Type} {S : Setting W Op' Res'} {g : Op → Op'}
    {h : ∀ o, Res' (g o) → Res o} (hp : p.wp (S.comap g h) Q w) : (p.mapOp g h).wp S Q w := by
  induction p generalizing w with
  | ret a => exact hp
  | call o next ih =>
    intro w' hr hi
    obtain ⟨hg, hk⟩ := hp w' hr hi
    exact ⟨hg, fun x w'' hs hi' => ih (h o x) (hk (h o x) w'' ⟨x, rfl, hs⟩ hi')⟩

end Prog

end Remote
