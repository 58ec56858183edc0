import VerdaCapi.Shell.Words

/-!
# The command structure of a script

`scan` reads a script into its outline: the words that name commands, the operators, the substitutions, and
for every other word that there is one. Two scripts with the same outline have the same commands with the
same number of arguments and redirections, connected in the same way; they may differ in the texts of the
arguments.

A quoted word that is not the name of a command leaves no trace of its text (`scan_quote`). Texts that are
put together from fixed pieces and quoted words are compared piece by piece (`Alike`); where the quoted words
stand is checked once for the fixed pieces (`checks`).
-/

namespace Shell

inductive Part where
  /-- The name of a command. -/
  | command (w : Word)
  /-- An argument, or the target of a redirection. -/
  | word
  | op (b : UInt8)
  | enter
  | leave
deriving DecidableEq

/-- A command that is being read. -/
structure Scope where
  /-- The next word names the command. -/
  start : Bool := true
  /-- The next word belongs to a redirection. -/
  target : Bool := false
  /-- The word that is being read; its text is kept if it names a command. -/
  word : Option Word := none
deriving DecidableEq

/-- The reserved words after which another command follows. -/
def opensCommand (w : Word) : Bool :=
  w.all (fun c => !c.2) &&
    (["!", "\x7b", "do", "elif", "else", "if", "then", "until", "while"].map text).contains (w.map Prod.fst)

namespace Scope

/-- The word that is being read, or the next one, names a command. -/
def names (c : Scope) : Bool := c.start && !c.target

/-- Characters of a word. -/
def add (c : Scope) (w : Word) : List Part × Scope :=
  (if c.word = none ∧ c.names = false then [.word] else [],
    { c with word := some (if c.names then c.word.getD [] ++ w else []) })

/-- The end of a word. -/
def endWord (c : Scope) : List Part × Scope :=
  match c.word with
  | none => ([], c)
  | some w =>
    if c.target then ([], { c with target := false, word := none })
    else if c.start then ([.command w], { start := opensCommand w })
    else ([], { c with word := none })

end Scope

/-- The lexer, the command that is being read, and those around it. -/
structure Scanner where
  lexer : Lexer := {}
  scope : Scope := {}
  outer : List Scope := []
deriving DecidableEq

/-- An operator. After a redirection, `&` and `|` belong to it. -/
def scanOp (c : Scope) (outer : List Scope) (b : UInt8) : List Part × Scope × List Scope :=
  let r := c.endWord
  if b = 0x3c ∨ b = 0x3e then (r.1 ++ [.op b], { r.2 with target := true }, outer)
  else if b = 0x28 then (r.1 ++ [.op b], {}, { r.2 with start := false, target := false } :: outer)
  else if b = 0x29 then (r.1 ++ [.op b], outer.headD {}, outer.tail)
  else if r.2.target ∧ b ≠ newline then (r.1 ++ [.op b], r.2, outer)
  else (r.1 ++ [.op b], {}, outer)

/-- Read an event. -/
def scanEvent (c : Scope) (outer : List Scope) : Event → List Part × Scope × List Scope
  | .char b quoted => ((c.add [(b, quoted)]).1, (c.add [(b, quoted)]).2, outer)
  | .special b => ((c.add [(b, false)]).1, (c.add [(b, false)]).2, outer)
  | .mark => ((c.add []).1, (c.add []).2, outer)
  | .blank => (c.endWord.1, c.endWord.2, outer)
  | .op b => scanOp c outer b
  | .enter => ((c.add []).1 ++ [.enter], {}, (c.add []).2 :: outer)
  | .leave => (c.endWord.1 ++ [.leave], outer.headD {}, outer.tail)

def scanEvents : Scope → List Scope → List Event → List Part × Scope × List Scope
  | c, outer, [] => ([], c, outer)
  | c, outer, e :: es =>
    let r := scanEvent c outer e
    let r' := scanEvents r.2.1 r.2.2 es
    (r.1 ++ r'.1, r'.2)

/-- Read a text: its outline, and where the scanner is then. -/
def scan (q : Scanner) (s : Text) : List Part × Scanner :=
  let r := scanEvents q.scope q.outer (lex q.lexer s).1
  (r.1, ⟨(lex q.lexer s).2, r.2.1, r.2.2⟩)

theorem scanEvents_append (c : Scope) (outer : List Scope) (es es' : List Event) :
    scanEvents c outer (es ++ es') =
      ((scanEvents c outer es).1 ++
          (scanEvents (scanEvents c outer es).2.1 (scanEvents c outer es).2.2 es').1,
        (scanEvents (scanEvents c outer es).2.1 (scanEvents c outer es).2.2 es').2) := by
  induction es generalizing c outer with
  | nil => rfl
  | cons e es ih =>
    rw [List.cons_append, scanEvents, scanEvents]
    simp only [ih, List.append_assoc]

theorem scan_append (q : Scanner) (s t : Text) :
    scan q (s ++ t) = ((scan q s).1 ++ (scan (scan q s).2 t).1, (scan (scan q s).2 t).2) := by
  simp only [scan, lex_append, scanEvents_append]

@[simp]
theorem scan_nil (q : Scanner) : scan q [] = ([], q) := rfl

/-! ## Words that are not commands -/

section

variable {q : Scanner}

/-- The scope in the middle of an argument. -/
def Scope.inArgument (c : Scope) : Scope := { c with word := some [] }

theorem Scope.add_argument {c : Scope} (h : c.names = false) (w : Word) :
    c.add w = (if c.word = none then [.word] else [], c.inArgument) := by
  simp [Scope.add, h, Scope.inArgument]

theorem scanEvents_quoted {c : Scope} (h : c.names = false) (outer : List Scope) (w : Text) :
    scanEvents c.inArgument outer (quotedEvents w) = ([], c.inArgument, outer) := by
  have hadd : ∀ v, c.inArgument.add v = ([], c.inArgument) := by
    intro v
    rw [Scope.add_argument (c := c.inArgument) h]
    rfl
  rw [quotedEvents]
  induction withoutNul w with
  | nil => rfl
  | cons b w ih =>
    rw [List.flatMap_cons, scanEvents_append]
    split <;> simp [scanEvents, scanEvent, hadd, ih]

/-- The scanner can take a quoted word that is not the name of a command. -/
def Scanner.fills (q : Scanner) : Bool := decide (q.lexer.mode = .code) && !q.scope.names

/-- **A quoted word** counts as one, whatever its text is. -/
theorem scan_quote (h : q.fills = true) (w : Text) :
    scan q (quote w) = (if q.scope.word = none then [.word] else [],
      ⟨q.lexer.put (withoutNul w), q.scope.inArgument, q.outer⟩) := by
  simp only [Scanner.fills, Bool.and_eq_true, decide_eq_true_eq, Bool.not_eq_true'] at h
  rw [scan, lex_quote h.1]
  simp only [scanEvents, scanEvent, Scope.add_argument h.2, scanEvents_quoted h.2, List.append_nil]

/-- In the middle of an argument, more characters make no difference. -/
theorem scan_ordinary {w : Text} (hmode : q.lexer.mode = .code) (hword : q.lexer.inWord = true)
    (hhere : q.lexer.here = .none) (hnames : q.scope.names = false) (hscope : q.scope.word = some [])
    (hall : ∀ b ∈ w, isOrdinary b = true) : scan q w = ([], q) := by
  have hself : q.scope.inArgument = q.scope := by
    rw [Scope.inArgument, ← hscope]
  have hadd : ∀ v, q.scope.add v = ([], q.scope) := by
    intro v
    rw [Scope.add_argument hnames, hself, hscope]
    rfl
  have hevents : ∀ w : Text, scanEvents q.scope q.outer (w.map (.char · false)) =
      ([], q.scope, q.outer) := by
    intro w
    induction w with
    | nil => rfl
    | cons b w ih => simp [scanEvents, scanEvent, hadd, ih]
  have hlexer : (if w = [] then q.lexer else q.lexer.put w) = q.lexer := by
    split
    · rfl
    · rw [Lexer.put, hhere, ← hword]
      show { q.lexer with here := .none } = q.lexer
      rw [← hhere]
  have hlex := lex_ordinary hmode hall fun b hb => by
    rw [Lexer.takes, hall b (List.mem_of_mem_head? hb), hword]
    rfl
  rw [scan, hlex, hlexer]
  simp only [hevents]

end

/-! ## Texts with the same outline -/

/-- From `q`, both texts have the same outline and lead to `q'`. -/
structure Alike (q : Scanner) (s t : Text) (q' : Scanner) : Prop where
  outline : (scan q s).1 = (scan q t).1
  left : (scan q s).2 = q'
  right : (scan q t).2 = q'

section

variable {q q' q'' : Scanner} {s s' t t' : Text}

theorem Alike.refl (h : (scan q s).2 = q') : Alike q s s q' := ⟨rfl, h, h⟩

theorem Alike.nil (q : Scanner) : Alike q [] [] q := ⟨rfl, rfl, rfl⟩

theorem Alike.append (h : Alike q s t q') (h' : Alike q' s' t' q'') : Alike q (s ++ s') (t ++ t') q'' := by
  constructor
  · rw [scan_append, scan_append, h.outline, h.left, h.right, h'.outline]
  · rw [scan_append, h.left, h'.left]
  · rw [scan_append, h.right, h'.right]

/-- Lists of texts that lead back to where they start. -/
theorem Alike.flatMap {α β : Type} {f : α → Text} {g : β → Text} {as : List α} {bs : List β}
    (h : List.Forall₂ (fun a b => Alike q (f a) (g b) q) as bs) :
    Alike q (as.flatMap f) (bs.flatMap g) q := by
  induction h with
  | nil => exact .nil q
  | cons hab _ ih => exact hab.append ih

/-- Texts that are left out on both sides, or on neither. -/
theorem Alike.optional {c c' : Prop} [Decidable c] [Decidable c'] (hc : c' ↔ c) (h : ¬ c → Alike q s t q) :
    Alike q (if c then [] else s) (if c' then [] else t) q := by
  by_cases hs : c
  · rw [if_pos hs, if_pos (hc.2 hs)]
    exact .nil q
  · rw [if_neg hs, if_neg fun hs' => hs (hc.1 hs')]
    exact h hs

/-- From `q`, both texts lead to `q'`, and the outline of `t` is longer by at least `n`. -/
structure Grows (q : Scanner) (s t : Text) (q' : Scanner) (n : Nat) : Prop where
  length : (scan q s).1.length + n ≤ (scan q t).1.length
  left : (scan q s).2 = q'
  right : (scan q t).2 = q'

theorem Alike.grows (h : Alike q s t q') : Grows q s t q' 0 :=
  ⟨by rw [h.outline]; exact Nat.le_refl _, h.left, h.right⟩

theorem Grows.append {m n : Nat} (h : Grows q s t q' m) (h' : Grows q' s' t' q'' n) :
    Grows q (s ++ s') (t ++ t') q'' (m + n) := by
  have hlength := h.length
  have hlength' := h'.length
  constructor
  · rw [scan_append, scan_append, h.left, h.right, List.length_append, List.length_append]
    omega
  · rw [scan_append, h.left, h'.left]
  · rw [scan_append, h.right, h'.right]

/-- Texts that are put together from a list grow by one for each element with `p`. -/
theorem Grows.flatMap {α β : Type} {f : α → Text} {g : β → Text} {as : List α} {bs : List β} {p : α → Bool}
    (h : List.Forall₂ (fun a b => Grows q (f a) (g b) q (if p a then 1 else 0)) as bs) :
    Grows q (as.flatMap f) (bs.flatMap g) q (as.countP p) := by
  induction h with
  | nil => exact (Alike.nil q).grows
  | @cons a b as bs hab _ ih =>
    rw [List.countP_cons, Nat.add_comm]
    exact hab.append ih

/-- The outlines differ, whatever follows. -/
theorem Grows.outline_ne {n : Nat} (h : Grows q s t q' n) (hn : 0 < n) (r : Text) :
    (scan q (s ++ r)).1 ≠ (scan q (t ++ r)).1 := by
  intro heq
  have hlength := congrArg List.length heq
  have hgrows := h.length
  rw [scan_append, scan_append, h.left, h.right, List.length_append, List.length_append] at hlength
  omega

end

/-! ## Texts with quoted words -/

/-- A fixed piece of a text, or the place of a word in quotes. -/
inductive Piece where
  | fixed (t : Text)
  | hole
deriving DecidableEq

/-- The text with these words in the places. -/
def fill : List Piece → List Text → Text
  | [], _ => []
  | .fixed t :: ps, ws => t ++ fill ps ws
  | .hole :: ps, ws => quote (ws.headD []) ++ fill ps ws.tail

/-- The scanner can take a quoted word here, and keeps nothing of it. -/
def Scanner.takesAny (q : Scanner) : Bool := q.fills && decide (q.lexer.here.put [] = .none)

/-- Where the scanner is after a quoted word. -/
def Scanner.filled (q : Scanner) : Scanner := ⟨q.lexer.put [], q.scope.inArgument, q.outer⟩

/-- Where the scanner is after the pieces, if all quoted words stand where their text does not matter. -/
def checks : Scanner → List Piece → Option Scanner
  | q, [] => some q
  | q, .fixed t :: ps => checks (scan q t).2 ps
  | q, .hole :: ps => if q.takesAny then checks q.filled ps else none

section

variable {q q' : Scanner} {ps : List Piece}

theorem scan_takesAny (h : q.takesAny = true) (w : Text) :
    scan q (quote w) = (if q.scope.word = none then [.word] else [], q.filled) := by
  simp only [Scanner.takesAny, Bool.and_eq_true, decide_eq_true_eq] at h
  -- a delimiter of a here-document would be kept
  have hhere : q.lexer.here.put (withoutNul w) = q.lexer.here.put [] := by
    rw [h.2]
    cases hq : q.lexer.here with
    | none => rfl
    | less => rfl
    | want =>
      rw [hq] at h
      cases h.2
    | delimiter d =>
      rw [hq] at h
      cases h.2
  rw [scan_quote h.1, Scanner.filled, Lexer.put, Lexer.put, hhere]

/-- **Texts from the same pieces** have the same outline, whatever words are filled in. -/
theorem alike_of_checks (h : checks q ps = some q') (ws ws' : List Text) :
    Alike q (fill ps ws) (fill ps ws') q' := by
  induction ps generalizing q ws ws' with
  | nil =>
    cases h
    exact .nil _
  | cons p ps ih =>
    cases p with
    | fixed t => exact Alike.append (.refl rfl) (ih h ws ws')
    | hole =>
      rw [checks] at h
      split at h
      · rename_i htakes
        have hword : Alike q (quote (ws.headD [])) (quote (ws'.headD [])) q.filled := by
          refine ⟨?_, ?_, ?_⟩
          · rw [scan_takesAny htakes, scan_takesAny htakes]
          · rw [scan_takesAny htakes]
          · rw [scan_takesAny htakes]
        exact hword.append (ih h ws.tail ws'.tail)
      · cases h

end

end Shell
