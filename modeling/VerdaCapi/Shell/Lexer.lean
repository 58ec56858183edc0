import VerdaCapi.Shell.Syntax

/-!
# How a shell takes a script apart

A lexer for shell text as POSIX describes token recognition: quotes, escapes, comments, operators, command
substitutions `$(…)`, and here-documents. It says of each byte what it is (`Event`) and leaves it to a reader
of the events to make words or commands of them. Where `parse` stops at what is outside its fragment, the
lexer goes on: it marks what begins an expansion or a pattern as `special` and does not expand it.

The lexer reads text piece by piece (`lex_append`). A quoted word is read the same way wherever code is read
(`lex_quote`).
-/

namespace Shell

/-- The bytes of a text. -/
def text (s : String) : Text := s.toUTF8.data.toList

/-- What a byte is. -/
inductive Event where
  /-- A character of a word. -/
  | char (b : UInt8) (quoted : Bool)
  /-- A quotation begins, so there is a word even if it is empty. -/
  | mark
  /-- A character that begins an expansion, or stands for a pattern. -/
  | special (b : UInt8)
  | blank
  /-- A character of an operator, or a newline. -/
  | op (b : UInt8)
  /-- A command substitution begins or ends. -/
  | enter
  | leave
deriving DecidableEq

inductive Reading where
  | code
  | single
  | double
  /-- After a backslash, outside double quotes or inside. -/
  | escape
  | escapeDouble
  /-- After `$`, outside double quotes or inside. -/
  | dollar
  | dollarDouble
  | comment
  /-- In a here-document; `line` is its current line. -/
  | doc (line : Text)
deriving DecidableEq

/-- What is open: a parenthesis, or a substitution outside or inside double quotes. -/
inductive Frame where
  | paren
  | subst
  | substDouble
deriving DecidableEq

/-- The announcement of a here-document. -/
inductive Here where
  | none
  /-- After one `<`. -/
  | less
  /-- After `<<`, before the delimiter. -/
  | want
  | delimiter (d : Text)
deriving DecidableEq

structure Lexer where
  mode : Reading := .code
  inWord : Bool := false
  frames : List Frame := []
  here : Here := .none
  /-- The delimiters of the here-documents that are still to come. -/
  pending : List Text := []
deriving DecidableEq

/-- Characters that belong to a word. -/
def Here.put : Here → Text → Here
  | .want, w => .delimiter w
  | .delimiter d, w => .delimiter (d ++ w)
  | _, _ => .none

namespace Lexer

/-- Characters that belong to a word. -/
def put (q : Lexer) (w : Text) : Lexer := { q with inWord := true, here := q.here.put w }

/-- The end of a word. -/
def endWord (q : Lexer) : Lexer :=
  match q.here with
  | .delimiter d => { q with inWord := false, here := .none, pending := q.pending ++ [d] }
  | .want => { q with inWord := false }
  | _ => { q with inWord := false, here := .none }

/-- The end of a word at an operator. -/
def operator (q : Lexer) : Lexer := { q.endWord with here := .none }

/-- The end of a line; here-documents start on the next one. -/
def endLine (q : Lexer) : Lexer :=
  { q.operator with mode := if q.operator.pending = [] then .code else .doc [] }

/-- Enter a substitution. -/
def enter (q : Lexer) (f : Frame) : Lexer :=
  { q with mode := .code, inWord := false, here := .none, frames := f :: q.frames }

/-- A closing parenthesis. -/
def closeParen (q : Lexer) : List Event × Lexer :=
  match q.frames with
  | .subst :: fs => ([.leave], { q.operator with inWord := true, frames := fs })
  | .substDouble :: fs => ([.leave], { q.operator with mode := .double, inWord := true, frames := fs })
  | .paren :: fs => ([.op 0x29], { q.operator with frames := fs })
  | [] => ([.op 0x29], q.operator)

end Lexer

/-- The operators other than parentheses, `<` and newlines. -/
def isOperator (b : UInt8) : Bool := [0x7c, 0x26, 0x3b, 0x3e].contains b

/-- The characters of patterns, and the backquote. -/
def isPattern (b : UInt8) : Bool := [0x2a, 0x3f, 0x5b, 0x60].contains b

open Lexer

/-- A character outside quotes. -/
def lexCode (q : Lexer) (b : UInt8) : List Event × Lexer :=
  if b = 0 then ([], q)
  else if b = quoteMark then ([.mark], { q.put [] with mode := .single })
  else if b = 0x22 then ([.mark], { q.put [] with mode := .double })
  else if b = 0x5c then ([], { q with mode := .escape })
  else if b = 0x24 then ([], { q with mode := .dollar })
  else if b = 0x20 ∨ b = 0x09 then ([.blank], q.endWord)
  else if b = newline then ([.op newline], q.endLine)
  else if b = 0x28 then ([.op b], { q.operator with frames := .paren :: q.frames })
  else if b = 0x29 then q.closeParen
  else if b = 0x3c then ([.op b], { q.operator with here := if q.here = .less then .want else .less })
  else if isOperator b then ([.op b], q.operator)
  else if q.inWord = false ∧ b = 0x23 then ([], { q with mode := .comment })
  else if isPattern b ∨ (q.inWord = false ∧ b = 0x7e) then ([.special b], q.put [b])
  else ([.char b false], q.put [b])

/-- A character in double quotes. -/
def lexDouble (q : Lexer) (b : UInt8) : List Event × Lexer :=
  if b = 0 then ([], q)
  else if b = 0x22 then ([], { q with mode := .code })
  else if b = 0x5c then ([], { q with mode := .escapeDouble })
  else if b = 0x24 then ([], { q with mode := .dollarDouble })
  else if b = 0x60 then ([.special b], q.put [b])
  else ([.char b true], q.put [b])

/-- Read a character. A shell drops NUL bytes. -/
def lexStep (q : Lexer) (b : UInt8) : List Event × Lexer :=
  match q.mode with
  | .code => lexCode q b
  | .single =>
    if b = 0 then ([], q)
    else if b = quoteMark then ([], { q with mode := .code })
    else ([.char b true], q.put [b])
  | .double => lexDouble q b
  | .escape =>
    if b = 0 then ([], q)
    else if b = newline then ([], { q with mode := .code })
    else ([.char b true], { q.put [b] with mode := .code })
  | .escapeDouble =>
    if b = 0 then ([], q)
    else if b = newline then ([], { q with mode := .double })
    else if [0x24, 0x60, 0x22, 0x5c].contains b then
      ([.char b true], { q.put [b] with mode := .double })
    else ([.char 0x5c true, .char b true], { q.put [0x5c, b] with mode := .double })
  | .dollar =>
    if b = 0x28 then ([.enter], q.enter .subst)
    else
      let r := lexCode { q.put [0x24] with mode := .code } b
      (.special 0x24 :: r.1, r.2)
  | .dollarDouble =>
    if b = 0x28 then ([.enter], q.enter .substDouble)
    else
      let r := lexDouble { q.put [0x24] with mode := .double } b
      (.special 0x24 :: r.1, r.2)
  | .comment => if b = newline then ([.op newline], q.endLine) else ([], q)
  | .doc line =>
    if b = 0 then ([], q)
    else if b ≠ newline then ([], { q with mode := .doc (line ++ [b]) })
    else if q.pending.head? ≠ some line then ([], { q with mode := .doc [] })
    else
      ([], { q with mode := if q.pending.tail = [] then .code else .doc [], pending := q.pending.tail })

/-- Read a text. -/
def lex : Lexer → Text → List Event × Lexer
  | q, [] => ([], q)
  | q, b :: s => ((lexStep q b).1 ++ (lex (lexStep q b).2 s).1, (lex (lexStep q b).2 s).2)

/-! ## Reading piece by piece -/

section

variable {q : Lexer} {s : Text}

@[simp]
theorem lex_nil (q : Lexer) : lex q [] = ([], q) := rfl

theorem lex_cons (q : Lexer) (b : UInt8) (s : Text) : lex q (b :: s) =
    ((lexStep q b).1 ++ (lex (lexStep q b).2 s).1, (lex (lexStep q b).2 s).2) := rfl

theorem lex_append (q : Lexer) (s t : Text) :
    lex q (s ++ t) = ((lex q s).1 ++ (lex (lex q s).2 t).1, (lex (lex q s).2 t).2) := by
  induction s generalizing q with
  | nil => rfl
  | cons b s ih => rw [List.cons_append, lex_cons, ih, lex_cons, List.append_assoc]

theorem Here.put_put (h : Here) (v w : Text) : (h.put v).put w = h.put (v ++ w) := by
  cases h <;> simp [Here.put]

theorem Lexer.put_put (q : Lexer) (v w : Text) : (q.put v).put w = q.put (v ++ w) := by
  simp [Lexer.put, Here.put_put]

/-! ## Quotes -/

/-- The bytes that a shell does not drop. -/
def withoutNul (w : Text) : Text := w.filter (· ≠ 0)

/-- The events of a quoted text. -/
def quotedEvents (w : Text) : List Event :=
  (withoutNul w).flatMap fun b => if b = quoteMark then [.char b true, .mark] else [.char b true]

theorem withoutNul_cons {b : UInt8} (hb : b ≠ 0) (w : Text) : withoutNul (b :: w) = b :: withoutNul w := by
  simp [withoutNul, hb]

/-- The text between single quotes, with its quote marks escaped, up to the last quote. -/
theorem lex_quoted (q : Lexer) (w : Text) :
    lex { q.put [] with mode := .single } ((w.flatMap fun b =>
        if b = quoteMark then [quoteMark, 0x5c, quoteMark, quoteMark] else [b]) ++ [quoteMark]) =
      (quotedEvents w, { q.put (withoutNul w) with mode := .code }) := by
  induction w generalizing q with
  | nil => rfl
  | cons b w ih =>
    rw [List.flatMap_cons, List.append_assoc, lex_append]
    by_cases hnul : b = 0
    · subst hnul
      have hdrop : lex { q.put [] with mode := .single } [0] = ([], { q.put [] with mode := .single }) := rfl
      rw [if_neg (by decide), hdrop, ih]
      rfl
    · have hput : (q.put [b]).put (withoutNul w) = q.put (withoutNul (b :: w)) := by
        rw [Lexer.put_put, withoutNul_cons hnul]
        rfl
      rw [← hput]
      by_cases hquote : b = quoteMark
      · -- leave the quotes, escape one, and enter them again
        subst hquote
        have hstep : lex { q.put [] with mode := .single } [quoteMark, 0x5c, quoteMark, quoteMark] =
            ([.char quoteMark true, .mark], { (q.put [quoteMark]).put [] with mode := .single }) := by
          cases hhere : q.here <;>
            simp [lex, lexStep, lexCode, Lexer.put, Here.put, quoteMark, newline, hhere]
        rw [if_pos rfl, hstep, ih]
        simp [quotedEvents, withoutNul_cons hnul]
      · have hstep : lex { q.put [] with mode := .single } [b] =
            ([.char b true], { (q.put [b]).put [] with mode := .single }) := by
          cases hhere : q.here <;> simp [lex, lexStep, Lexer.put, Here.put, hnul, hquote, hhere]
        rw [if_neg hquote, hstep, ih]
        simp [quotedEvents, withoutNul_cons hnul, hquote]

/-- A quoted word is read as it is, whatever its bytes are. -/
theorem lex_quote (h : q.mode = .code) (w : Text) :
    lex q (quote w) = (.mark :: quotedEvents w, q.put (withoutNul w)) := by
  have hmode : { q.put (withoutNul w) with mode := .code } = q.put (withoutNul w) := by
    simp [Lexer.put, h]
  rw [quote, List.cons_append, lex_cons, lexStep, h]
  have hstep : lexCode q quoteMark = ([.mark], { q.put [] with mode := .single }) := rfl
  simp only [hstep, lex_quoted, hmode]
  rfl

end

/-! ## Here-documents -/

section

variable {d : Text} {q : Lexer}

/-- Lines of a here-document without a character `c` of its delimiter. -/
theorem lex_doc_text {c : UInt8} (hc : c ∈ d) (hpending : q.pending.head? = some d) {w line : Text}
    (hline : c ∉ line) (hw : c ∉ w) :
    lex { q with mode := .doc line } (w ++ [newline]) = ([], { q with mode := .doc [] }) := by
  -- no line can be the delimiter
  have hends : ∀ {v : Text}, c ∉ v →
      lexStep { q with mode := .doc v } newline = ([], { q with mode := .doc [] }) := by
    intro v hv
    have hne : q.pending.head? ≠ some v := by
      rw [hpending]
      intro heq
      cases heq
      exact hv hc
    simp [lexStep, hne, newline]
  induction w generalizing line with
  | nil => simp [lex_cons, hends hline]
  | cons b w ih =>
    have hcw : c ∉ w := fun h => hw (List.mem_cons_of_mem _ h)
    have hcb : c ≠ b := fun h => hw (h ▸ List.mem_cons_self)
    rw [List.cons_append, lex_cons]
    by_cases hb : b = newline
    · subst hb
      simp only [hends hline, ih List.not_mem_nil hcw, List.append_nil]
    · by_cases h0 : b = 0
      · have hstep : lexStep { q with mode := .doc line } b = ([], { q with mode := .doc line }) := by
          simp [lexStep, h0]
        simp only [hstep, ih hline hcw, List.append_nil]
      · have hstep : lexStep { q with mode := .doc line } b =
            ([], { q with mode := .doc (line ++ [b]) }) := by
          simp [lexStep, h0, hb]
        simp only [hstep, ih (show c ∉ line ++ [b] by simp [hline, hcb]) hcw, List.append_nil]

/-- The delimiter ends the last here-document of a line. -/
theorem lex_doc_delimiter (hpending : q.pending = [d]) (hd : newline ∉ d) (hd0 : 0 ∉ d) :
    lex { q with mode := .doc [] } (d ++ [newline]) = ([], { q with mode := .code, pending := [] }) := by
  have hread : ∀ w line : Text, newline ∉ w → 0 ∉ w →
      lex { q with mode := .doc line } w = ([], { q with mode := .doc (line ++ w) }) := by
    intro w
    induction w with
    | nil => simp
    | cons b w ih =>
      intro line hw hw0
      have hb : b ≠ newline := fun h => hw (h ▸ List.mem_cons_self)
      have hb0 : b ≠ 0 := fun h => hw0 (h ▸ List.mem_cons_self)
      have hstep : lexStep { q with mode := .doc line } b = ([], { q with mode := .doc (line ++ [b]) }) := by
        simp [lexStep, hb0, hb]
      rw [lex_cons, hstep]
      simp [ih (line ++ [b]) (fun h => hw (List.mem_cons_of_mem _ h))
        (fun h => hw0 (List.mem_cons_of_mem _ h))]
  have hends : lexStep { q with mode := .doc d } newline = ([], { q with mode := .code, pending := [] }) := by
    simp [lexStep, hpending, newline]
  rw [lex_append, hread d [] hd hd0, lex_cons]
  simp [hends]

end

end Shell
