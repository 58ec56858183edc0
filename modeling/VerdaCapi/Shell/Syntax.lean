import Mathlib.Tactic.Common

/-!
# A fragment of the shell language

Command lines made of plain words, single quotes and backslashes, pipelines, the redirections `>` and
`>>`, here-documents with a quoted delimiter, and comments. `parse` reads a script byte by byte, as a
shell does: a newline inside quotes belongs to its word, and the text of a here-document starts after
the line that announces it. Where a script leaves the fragment, the parser stops with `Item.bad`.

Redirections stand after a blank, so that no number before them names a file descriptor.
-/

namespace Shell

/-- Script text, words and file contents are bytes. -/
abbrev Text := List UInt8

/-! ## Syntax -/

inductive Token where
  | word (w : Text) (quoted : Bool)
  | pipe
  | great
  | dgreat
  | dless
deriving DecidableEq

inductive Redir where
  | out (path : Text)
  | append (path : Text)
  | doc (body : Text)
deriving DecidableEq

/-- A simple command; a redirection belongs to the command it is written on. -/
structure Simple where
  args : List Text := []
  redirs : List Redir := []
deriving DecidableEq

/-- Commands connected by `|`. -/
abbrev Pipeline := List Simple

/-- What a script has to run next, or that it cannot be read. -/
inductive Item where
  | run (p : Pipeline)
  | bad
deriving DecidableEq

/-- The pipeline of a line of tokens, with the texts of its here-documents; `c` is the command read so
far. -/
def pipeline : List Token → List Text → Simple → Option Pipeline
  | [], _, c => if c.args = [] then none else some [c]
  | .word w _ :: ts, docs, c => pipeline ts docs { c with args := c.args ++ [w] }
  | .great :: .word p _ :: ts, docs, c =>
    pipeline ts docs { c with redirs := c.redirs ++ [.out p] }
  | .dgreat :: .word p _ :: ts, docs, c =>
    pipeline ts docs { c with redirs := c.redirs ++ [.append p] }
  | .dless :: .word _ true :: ts, body :: docs, c =>
    pipeline ts docs { c with redirs := c.redirs ++ [.doc body] }
  | .pipe :: ts, docs, c =>
    if c.args = [] then none else (pipeline ts docs {}).map (c :: ·)
  | _, _, _ => none

/-- The delimiters of the here-documents of a line. -/
def delimiters : List Token → List Text
  | .dless :: .word d _ :: ts => d :: delimiters ts
  | _ :: ts => delimiters ts
  | [] => []

/-- The command of a complete line, if there is one. -/
def command (ts : List Token) (docs : List Text) : List Item :=
  if ts = [] then []
  else
    match pipeline ts docs {} with
    | some p => [.run p]
    | none => [.bad]

/-! ## Reading -/

def newline : UInt8 := 0x0a
def quoteMark : UInt8 := 0x27

/-- The characters that are special somewhere: blanks, operators, quotes, `$`, `*`, `?`, `[`, `#`, `~`,
`=`, `!` and braces. -/
def specials : Text :=
  [0, 0x09, newline, 0x20, 0x7c, 0x26, 0x3b, 0x3c, 0x3e, 0x28, 0x29, 0x24, 0x60, 0x5c, 0x22, quoteMark,
    0x2a, 0x3f, 0x5b, 0x23, 0x7e, 0x3d, 0x21, 0x7b, 0x7d]

/-- A character that stands for itself outside quotes. -/
def isPlain (b : UInt8) : Bool := !specials.contains b

/-- A word that needs no quotes. -/
def plainWord (w : Text) : Bool := !w.isEmpty && w.all isPlain

/-- The part of a line that was read: its tokens, and the word that is not complete yet. -/
structure Line where
  tokens : List Token := []
  word : Option (Text × Bool) := none
deriving DecidableEq

namespace Line

/-- Add plain characters to the word. -/
def add (l : Line) (w : Text) : Line :=
  { l with word := match l.word with
      | some (v, q) => some (v ++ w, q)
      | none => some (w, false) }

/-- Add quoted characters to the word. -/
def addQuoted (l : Line) (w : Text) : Line :=
  { l with word := match l.word with
      | some (v, _) => some (v ++ w, true)
      | none => some (w, true) }

/-- End the word, if there is one. -/
def endWord (l : Line) : Line :=
  match l.word with
  | some (w, q) => { tokens := l.tokens ++ [.word w q] }
  | none => l

/-- End the word and add an operator. -/
def push (l : Line) (t : Token) : Line := { tokens := l.endWord.tokens ++ [t] }

end Line

/-- Where the reader is. -/
inductive Mode where
  | code (l : Line)
  | quoted (l : Line)
  | escape (l : Line)
  /-- After `>`, `<` or `<<`. -/
  | great (l : Line)
  | less (l : Line)
  | dless (l : Line)
  | comment (l : Line)
  /-- In the here-document that ends at `delim`; `later` are the delimiters still to come, `docs` the
  texts that are complete, `body` the lines of this one and `line` its current line. -/
  | doc (tokens : List Token) (delim : Text) (later docs : List Text) (body line : Text)
  | stuck

/-- The script leaves the fragment. -/
def reject : List Item × Mode := ([.bad], .stuck)

/-- The end of a line: its command, or its here-documents first. -/
def endLine (l : Line) : List Item × Mode :=
  let ts := l.endWord.tokens
  match delimiters ts with
  | [] => (command ts [], .code {})
  | d :: later => ([], .doc ts d later [] [] [])

/-- Read a character outside quotes. -/
def stepCode (l : Line) (b : UInt8) : List Item × Mode :=
  if isPlain b then ([], .code (l.add [b]))
  else if b = quoteMark then ([], .quoted (l.addQuoted []))
  else if b = 0x20 ∨ b = 0x09 then ([], .code l.endWord)
  else if b = newline then endLine l
  else if b = 0x7c then ([], .code (l.push .pipe))
  else if b = 0x5c then ([], .escape l)
  else if l.word ≠ none then reject
  else if b = 0x23 then ([], .comment l)
  else if b = 0x3e then ([], .great l)
  else if b = 0x3c then ([], .less l)
  else reject

/-- Read a character. -/
def step : Mode → UInt8 → List Item × Mode
  | .code l, b => stepCode l b
  | .quoted l, b => ([], if b = quoteMark then .code l else .quoted (l.addQuoted [b]))
  | .escape l, b => ([], .code (if b = newline then l else l.addQuoted [b]))
  | .great l, b => if b = 0x3e then ([], .code (l.push .dgreat)) else stepCode (l.push .great) b
  | .less l, b => if b = 0x3c then ([], .dless l) else reject
  | .dless l, b =>
    -- neither `<<-` nor `<<<`
    if b = 0x2d ∨ b = 0x3c then reject else stepCode (l.push .dless) b
  | .comment l, b => if b = newline then endLine l else ([], .comment l)
  | .doc ts d later docs body line, b =>
    if b ≠ newline then ([], .doc ts d later docs body (line ++ [b]))
    else if line ≠ d then ([], .doc ts d later docs (body ++ line ++ [newline]) [])
    else
      match later with
      | [] => (command ts (docs ++ [body]), .code {})
      | d' :: later' => ([], .doc ts d' later' (docs ++ [body]) [] [])
  | .stuck, _ => ([], .stuck)

/-- The end of the script. -/
def finish : Mode → List Item
  | .code l | .comment l =>
    let ts := l.endWord.tokens
    command ts ((delimiters ts).map fun _ => [])
  | .doc ts d later docs body line =>
    -- the shell warns, and takes what there is
    command ts (docs ++ (if line = d then body else body ++ line) :: later.map fun _ => [])
  | .stuck => []
  | _ => [.bad]

/-- The items of the rest of a script. A script has no NUL bytes. -/
def parse : Mode → Text → List Item
  | m, [] => finish m
  | m, b :: s => if b = 0 then [.bad] else (step m b).1 ++ parse (step m b).2 s

/-- The text of a here-document. -/
def Redir.body : Redir → Option Text
  | .doc body => some body
  | _ => none

/-- The texts of the here-documents of a command. -/
def Item.documents : Item → List Text
  | .run p => p.flatMap fun c => c.redirs.filterMap Redir.body
  | .bad => []

/-- The texts of the here-documents of a script. -/
def documents (script : Text) : List Text := (parse (.code {}) script).flatMap Item.documents

/-- Quote a word so that it is read back as it is. -/
def quote (w : Text) : Text :=
  quoteMark :: (w.flatMap fun b =>
    if b = quoteMark then [quoteMark, 0x5c, quoteMark, quoteMark] else [b]) ++ [quoteMark]

/-! ## How parts of a line are read -/

section

variable {l : Line} {s : Text}

/-- A character that completes no command. -/
theorem parse_cons_of_step {m n : Mode} {b : UInt8} (hb : b ≠ 0) (h : step m b = ([], n)) :
    parse m (b :: s) = parse n s := by
  rw [parse, if_neg hb, h]
  rfl

theorem Line.add_add (l : Line) (v w : Text) : (l.add v).add w = l.add (v ++ w) := by
  rcases l with ⟨ts, _ | ⟨u, q⟩⟩ <;> simp [Line.add]

theorem Line.addQuoted_addQuoted (l : Line) (v w : Text) :
    (l.addQuoted v).addQuoted w = l.addQuoted (v ++ w) := by
  rcases l with ⟨ts, _ | ⟨u, q⟩⟩ <;> simp [Line.addQuoted]

/-- A plain word. -/
theorem parse_plain {w : Text} (h : plainWord w = true) :
    parse (.code l) (w ++ s) = parse (.code (l.add w)) s := by
  simp only [plainWord, Bool.and_eq_true, Bool.not_eq_true', List.isEmpty_eq_false_iff,
    List.all_eq_true] at h
  rcases h with ⟨hne, hw⟩
  induction w generalizing l with
  | nil => exact absurd rfl hne
  | cons b w ih =>
    have hplain := hw b List.mem_cons_self
    have hb : step (.code l) b = ([], .code (l.add [b])) := by
      rw [step, stepCode, if_pos hplain]
    have hne0 : b ≠ 0 := by
      rintro rfl
      exact absurd hplain (by decide)
    rw [List.cons_append, parse_cons_of_step hne0 hb]
    by_cases hnil : w = []
    · rw [hnil]
      rfl
    · rw [ih hnil fun c hc => hw c (List.mem_cons_of_mem _ hc), Line.add_add]
      rfl

theorem isPlain_of_digit {b : UInt8} (hlo : 0x30 ≤ b) (hhi : b ≤ 0x39) : isPlain b = true := by
  have hall : ∀ c ∈ specials, ¬ (0x30 ≤ c ∧ c ≤ 0x39) := by decide +kernel
  simpa [isPlain] using fun hb => hall b hb ⟨hlo, hhi⟩

theorem parse_blank : parse (.code l) (0x20 :: s) = parse (.code l.endWord) s :=
  parse_cons_of_step (by decide) rfl

theorem parse_pipe : parse (.code l) (0x7c :: s) = parse (.code (l.push .pipe)) s :=
  parse_cons_of_step (by decide) rfl

/-- A redirection, followed by a blank. -/
theorem parse_great (hl : l.word = none) :
    parse (.code l) (0x3e :: 0x20 :: s) = parse (.code (l.push .great)) s := by
  have hgreat : step (.code l) 0x3e = ([], .great l) := by
    simp [step, stepCode, hl, isPlain, specials, quoteMark, newline]
  rw [parse_cons_of_step (by decide) hgreat]
  exact parse_cons_of_step (by decide) rfl

theorem parse_dgreat (hl : l.word = none) :
    parse (.code l) (0x3e :: 0x3e :: s) = parse (.code (l.push .dgreat)) s := by
  have hgreat : step (.code l) 0x3e = ([], .great l) := by
    simp [step, stepCode, hl, isPlain, specials, quoteMark, newline]
  rw [parse_cons_of_step (by decide) hgreat]
  exact parse_cons_of_step (by decide) rfl

/-- The end of a line without here-documents. -/
theorem parse_newline (h : delimiters l.endWord.tokens = []) :
    parse (.code l) (newline :: s) = command l.endWord.tokens [] ++ parse (.code {}) s := by
  have hend : step (.code l) newline = (command l.endWord.tokens [], .code {}) := by
    show endLine l = _
    rw [endLine]
    simp only [h]
  rw [parse, if_neg (by decide), hend]

/-- The end of a line with one here-document. -/
theorem parse_newline_doc {d : Text} (h : delimiters l.endWord.tokens = [d]) :
    parse (.code l) (newline :: s) = parse (.doc l.endWord.tokens d [] [] [] []) s := by
  refine parse_cons_of_step (by decide) ?_
  show endLine l = _
  rw [endLine]
  simp only [h]

/-! ## Quotes -/

theorem quote_eq_of_not_mem {w : Text} (h : quoteMark ∉ w) :
    quote w = quoteMark :: w ++ [quoteMark] := by
  have hflat : (w.flatMap fun b =>
      if b = quoteMark then [quoteMark, 0x5c, quoteMark, quoteMark] else [b]) = w := by
    induction w with
    | nil => rfl
    | cons b w ih =>
      have hb : b ≠ quoteMark := fun hb => h (hb ▸ List.mem_cons_self)
      rw [List.flatMap_cons, if_neg hb, ih fun hw => h (List.mem_cons_of_mem _ hw)]
      rfl
  rw [quote, hflat]

/-- The text between the quotes, with its quote marks escaped, up to the last quote. -/
theorem parse_quoted {w : Text} (hw : 0 ∉ w) : parse (.quoted (l.addQuoted [])) ((w.flatMap fun b =>
      if b = quoteMark then [quoteMark, 0x5c, quoteMark, quoteMark] else [b]) ++ quoteMark :: s) =
    parse (.code (l.addQuoted w)) s := by
  induction w generalizing l with
  | nil => exact parse_cons_of_step (by decide) rfl
  | cons b w ih =>
    have hb0 : b ≠ 0 := fun h => hw (h ▸ List.mem_cons_self)
    have hmore : (l.addQuoted [b]).addQuoted w = l.addQuoted (b :: w) :=
      Line.addQuoted_addQuoted l [b] w
    rw [List.flatMap_cons, List.append_assoc, ← hmore, ← ih fun h => hw (List.mem_cons_of_mem _ h)]
    by_cases hb : b = quoteMark
    · -- leave the quotes, escape one, and enter them again
      subst hb
      rw [if_pos rfl]
      show parse _ (quoteMark :: 0x5c :: quoteMark :: quoteMark :: _) = _
      rw [parse_cons_of_step hb0 (n := .code (l.addQuoted [])) (by simp [step]),
        parse_cons_of_step (by decide) (n := .escape (l.addQuoted [])) rfl,
        parse_cons_of_step hb0 (n := .code ((l.addQuoted []).addQuoted [quoteMark])) rfl,
        parse_cons_of_step hb0 rfl]
      simp only [Line.addQuoted_addQuoted]
      rfl
    · rw [if_neg hb, List.singleton_append,
        parse_cons_of_step hb0 (n := .quoted ((l.addQuoted []).addQuoted [b])) (by simp [step, hb]),
        Line.addQuoted_addQuoted, Line.addQuoted_addQuoted]
      rfl

/-- A quoted word is read as it is, whatever its bytes are. -/
theorem parse_quote {w : Text} (hw : 0 ∉ w) :
    parse (.code l) (quote w ++ s) = parse (.code (l.addQuoted w)) s := by
  rw [quote, List.append_assoc, List.cons_append,
    parse_cons_of_step (by decide) (n := .quoted (l.addQuoted [])) rfl]
  exact parse_quoted hw

/-! ## Here-documents and comments -/

/-- A here-document is announced with a quoted delimiter. -/
theorem parse_dless (hl : l.word = none) {d : Text} (hd : 0 ∉ d) :
    parse (.code l) (0x3c :: 0x3c :: (quote d ++ s)) =
      parse (.code ((l.push .dless).addQuoted d)) s := by
  have hless : step (.code l) 0x3c = ([], .less l) := by
    simp [step, stepCode, hl, isPlain, specials, quoteMark, newline]
  rw [parse_cons_of_step (by decide) hless, parse_cons_of_step (by decide) (n := .dless l) rfl,
    ← parse_quote hd]
  rfl

section

variable {ts : List Token} {d : Text} {later docs : List Text} {body line : Text}

/-- Characters of the current line of a here-document. -/
theorem parse_doc_line {w : Text} (hw : newline ∉ w) (hw0 : 0 ∉ w) :
    parse (.doc ts d later docs body line) (w ++ s) =
      parse (.doc ts d later docs body (line ++ w)) s := by
  induction w generalizing line with
  | nil => rw [List.nil_append, List.append_nil]
  | cons b w ih =>
    have hb : b ≠ newline := fun hb => hw (hb ▸ List.mem_cons_self)
    have hb0 : b ≠ 0 := fun hb => hw0 (hb ▸ List.mem_cons_self)
    rw [List.cons_append, parse_cons_of_step hb0
      (n := .doc ts d later docs body (line ++ [b])) (by simp [step, hb]),
      ih (fun h => hw (List.mem_cons_of_mem _ h)) (fun h => hw0 (List.mem_cons_of_mem _ h)),
      List.append_assoc]
    rfl

/-- Lines of a here-document without a character `c` of its delimiter. -/
theorem parse_doc_text {c : UInt8} (hc : c ∈ d) {w : Text} (hline : c ∉ line) (hw : c ∉ w)
    (hw0 : 0 ∉ w) :
    parse (.doc ts d later docs body line) (w ++ newline :: s) =
      parse (.doc ts d later docs (body ++ line ++ w ++ [newline]) []) s := by
  -- no line can be the delimiter
  have hends : ∀ {v b : Text}, c ∉ v →
      step (.doc ts d later docs b v) newline = ([], .doc ts d later docs (b ++ v ++ [newline]) []) := by
    intro v b hv
    have hne : v ≠ d := fun h => hv (h ▸ hc)
    simp [step, hne]
  induction w generalizing body line with
  | nil =>
    rw [List.nil_append, parse_cons_of_step (by decide) (hends hline), List.append_nil]
  | cons b w ih =>
    have hcw : c ∉ w := fun h => hw (List.mem_cons_of_mem _ h)
    have h0w : 0 ∉ w := fun h => hw0 (List.mem_cons_of_mem _ h)
    have hb0 : b ≠ 0 := fun h => hw0 (h ▸ List.mem_cons_self)
    by_cases hb : b = newline
    · subst hb
      rw [List.cons_append, parse_cons_of_step hb0 (hends hline), ih (by simp) hcw h0w]
      simp
    · have hcb : c ≠ b := fun h => hw (h ▸ List.mem_cons_self)
      rw [List.cons_append, parse_cons_of_step hb0
        (n := .doc ts d later docs body (line ++ [b])) (by simp [step, hb]),
        ih (by simp [hline, hcb]) hcw h0w]
      simp

/-- The delimiter ends the last here-document of a line. -/
theorem parse_doc_delimiter (hd : newline ∉ d) (hd0 : 0 ∉ d) :
    parse (.doc ts d [] docs body []) (d ++ newline :: s) =
      command ts (docs ++ [body]) ++ parse (.code {}) s := by
  rw [parse_doc_line hd hd0, List.nil_append, parse, if_neg (by decide)]
  simp [step]

end

/-- A comment line. -/
theorem parse_comment {w : Text} (hw : newline ∉ w) (hw0 : 0 ∉ w) :
    parse (.code {}) (0x23 :: (w ++ newline :: s)) = parse (.code {}) s := by
  rw [parse_cons_of_step (by decide) (n := .comment {}) rfl]
  induction w with
  | nil =>
    rw [List.nil_append, parse]
    rfl
  | cons b w ih =>
    have hb : b ≠ newline := fun hb => hw (hb ▸ List.mem_cons_self)
    have hb0 : b ≠ 0 := fun hb => hw0 (hb ▸ List.mem_cons_self)
    rw [List.cons_append, parse_cons_of_step hb0 (n := .comment {}) (by simp [step, hb])]
    exact ih (fun h => hw (List.mem_cons_of_mem _ h)) fun h => hw0 (List.mem_cons_of_mem _ h)

/-! ## Lines of complete words -/

section

variable {ts : List Token} {w d : Text}

theorem parse_word (hw : plainWord w = true) :
    parse (.code { tokens := ts }) (w ++ 0x20 :: s) =
      parse (.code { tokens := ts ++ [.word w false] }) s := by
  rw [parse_plain hw, parse_blank]
  rfl

theorem parse_quoted_word (hw : 0 ∉ w) :
    parse (.code { tokens := ts }) (quote w ++ 0x20 :: s) =
      parse (.code { tokens := ts ++ [.word w true] }) s := by
  rw [parse_quote hw, parse_blank]
  rfl

/-- A line that ends in a quoted word. -/
theorem parse_last_word (hw : 0 ∉ w) (hdocs : delimiters (ts ++ [.word w true]) = []) :
    parse (.code { tokens := ts }) (quote w ++ newline :: s) =
      command (ts ++ [.word w true]) [] ++ parse (.code {}) s := by
  rw [parse_quote hw]
  exact parse_newline hdocs

/-- A line that announces a here-document at its end. -/
theorem parse_here_document (hdocs : delimiters (ts ++ [.dless, .word d true]) = [d]) (hd0 : 0 ∉ d) :
    parse (.code { tokens := ts }) (0x3c :: 0x3c :: (quote d ++ newline :: s)) =
      parse (.doc (ts ++ [.dless, .word d true]) d [] [] [] []) s := by
  have htokens : ((({ tokens := ts } : Line).push .dless).addQuoted d).endWord.tokens =
      ts ++ [.dless, .word d true] := by
    simp [Line.push, Line.addQuoted, Line.endWord]
  rw [parse_dless rfl hd0, parse_newline_doc (by rw [htokens]; exact hdocs), htokens]

/-- The text of a here-document. Its lines lack a character `c` of the delimiter. -/
theorem parse_document {c : UInt8} {text : Text} (hd : newline ∉ d) (hd0 : 0 ∉ d) (hc : c ∈ d)
    (htext : c ∉ text) (htext0 : 0 ∉ text) :
    parse (.doc ts d [] [] [] []) (text ++ newline :: (d ++ newline :: s)) =
      command ts [text ++ [newline]] ++ parse (.code {}) s := by
  rw [parse_doc_text hc List.not_mem_nil htext htext0, parse_doc_delimiter hd hd0]
  rfl

end

end

end Shell
