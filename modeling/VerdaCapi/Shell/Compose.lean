import VerdaCapi.Shell.Run
import VerdaCapi.Shell.Words

/-!
# Scripts put together from lines

A text of which the parser makes the same commands whatever follows it (`Reads`) is a part of a script
that can be looked at by itself: a script of such parts runs one after the other, up to the first that
fails. A text after which the parser is where it started is such a part, and so is a line of quoted
words, which runs one program with these arguments.
-/

namespace Shell

/-! ## Reading a part of a script -/

/-- The mode of the parser after a text. -/
def after (m : Mode) (s : Text) : Mode := s.foldl (fun m b => (step m b).2) m

/-- What was read when the text ends. -/
def emitted : Mode → Text → List Item
  | _, [] => []
  | m, b :: s => (step m b).1 ++ emitted (step m b).2 s

/-- The parser reads a text byte by byte and remembers no more than its mode. -/
theorem parse_append {s : Text} (hs : 0 ∉ s) (m : Mode) (t : Text) :
    parse m (s ++ t) = emitted m s ++ parse (after m s) t := by
  induction s generalizing m with
  | nil => rfl
  | cons b s ih =>
    have hb : b ≠ 0 := fun h => hs (by simp [h])
    have hs' : 0 ∉ s := fun h => hs (List.mem_cons_of_mem b h)
    rw [List.cons_append, parse, if_neg hb, ih hs', emitted, List.append_assoc]
    rfl

/-- The text is read as these commands, whatever follows. -/
def Reads (s : Text) (items : List Item) : Prop :=
  ∀ t, parse (.code {}) (s ++ t) = items ++ parse (.code {}) t

theorem Reads.nil : Reads [] [] := fun _ => rfl

/-- Parts are read one after the other. -/
theorem Reads.append {s s' : Text} {items items' : List Item} (h : Reads s items) (h' : Reads s' items') :
    Reads (s ++ s') (items ++ items') := by
  intro t
  rw [List.append_assoc, h, h', List.append_assoc]

theorem Reads.parse {s : Text} {items : List Item} (h : Reads s items) : parse (.code {}) s = items := by
  have hs := h []
  rw [List.append_nil] at hs
  exact hs.trans (List.append_nil items)

/-- The parser is back at the beginning of a line: no quote and no here-document is open. -/
structure Closed (s : Text) : Prop where
  noNul : 0 ∉ s
  start : after (.code {}) s = .code {}

/-- A closed text is read by itself. -/
theorem Closed.reads {s : Text} (h : Closed s) : Reads s (parse (.code {}) s) := by
  have hself : Shell.parse (.code {}) s = emitted (.code {}) s := by
    have hs := parse_append h.noNul (.code {}) []
    rw [List.append_nil, h.start] at hs
    exact hs.trans (List.append_nil _)
  intro t
  rw [parse_append h.noNul, h.start, hself]

section

variable {σ α : Type} {H : Host σ} {stdin : Text} {st : State σ}

theorem Reads.run {s : Text} {items : List Item} (h : Reads s items) :
    run H stdin s st = runItems H stdin items st := by
  rw [Shell.run, h.parse]

/-- Where the commands are grouped makes no difference to the first failure. -/
theorem Outcome.next_assoc (r : Outcome σ) (k l : State σ → Outcome σ) :
    (r.next k).next l = r.next fun st => (k st).next l := by
  obtain ⟨st, ok⟩ := r
  cases ok <;> rfl

/-- Do something for each of a list, up to the first failure. -/
def each (f : α → State σ → Outcome σ) : List α → State σ → Outcome σ
  | [], st => (st, true)
  | a :: as, st => Outcome.next (f a st) (each f as)

/-- A script with one part for each element of a list. -/
theorem Reads.flatMap {text : α → Text} {items : α → List Item} {as : List α}
    (h : ∀ a ∈ as, Reads (text a) (items a)) : Reads (as.flatMap text) (as.flatMap items) := by
  induction as with
  | nil => exact .nil
  | cons a as ih =>
    rw [List.flatMap_cons, List.flatMap_cons]
    exact (h a List.mem_cons_self).append (ih fun b hb => h b (List.mem_cons_of_mem a hb))

/-- It runs the parts in turn. -/
theorem runItems_flatMap {items : α → List Item} {f : α → State σ → Outcome σ} {as : List α}
    (h : ∀ a ∈ as, ∀ st, runItems H stdin (items a) st = f a st) (st : State σ) :
    runItems H stdin (as.flatMap items) st = each f as st := by
  induction as generalizing st with
  | nil => rfl
  | cons a as ih =>
    rw [List.flatMap_cons, runItems_append, h a List.mem_cons_self, each]
    congr 1
    funext st'
    exact ih (fun b hb => h b (List.mem_cons_of_mem a hb)) st'

/-! ## Lines of quoted words -/

theorem delimiters_words (args : List Text) : delimiters (args.map fun w => Token.word w true) = [] := by
  induction args with
  | nil => rfl
  | cons a args ih => exact ih

theorem pipeline_words (args : List Text) (docs : List Text) (c : Simple) (h : c.args ++ args ≠ []) :
    pipeline (args.map fun w => Token.word w true) docs c = some [{ c with args := c.args ++ args }] := by
  induction args generalizing c with
  | nil =>
    rw [List.append_nil] at h ⊢
    rw [List.map_nil, pipeline, if_neg h]
  | cons a args ih =>
    rw [List.map_cons, pipeline, ih _ (by simp)]
    simp

/-- A line of words without operators is one program with these arguments. -/
theorem command_words {args : List Text} (h : args ≠ []) (docs : List Text) :
    command (args.map fun w => Token.word w true) docs = [.run [{ args := args }]] := by
  rw [command, if_neg (by simpa using h), pipeline_words args docs {} (by simpa using h)]
  rfl

/-- The rest of a line of quoted words. -/
theorem parse_quoteAll {args : List Text} (hne : args ≠ []) (hnul : ∀ a ∈ args, 0 ∉ a)
    (before : List Text) (s : Text) :
    parse (.code { tokens := before.map fun w => Token.word w true }) (quoteAll args ++ newline :: s) =
      .run [{ args := before ++ args }] :: parse (.code {}) s := by
  induction args generalizing before with
  | nil => exact absurd rfl hne
  | cons a args ih =>
    have ha : 0 ∉ a := hnul a List.mem_cons_self
    have htokens : (before.map fun w => Token.word w true) ++ [Token.word a true] =
        (before ++ [a]).map fun w => Token.word w true := by simp
    cases args with
    | nil =>
      have htext : quoteAll [a] = quote a := by simp [quoteAll]
      rw [htext, parse_last_word ha (by rw [htokens]; exact delimiters_words _), htokens,
        command_words (by simp)]
      rfl
    | cons b rest =>
      have htext : quoteAll (a :: b :: rest) ++ newline :: s =
          quote a ++ 0x20 :: (quoteAll (b :: rest) ++ newline :: s) := by
        simp [quoteAll, List.intercalate_cons_cons]
      rw [htext, parse_quoted_word ha, htokens, ih (by simp)
        (fun c hc => hnul c (List.mem_cons_of_mem a hc)) (before ++ [a])]
      simp

/-- A line of quoted words is a part of a script. -/
theorem reads_quoteAll {args : List Text} (hne : args ≠ []) (hnul : ∀ a ∈ args, 0 ∉ a) :
    Reads (quoteAll args ++ [newline]) [.run [{ args := args }]] := by
  intro t
  rw [List.append_assoc]
  exact parse_quoteAll hne hnul [] t

/-- Run a program with these arguments, as a command of its own. -/
def runProgram (H : Host σ) (stdin : Text) (args : List Text) (st : State σ) : Outcome σ :=
  match H.exec args stdin st.rest, H.changes args st.rest st.files with
  | some (_, rest), some files => ({ files := files, rest := rest }, true)
  | _, _ => (st, false)

theorem runItems_program (args : List Text) :
    runItems H stdin [.run [{ args := args }]] st = runProgram H stdin args st := by
  simp only [runItems, Outcome.next_done, runPipeline, runSimple, redirect, runProgram]
  cases H.exec args stdin st.rest with
  | none => rfl
  | some r =>
    cases H.changes args st.rest st.files with
    | none => rfl
    | some files => rfl

end

end Shell
