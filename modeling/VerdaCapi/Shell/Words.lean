import VerdaCapi.Shell.Lexer
import Mathlib.Data.List.TakeWhile

/-!
# The words of a command line

`fields` reads a line as one simple command and returns its words without their quotes. It is `none` where
the line is anything else, or where its words are not its text without the quotes: operators, expansions,
patterns and braces, a quotation that does not end, a reserved word or an assignment in the first place.

Quoted words come back as they are (`fields_quoted`). A line is its own only word exactly if it is made of
characters that stand for themselves (`fields_self_iff`).

What a character does is decided by the character, not by what follows it. So some words that bash takes as
they are do not count as literal here, and make `fields` return `none`: those with a `[` that no `]`
follows, with a `$` in the last place, or with braces around a comma or dots that bash does not expand.
-/

namespace Shell

/-- A word: its characters, and whether each is quoted. -/
abbrev Word := List (UInt8 × Bool)

/-- The words of a line, from the word that is being read on. -/
def readWords : Option Word → List Event → Option (List Word)
  | cur, [] => some cur.toList
  | cur, .char b quoted :: es => readWords (some (cur.getD [] ++ [(b, quoted)])) es
  | cur, .mark :: es => readWords (some (cur.getD [])) es
  | cur, .blank :: es => (readWords none es).map (cur.toList ++ ·)
  | _, .special _ :: _ | _, .op _ :: _ | _, .enter :: _ | _, .leave :: _ => none

/-- The reserved words of POSIX, and those that bash adds. -/
def reservedWords : List Text :=
  ["!", "\x7b", "\x7d", "case", "coproc", "do", "done", "elif", "else", "esac", "fi", "for", "function", "if",
    "in", "select", "then", "time", "until", "while"].map text

def isReserved (w : Word) : Bool :=
  w.all (fun c => !c.2) && reservedWords.contains (w.map Prod.fst)

/-- A letter, a digit or an underscore. -/
def isNameByte (b : UInt8) : Bool :=
  (0x61 ≤ b && b ≤ 0x7a) || (0x41 ≤ b && b ≤ 0x5a) || (0x30 ≤ b && b ≤ 0x39) || b == 0x5f

/-- A name that is followed by `=` or `+=`. -/
def isAssignment (w : Word) : Bool :=
  let name := w.takeWhile fun c => !c.2 && isNameByte c.1
  let rest := w.drop name.length
  name.head?.any (fun c => !(0x30 ≤ c.1 && c.1 ≤ 0x39)) &&
    (rest.head? == some (0x3d, false) || rest.take 2 == [(0x2b, false), (0x3d, false)])

/-- An opening brace, then a comma or two dots, then a closing brace: bash makes several words of it. -/
def hasBraces (w : Word) : Bool :=
  (w.dropWhile (· != (0x7b, false))).tails.any fun t =>
    (t.head? == some (0x2c, false) || t.take 2 == [(0x2e, false), (0x2e, false)]) && t.contains (0x7d, false)

/-- The words of a simple command. It is `none` for every unquoted `[`, `$` and brace list, also where bash
would take it as it is. -/
def fields (line : Text) : Option (List Text) :=
  if (lex {} line).2.mode = .code ∨ (lex {} line).2.mode = .comment then
    match readWords none (lex {} line).1 with
    | some (w :: ws) =>
      if isReserved w || isAssignment w || (w :: ws).any hasBraces then none
      else some ((w :: ws).map (·.map Prod.fst))
    | _ => none
  else none

/-! ## Quoted words -/

/-- A text as a word that is quoted throughout, or not at all. -/
def asWord (quoted : Bool) (w : Text) : Word := w.map (·, quoted)

theorem asWord_fst (quoted : Bool) (w : Text) : (asWord quoted w).map Prod.fst = w := by
  simp [asWord, Function.comp_def]

theorem readWords_quotedEvents (v : Word) (w : Text) (es : List Event) :
    readWords (some v) (quotedEvents w ++ es) = readWords (some (v ++ asWord true (withoutNul w))) es := by
  rw [quotedEvents]
  induction withoutNul w generalizing v with
  | nil => simp [asWord]
  | cons b w ih =>
    rw [List.flatMap_cons]
    split <;> simp [readWords, ih, asWord]

/-- Words in quotes, with blanks in between. -/
def quoteAll (args : List Text) : Text := [0x20].intercalate (args.map quote)

theorem lex_quoteAll {args : List Text} {q : Lexer} (hq : q.mode = .code) (hne : args ≠ []) :
    (lex q (quoteAll args)).2.mode = .code ∧
    readWords none (lex q (quoteAll args)).1 = some (args.map fun a => asWord true (withoutNul a)) := by
  induction args generalizing q with
  | nil => exact absurd rfl hne
  | cons a args ih =>
    cases args with
    | nil =>
      have htext : quoteAll [a] = quote a := by simp [quoteAll]
      have hread : readWords (some []) (quotedEvents a) = some [asWord true (withoutNul a)] := by
        have hquoted := readWords_quotedEvents [] a []
        rwa [List.append_nil] at hquoted
      rw [htext, lex_quote hq]
      exact ⟨hq, hread⟩
    | cons b args =>
      have htext : quoteAll (a :: b :: args) = quote a ++ 0x20 :: quoteAll (b :: args) := by
        simp [quoteAll, List.intercalate_cons_cons]
      have hblank : lexStep (q.put (withoutNul a)) 0x20 =
          ([.blank], (q.put (withoutNul a)).endWord) := by
        rw [lexStep, show (q.put (withoutNul a)).mode = .code from hq]
        rfl
      have hmode : (q.put (withoutNul a)).endWord.mode = .code := by
        rw [Lexer.endWord]
        split <;> exact hq
      obtain ⟨hend, hwords⟩ := ih hmode (List.cons_ne_nil _ _)
      rw [htext, lex_append, lex_quote hq, lex_cons, hblank]
      refine ⟨hend, ?_⟩
      have hread : readWords (some [])
          (quotedEvents a ++ .blank :: (lex (q.put (withoutNul a)).endWord (quoteAll (b :: args))).1) =
          some (asWord true (withoutNul a) :: (b :: args).map fun a => asWord true (withoutNul a)) := by
        rw [readWords_quotedEvents, readWords, hwords]
        rfl
      exact hread

theorem withoutNul_eq_self {w : Text} (h : 0 ∉ w) : withoutNul w = w :=
  List.filter_eq_self.2 fun b hb => by simpa using fun heq : b = 0 => h (heq ▸ hb)

theorem isReserved_quoted (w : Text) : isReserved (asWord true w) = false := by
  cases w with
  | nil => decide
  | cons b w => rfl

theorem isAssignment_quoted (w : Text) : isAssignment (asWord true w) = false := by
  cases w with
  | nil => rfl
  | cons b w => rfl

theorem hasBraces_quoted (w : Text) : hasBraces (asWord true w) = false := by
  have hnone : (asWord true w).dropWhile (· != (0x7b, false)) = [] := by
    rw [List.dropWhile_eq_nil_iff]
    intro c hc
    obtain ⟨b, -, rfl⟩ := List.mem_map.1 hc
    simp
  rw [hasBraces, hnone]
  rfl

/-- **Quoted words** are read back as they are. -/
theorem fields_quoted {args : List Text} (hne : args ≠ []) (hnul : ∀ a ∈ args, 0 ∉ a) :
    fields (quoteAll args) = some args := by
  obtain ⟨hmode, hwords⟩ := lex_quoteAll (q := {}) rfl hne
  have hargs : args.map (fun a => asWord true (withoutNul a)) = args.map (asWord true) :=
    List.map_congr_left fun a ha => by rw [withoutNul_eq_self (hnul a ha)]
  rw [hargs] at hwords
  have hback : (args.map (asWord true)).map (·.map Prod.fst) = args := by
    simp [List.map_map, Function.comp_def, asWord_fst]
  cases args with
  | nil => exact absurd rfl hne
  | cons a args =>
    rw [List.map_cons] at hwords hback
    have hbraces : (asWord true a :: args.map (asWord true)).any hasBraces = false := by
      simp [hasBraces_quoted]
    rw [fields, if_pos (.inl hmode), hwords]
    simp only [isReserved_quoted, isAssignment_quoted, hbraces, Bool.or_self, Bool.false_eq_true, if_false,
      hback]

/-! ## Lines that need no quotes -/

/-- A character that stands for itself within a word. -/
def isOrdinary (b : UInt8) : Bool :=
  !List.contains [0, 0x09, newline, 0x20, 0x7c, 0x26, 0x3b, 0x3c, 0x3e, 0x28, 0x29, 0x24, 0x60, 0x5c, 0x22,
    quoteMark, 0x2a, 0x3f, 0x5b] b

/-- A line that is a command of one word without a quotation. An unmatched `[`, a `$` in the last place and
braces that bash would leave alone do not count as literal. -/
def literalWord (w : Text) : Bool :=
  !w.isEmpty && w.all isOrdinary && w.head? != some 0x23 && w.head? != some 0x7e &&
    !isReserved (asWord false w) && !isAssignment (asWord false w) && !hasBraces (asWord false w)

/-- How many characters of words there are. -/
def charCount (es : List Event) : Nat :=
  es.countP fun e => match e with
    | .char _ _ => true
    | _ => false

theorem charCount_append (es es' : List Event) :
    charCount (es ++ es') = charCount es + charCount es' := List.countP_append

/-- A backslash in double quotes may yet turn out to be a character. -/
def Reading.owed : Reading → Nat
  | .escapeDouble => 1
  | _ => 0

theorem Lexer.endWord_mode (q : Lexer) : q.endWord.mode = q.mode := by
  rw [Lexer.endWord]
  split <;> rfl

theorem Lexer.endLine_owed (q : Lexer) : q.endLine.mode.owed = 0 := by
  show (if q.operator.pending = [] then Reading.code else .doc []).owed = 0
  split <;> rfl

/-- Outside quotes, the character is one of a word. -/
def Lexer.takes (q : Lexer) (b : UInt8) : Bool := isOrdinary b && (q.inWord || (b != 0x23 && b != 0x7e))

theorem lexCode_taken {q : Lexer} {b : UInt8} (h : q.takes b = true) :
    lexCode q b = ([.char b false], q.put [b]) := by
  simp only [Lexer.takes, isOrdinary, List.contains_cons, List.contains_nil, Bool.or_false, Bool.not_or,
    Bool.and_eq_true, Bool.not_eq_true', beq_eq_false_iff_ne, ne_eq, Bool.or_eq_true, bne_iff_ne] at h
  obtain ⟨hb, hstart⟩ := h
  have hcomment : ¬ (q.inWord = false ∧ b = 0x23) := by
    rintro ⟨hword, rfl⟩
    rcases hstart with hstart | hstart
    · rw [hword] at hstart
      cases hstart
    · exact hstart.1 rfl
  have htilde : ¬ (q.inWord = false ∧ b = 0x7e) := by
    rintro ⟨hword, rfl⟩
    rcases hstart with hstart | hstart
    · rw [hword] at hstart
      cases hstart
    · exact hstart.2 rfl
  simp only [lexCode, isOperator, isPattern, List.contains_cons, List.contains_nil, hb, hcomment, htilde,
    beq_iff_eq, Bool.or_false, Bool.or_eq_true, or_self, if_false]

/-- Any other character is not one of a word yet. -/
theorem lexCode_other {q : Lexer} {b : UInt8} (hmode : q.mode = .code) (h : q.takes b = false) :
    charCount (lexCode q b).1 = 0 ∧ (lexCode q b).2.mode.owed = 0 := by
  have howed : q.mode.owed = 0 := by rw [hmode]; rfl
  have hword : q.endWord.mode.owed = 0 := by rw [Lexer.endWord_mode, howed]
  have hparen : charCount q.closeParen.1 = 0 ∧ q.closeParen.2.mode.owed = 0 := by
    rw [Lexer.closeParen]
    split <;> first | exact ⟨rfl, hword⟩ | exact ⟨rfl, rfl⟩
  have hspecial : lexCode q b = ([.special b], q.put [b]) →
      charCount (lexCode q b).1 = 0 ∧ (lexCode q b).2.mode.owed = 0 := by
    intro heq
    rw [heq]
    exact ⟨rfl, howed⟩
  rw [Lexer.takes, Bool.and_eq_false_iff] at h
  -- one of the special characters, or `#` or `~` at the start of a word
  rcases h with hb | hstart
  · simp only [isOrdinary, List.contains_cons, List.contains_nil, Bool.or_false, Bool.not_eq_false',
      Bool.or_eq_true, beq_iff_eq] at hb
    rcases hb with rfl | rfl | rfl | rfl | rfl | rfl | rfl | rfl | rfl | rfl | rfl | rfl | rfl | rfl | rfl |
      rfl | rfl | rfl | rfl
    all_goals first
      | exact ⟨rfl, howed⟩
      | exact ⟨rfl, hword⟩
      | exact ⟨rfl, q.endLine_owed⟩
      | exact hparen
      | exact ⟨rfl, rfl⟩
      | exact hspecial (by simp [lexCode, quoteMark, newline, isOperator, isPattern])
  · simp only [Bool.or_eq_false_iff, Bool.and_eq_false_iff, bne_eq_false_iff_eq] at hstart
    obtain ⟨hstart, rfl | rfl⟩ := hstart
    · have hcomment : lexCode q 0x23 = ([], { q with mode := .comment }) := by
        simp [lexCode, hstart, quoteMark, newline, isOperator]
      rw [hcomment]
      exact ⟨rfl, rfl⟩
    · exact hspecial (by simp [lexCode, hstart, quoteMark, newline, isOperator])

theorem lexDouble_charCount {q : Lexer} (hmode : q.mode = .double) (b : UInt8) :
    charCount (lexDouble q b).1 + (lexDouble q b).2.mode.owed ≤ 1 := by
  unfold lexDouble
  split_ifs <;> simp [charCount, Reading.owed, Lexer.put, hmode]

/-- A character of a word takes at least one byte. -/
theorem lexStep_charCount (q : Lexer) (b : UInt8) :
    charCount (lexStep q b).1 + (lexStep q b).2.mode.owed ≤ 1 + q.mode.owed := by
  have hcode : ∀ {q : Lexer}, q.mode = .code →
      charCount (lexCode q b).1 + (lexCode q b).2.mode.owed ≤ 1 := by
    intro q hmode
    cases htakes : q.takes b with
    | true =>
      rw [lexCode_taken htakes]
      show 1 + q.mode.owed ≤ 1
      rw [hmode]
      decide
    | false =>
      obtain ⟨hcount, howed⟩ := lexCode_other hmode htakes
      rw [hcount, howed]
      decide
  unfold lexStep
  split <;> rename_i hmode <;> rw [hmode]
  · exact hcode hmode
  · split_ifs <;> simp [charCount, Reading.owed, Lexer.put, hmode]
  · exact lexDouble_charCount hmode b
  · split_ifs <;> simp [charCount, Reading.owed, hmode]
  · split_ifs <;> simp [charCount, Reading.owed, hmode]
  · split
    · simp [charCount, Reading.owed, Lexer.enter]
    · exact hcode rfl
  · split
    · simp [charCount, Reading.owed, Lexer.enter]
    · exact lexDouble_charCount rfl b
  · split
    · simp [charCount, q.endLine_owed]
    · simp [charCount, Reading.owed, hmode]
  · split_ifs <;> simp [charCount, Reading.owed, hmode]

theorem lex_charCount (q : Lexer) (s : Text) : charCount (lex q s).1 ≤ s.length + q.mode.owed := by
  induction s generalizing q with
  | nil => exact Nat.zero_le _
  | cons b s ih =>
    have hstep := lexStep_charCount q b
    have hrest := ih (lexStep q b).2
    rw [lex_cons, charCount_append, List.length_cons]
    omega

/-- If no byte is lost, every byte is a character that stands for itself. -/
theorem ordinary_of_charCount {q : Lexer} {s : Text} (hmode : q.mode = .code)
    (h : charCount (lex q s).1 = s.length) :
    (∀ b ∈ s, isOrdinary b = true) ∧ ∀ b, s.head? = some b → q.takes b = true := by
  induction s generalizing q with
  | nil => simp
  | cons b s ih =>
    rw [lex_cons, lexStep, hmode] at h
    simp only [charCount_append, List.length_cons] at h
    cases htakes : q.takes b with
    | false =>
      obtain ⟨hcount, howed⟩ := lexCode_other hmode htakes
      have hrest := lex_charCount (lexCode q b).2 s
      omega
    | true =>
      have hord : isOrdinary b = true := (Bool.and_eq_true_iff.1 htakes).1
      have hone : charCount [.char b false] = 1 := rfl
      simp only [lexCode_taken htakes] at h
      obtain ⟨hall, -⟩ := ih (q := q.put [b]) hmode (by omega)
      refine ⟨List.forall_mem_cons.2 ⟨hord, hall⟩, fun c hc => ?_⟩
      cases hc
      exact htakes

/-- Text of characters that stand for themselves is one word. -/
theorem lex_ordinary {q : Lexer} {s : Text} (hmode : q.mode = .code) (hall : ∀ b ∈ s, isOrdinary b = true)
    (hstart : ∀ b, s.head? = some b → q.takes b = true) :
    lex q s = (s.map (.char · false), if s = [] then q else q.put s) := by
  induction s generalizing q with
  | nil => rfl
  | cons b s ih =>
    rw [List.forall_mem_cons] at hall
    have hrest : lex (q.put [b]) s = (s.map (.char · false), if s = [] then q.put [b] else (q.put [b]).put s) := by
      refine ih hmode hall.2 fun c hc => ?_
      rw [Lexer.takes, hall.2 c (List.mem_of_mem_head? hc)]
      rfl
    rw [lex_cons, lexStep, hmode]
    simp only [lexCode_taken (hstart b rfl), hrest]
    by_cases hs : s = []
    · simp [hs]
    · simp [hs, Lexer.put_put]

/-- The words have all the characters. -/
theorem readWords_length {es : List Event} {cur : Option Word} {ws : List Word}
    (h : readWords cur es = some ws) :
    ws.flatten.length = (cur.getD []).length + charCount es := by
  induction es generalizing cur ws with
  | nil =>
    cases h
    cases cur <;> simp [charCount]
  | cons e es ih =>
    cases e with
    | char b quoted =>
      rw [ih h]
      simp [charCount]
      omega
    | mark =>
      rw [ih h]
      simp [charCount]
    | blank =>
      rw [readWords] at h
      obtain ⟨ws', hrest, rfl⟩ := Option.map_eq_some_iff.1 h
      rw [List.flatten_append, List.length_append, ih hrest]
      cases cur <;> simp [charCount]
    | special b => cases h
    | op b => cases h
    | enter => cases h
    | leave => cases h

theorem readWords_chars (v : Word) (w : Text) :
    readWords (some v) (w.map (.char · false)) = some [v ++ asWord false w] := by
  induction w generalizing v with
  | nil => simp [readWords, asWord]
  | cons b w ih =>
    rw [List.map_cons, readWords, ih]
    simp [asWord]

/-- What `fields` makes of text that is one word. -/
theorem fields_ordinary {w : Text} (hne : w ≠ []) (hall : ∀ b ∈ w, isOrdinary b = true)
    (hstart : ∀ b, w.head? = some b → ({} : Lexer).takes b = true) :
    fields w = if isReserved (asWord false w) || isAssignment (asWord false w) || hasBraces (asWord false w)
      then none else some [w] := by
  have hlex := lex_ordinary rfl hall hstart
  rw [if_neg hne] at hlex
  have hread : readWords none (w.map (.char · false)) = some [asWord false w] := by
    cases w with
    | nil => exact absurd rfl hne
    | cons b w => exact readWords_chars [(b, false)] w
  rw [fields, hlex, if_pos (.inl rfl), hread]
  simp only [List.map_cons, List.map_nil, asWord_fst, List.any_cons, List.any_nil, Bool.or_false]

/-- **A line without quotes** is its own only word exactly if it is literal. -/
theorem fields_self_iff (w : Text) : fields w = some [w] ↔ literalWord w = true := by
  have htakes : ∀ b, ({} : Lexer).takes b = true ↔ isOrdinary b = true ∧ b ≠ 0x23 ∧ b ≠ 0x7e := by
    intro b
    simp [Lexer.takes]
  simp only [literalWord, Bool.and_eq_true, Bool.not_eq_true', List.isEmpty_eq_false_iff, List.all_eq_true,
    bne_iff_ne]
  constructor
  · intro h
    have hself := h
    rw [fields] at h
    split at h
    · split at h
      · rename_i v ws hread
        split at h
        · cases h
        · have hwords := Option.some.inj h
          rw [List.map_cons, List.cons.injEq, List.map_eq_nil_iff] at hwords
          obtain ⟨htext, rfl⟩ := hwords
          -- the word is as long as the line, so no byte was spent on quoting or on blanks
          have hcount : charCount (lex {} w).1 = w.length := by
            have hsum := readWords_length hread
            have hlength : v.length = w.length := by rw [← htext, List.length_map]
            simp only [Option.getD_none, List.length_nil, List.flatten_cons, List.flatten_nil,
              List.append_nil] at hsum
            omega
          obtain ⟨hall, hstart⟩ := ordinary_of_charCount rfl hcount
          have hne : w ≠ [] := by
            rintro rfl
            cases hread
          rw [fields_ordinary hne hall hstart] at hself
          split at hself
          · cases hself
          · rename_i hcheck
            simp only [Bool.or_eq_true, not_or, Bool.not_eq_true] at hcheck
            refine ⟨⟨⟨⟨⟨⟨hne, hall⟩, fun hb => ?_⟩, fun hb => ?_⟩, hcheck.1.1⟩, hcheck.1.2⟩, hcheck.2⟩
            · exact ((htakes _).1 (hstart _ hb)).2.1 rfl
            · exact ((htakes _).1 (hstart _ hb)).2.2 rfl
      · cases h
    · cases h
  · rintro ⟨⟨⟨⟨⟨⟨hne, hall⟩, hcomment⟩, htilde⟩, hreserved⟩, hassignment⟩, hbraces⟩
    have hstart : ∀ b, w.head? = some b → ({} : Lexer).takes b = true := by
      intro b hb
      refine (htakes b).2 ⟨hall b (List.mem_of_mem_head? hb), ?_, ?_⟩
      · rintro rfl
        exact hcomment hb
      · rintro rfl
        exact htilde hb
    rw [fields_ordinary hne hall hstart, hreserved, hassignment, hbraces]
    rfl

end Shell
