import Mathlib.Data.List.Basic
import Mathlib.Data.List.TakeDrop
import Mathlib.Data.List.TakeWhile
import Mathlib.Data.String.Basic

/-!
# The parts of Go's `strings`, `path`, `fmt` and maps that the provider uses

Object names, tags and states are ASCII text, for which bytes and characters agree; texts that reach
a shell are bytes. Maps from strings to strings are association lists, and a missing key reads as the
empty string, as in Go.
-/

namespace Go

/-- A Go string or byte slice whose bytes matter. -/
abbrev Bytes := List UInt8

/-- The bytes of a text. -/
def bytes (s : String) : Bytes := s.toUTF8.data.toList

theorem bytes_append (s t : String) : bytes (s ++ t) = bytes s ++ bytes t := by
  simp [bytes, String.toUTF8]

theorem bytes_injective : Function.Injective bytes := by
  intro s t h
  have hutf8 : s.toUTF8 = t.toUTF8 := by
    apply ByteArray.ext
    exact Array.toList_inj.1 h
  exact String.toByteArray_inj.1 hutf8

/-- The loop of `bytes.ReplaceAll` for a text `old` that is not empty; `skip` bytes still belong to an
occurrence that was replaced. -/
def replaceFrom (old new : Bytes) : Nat → Bytes → Bytes
  | _, [] => []
  | skip + 1, _ :: s => replaceFrom old new skip s
  | 0, b :: s =>
    if old.isPrefixOf (b :: s) then new ++ replaceFrom old new (old.length - 1) s
    else b :: replaceFrom old new 0 s

/-- `bytes.ReplaceAll`. -/
def replaceAll (s old new : Bytes) : Bytes := replaceFrom old new 0 s

/-- Nothing is replaced in a part without the first byte of `old`. -/
theorem replaceAll_append {text s old new : Bytes} {b : UInt8} (hold : old.head? = some b)
    (htext : b ∉ text) : replaceAll (text ++ s) old new = text ++ replaceAll s old new := by
  unfold replaceAll
  induction text with
  | nil => rfl
  | cons c text ih =>
    have hc : b ≠ c := fun h => htext (h ▸ List.mem_cons_self)
    have hnot : old.isPrefixOf (c :: (text ++ s)) = false := by
      cases old with
      | nil => cases hold
      | cons d old =>
        have hd : d = b := by simpa using hold
        simp [List.isPrefixOf, hd, hc]
    rw [List.cons_append, replaceFrom, if_neg (by simp [hnot]),
      ih fun h => htext (List.mem_cons_of_mem _ h)]
    rfl

theorem replaceAll_of_not_mem {s old new : Bytes} {b : UInt8} (hold : old.head? = some b)
    (hs : b ∉ s) : replaceAll s old new = s := by
  have happend := @replaceAll_append s [] old new b hold hs
  rwa [List.append_nil, show replaceAll [] old new = [] from rfl, List.append_nil] at happend

/-- Replacing a single byte. -/
theorem replaceAll_singleton (s new : Bytes) (b : UInt8) :
    replaceAll s [b] new = s.flatMap fun c => if c = b then new else [c] := by
  unfold replaceAll
  induction s with
  | nil => rfl
  | cons c s ih =>
    rw [List.flatMap_cons, ← ih]
    by_cases hc : c = b
    · simp [replaceFrom, hc]
    · have hc' : b ≠ c := fun h => hc h.symm
      simp [replaceFrom, List.isPrefixOf, hc, hc']

/-- The characters of `unicode.IsSpace`, in UTF-8. -/
def spaces : List Bytes :=
  [[0x09], [0x0a], [0x0b], [0x0c], [0x0d], [0x20], [0xc2, 0x85], [0xc2, 0xa0], [0xe1, 0x9a, 0x80],
    [0xe2, 0x80, 0x80], [0xe2, 0x80, 0x81], [0xe2, 0x80, 0x82], [0xe2, 0x80, 0x83],
    [0xe2, 0x80, 0x84], [0xe2, 0x80, 0x85], [0xe2, 0x80, 0x86], [0xe2, 0x80, 0x87],
    [0xe2, 0x80, 0x88], [0xe2, 0x80, 0x89], [0xe2, 0x80, 0x8a], [0xe2, 0x80, 0xa8],
    [0xe2, 0x80, 0xa9], [0xe2, 0x80, 0xaf], [0xe2, 0x81, 0x9f], [0xe3, 0x80, 0x80]]

/-- Drop any of the texts `cutset` from the front, as often as they come; `skip` bytes still belong to
one that is dropped. -/
def trimFront (cutset : List Bytes) : Nat → Bytes → Bytes
  | _, [] => []
  | skip + 1, _ :: s => trimFront cutset skip s
  | 0, b :: s =>
    match cutset.find? fun w => w.isPrefixOf (b :: s) with
    | some w => trimFront cutset (w.length - 1) s
    | none => b :: s

/-- `strings.TrimSpace`. -/
def trimSpace (s : Bytes) : Bytes :=
  (trimFront (spaces.map List.reverse) 0 (trimFront spaces 0 s).reverse).reverse

theorem trimFront_suffix (cutset : List Bytes) (skip : Nat) (s : Bytes) :
    trimFront cutset skip s <:+ s := by
  induction s generalizing skip with
  | nil => exact List.suffix_rfl
  | cons b s ih =>
    cases skip with
    | succ skip => exact (ih skip).trans (List.suffix_cons b s)
    | zero =>
      rw [trimFront]
      split
      · exact (ih _).trans (List.suffix_cons b s)
      · exact List.suffix_rfl

/-- Only the front of the text decides whether something is trimmed there. -/
theorem trimFront_eq_self {cutset : List Bytes} {s : Bytes}
    (h : ∀ w ∈ cutset, w.isPrefixOf s = false) : trimFront cutset 0 s = s := by
  cases s with
  | nil => rfl
  | cons b s =>
    have hnone : cutset.find? (fun w => w.isPrefixOf (b :: s)) = none :=
      List.find?_eq_none.2 fun w hw => by simp [h w hw]
    rw [trimFront, hnone]

/-- What `trimSpace` leaves stands at the front of the text without its leading space. -/
theorem trimSpace_isPrefix (s : Bytes) : trimSpace s <+: trimFront spaces 0 s := by
  have hsuffix := trimFront_suffix (spaces.map List.reverse) 0 (trimFront spaces 0 s).reverse
  simpa [trimSpace] using List.reverse_prefix.2 hsuffix

/-- `strings.Cut` at a separator of one byte. -/
def cutByte (s : Bytes) (sep : UInt8) : Option (Bytes × Bytes) :=
  if sep ∈ s then some (s.takeWhile (· != sep), (s.dropWhile (· != sep)).tail) else none

/-- `strings.ToLower`, as far as the result is ASCII: besides the capital letters, two characters have
a small ASCII letter. -/
def lower : Bytes → Bytes
  | [] => []
  | 0xc4 :: 0xb0 :: s => 0x69 :: lower s
  | 0xe2 :: 0x84 :: 0xaa :: s => 0x6b :: lower s
  | b :: s => (if 0x41 ≤ b ∧ b ≤ 0x5a then b + 0x20 else b) :: lower s

/-- The verb `%d`, for a number that is not negative. -/
def decimal (n : Nat) : Bytes := (Nat.toDigits 10 n).map fun c => .ofNat c.toNat

theorem decimal_digit {n : Nat} {b : UInt8} (hb : b ∈ decimal n) : 0x30 ≤ b ∧ b ≤ 0x39 := by
  rcases List.mem_map.1 hb with ⟨c, hc, rfl⟩
  have hdigit := Nat.isDigit_of_mem_toDigits (by decide) (by decide) hc
  simp only [Char.isDigit, Bool.and_eq_true, decide_eq_true_eq, ge_iff_le] at hdigit
  have hlo : 48 ≤ c.toNat := hdigit.1
  have hhi : c.toNat ≤ 57 := hdigit.2
  rw [UInt8.le_iff_toNat_le, UInt8.le_iff_toNat_le, UInt8.toNat_ofNat']
  constructor
  · show 48 ≤ c.toNat % 256
    omega
  · show c.toNat % 256 ≤ 57
    omega

/-- One step of `path.Clean`, over the elements kept so far, the last one first. -/
def cleanStep (rooted : Bool) (kept : List Bytes) (part : Bytes) : List Bytes :=
  if part = [] ∨ part = bytes "." then kept
  else if part = bytes ".." then
    match kept with
    | [] => if rooted then [] else [part]
    | last :: before => if last = bytes ".." then part :: kept else before
  else part :: kept

/-- `path.Clean`. -/
def pathClean (p : Bytes) : Bytes :=
  let rooted := p.head? = some 0x2f
  let parts := (p.splitOn 0x2f).foldl (cleanStep rooted) []
  let joined := List.intercalate [0x2f] parts.reverse
  if rooted then 0x2f :: joined
  else if joined = [] then bytes "."
  else joined

/-- `path.Dir`: what is left without the last element, cleaned. -/
def pathDir (p : Bytes) : Bytes := pathClean (p.reverse.dropWhile (· != 0x2f)).reverse

theorem mem_cleanStep {rooted : Bool} {kept : List Bytes} {part k : Bytes}
    (h : k ∈ cleanStep rooted kept part) : k ∈ kept ∨ k = part := by
  unfold cleanStep at h
  split at h
  · exact .inl h
  · split at h
    · split at h
      · split at h
        · cases h
        · exact .inr (List.mem_singleton.1 h)
      · split at h
        · exact (List.mem_cons.1 h).symm
        · exact .inl (List.mem_cons_of_mem _ h)
    · exact (List.mem_cons.1 h).symm

theorem mem_foldl_cleanStep {rooted : Bool} {parts kept : List Bytes} {k : Bytes}
    (h : k ∈ parts.foldl (cleanStep rooted) kept) : k ∈ kept ∨ k ∈ parts := by
  induction parts generalizing kept with
  | nil => exact .inl h
  | cons part parts ih =>
    rcases ih h with hk | hk
    · rcases mem_cleanStep hk with hk | rfl
      · exact .inl hk
      · exact .inr List.mem_cons_self
    · exact .inr (List.mem_cons_of_mem _ hk)

theorem mem_intercalate {α : Type} {sep : List α} {ls : List (List α)} {b : α} :
    b ∈ List.intercalate sep ls → b ∈ sep ∨ ∃ l ∈ ls, b ∈ l := by
  induction ls with
  | nil => simp [List.intercalate]
  | cons l ls ih =>
    intro h
    cases ls with
    | nil => exact .inr ⟨l, List.mem_cons_self, by simpa [List.intercalate] using h⟩
    | cons l' ls =>
      simp only [List.intercalate, List.intersperse_cons_cons, List.flatten_cons, List.mem_append] at h ih
      rcases h with h | h | h
      · exact .inr ⟨l, List.mem_cons_self, h⟩
      · exact .inl h
      · rcases ih h with h | ⟨m, hm, h⟩
        · exact .inl h
        · exact .inr ⟨m, List.mem_cons_of_mem _ hm, h⟩

theorem mem_intercalate_of_mem {sep l : Bytes} {ls : List Bytes} {b : UInt8} (hl : l ∈ ls)
    (hb : b ∈ l) : b ∈ List.intercalate sep ls := by
  induction ls with
  | nil => cases hl
  | cons l' ls ih =>
    cases ls with
    | nil =>
      rw [List.mem_singleton.1 hl] at hb
      simpa [List.intercalate] using hb
    | cons l'' ls =>
      simp only [List.intercalate, List.intersperse_cons_cons, List.flatten_cons, List.mem_append] at ih ⊢
      rcases List.mem_cons.1 hl with rfl | hl
      · exact .inl hb
      · exact .inr (.inr (ih hl))

/-- A directory has no other bytes than its path, but for dots and slashes. -/
theorem mem_pathDir {p : Bytes} {b : UInt8} (h : b ∈ pathDir p) : b ∈ p ∨ b = 0x2e ∨ b = 0x2f := by
  have hclean : ∀ q : Bytes, b ∈ pathClean q → b ∈ q ∨ b = 0x2e ∨ b = 0x2f := by
    intro q hq
    have hjoined : b ∈ List.intercalate [0x2f]
        ((q.splitOn 0x2f).foldl (cleanStep (q.head? = some 0x2f)) []).reverse →
        b ∈ q ∨ b = 0x2e ∨ b = 0x2f := by
      intro hj
      rcases mem_intercalate hj with hsep | ⟨k, hk, hbk⟩
      · exact .inr (.inr (List.mem_singleton.1 hsep))
      · rcases mem_foldl_cleanStep (List.mem_reverse.1 hk) with hk | hk
        · cases hk
        · refine .inl ?_
          rw [← @List.intercalate_splitOn _ q _ _ 0x2f]
          exact mem_intercalate_of_mem hk hbk
    unfold pathClean at hq
    dsimp only at hq
    split at hq
    · rcases List.mem_cons.1 hq with rfl | hq
      · exact .inr (.inr rfl)
      · exact hjoined hq
    · split at hq
      · exact .inr (.inl (List.mem_singleton.1 hq))
      · exact hjoined hq
  rcases hclean _ h with h | h
  · exact .inl (List.mem_reverse.1 (List.dropWhile_subset _ (List.mem_reverse.1 h)))
  · exact .inr h

theorem intercalate_concat {α : Type} {sep : List α} {ls : List (List α)} (hne : ls ≠ [])
    (l : List α) : List.intercalate sep (ls ++ [l]) = List.intercalate sep ls ++ (sep ++ l) := by
  induction ls with
  | nil => exact absurd rfl hne
  | cons a ls ih =>
    by_cases hls : ls = []
    · subst hls
      simp [List.intercalate]
    · rw [List.cons_append, List.intercalate_cons_of_ne_nil (by simp), ih hls,
        List.intercalate_cons_of_ne_nil hls]
      simp

/-- An element that `path.Clean` keeps. -/
def IsElement (part : Bytes) : Prop :=
  part ≠ [] ∧ part ≠ bytes "." ∧ part ≠ bytes ".." ∧ 0x2f ∉ part

theorem foldl_cleanStep_elements {rooted : Bool} {parts kept : List Bytes}
    (h : ∀ part ∈ parts, IsElement part) :
    parts.foldl (cleanStep rooted) kept = parts.reverse ++ kept := by
  induction parts generalizing kept with
  | nil => rfl
  | cons part parts ih =>
    obtain ⟨hempty, hdot, hparent, -⟩ := h part List.mem_cons_self
    have hstep : cleanStep rooted kept part = part :: kept := by
      simp [cleanStep, hempty, hdot, hparent]
    rw [List.foldl_cons, hstep, ih fun p hp => h p (List.mem_cons_of_mem _ hp)]
    simp

/-- What `path.Dir` leaves of a path before it cleans it. -/
theorem cut_last {dir last : Bytes} (hlast : 0x2f ∉ last) :
    ((dir ++ 0x2f :: last).reverse.dropWhile (· != 0x2f)).reverse = dir ++ [0x2f] := by
  have hdrop : last.reverse.dropWhile (· != 0x2f) = [] := by
    refine List.dropWhile_eq_nil_iff.2 fun b hb => ?_
    have hne : b ≠ 0x2f := fun heq => hlast (heq ▸ List.mem_reverse.1 hb)
    simpa using hne
  simp [List.dropWhile_append, hdrop]

/-- The directory of an absolute path that is clean already. -/
theorem pathDir_elements {parts : List Bytes} {last : Bytes} (hparts : ∀ part ∈ parts, IsElement part)
    (hlast : 0x2f ∉ last) :
    pathDir (List.intercalate [0x2f] ([] :: parts ++ [last])) = 0x2f :: List.intercalate [0x2f] parts := by
  have hdir : List.intercalate [0x2f] ([] :: parts) ++ [(0x2f : UInt8)] =
      List.intercalate [0x2f] ([] :: parts ++ [[]]) := by
    rw [intercalate_concat (List.cons_ne_nil _ _), List.append_nil]
  have hsplit : (List.intercalate [(0x2f : UInt8)] ([] :: parts ++ [[]])).splitOn 0x2f =
      [] :: parts ++ [[]] := by
    refine List.splitOn_intercalate 0x2f ?_ (by simp)
    simp only [List.cons_append, List.forall_mem_cons, List.forall_mem_append, List.not_mem_nil]
    exact ⟨not_false, fun part hpart => (hparts part hpart).2.2.2, not_false, nofun⟩
  have hrooted : (List.intercalate [(0x2f : UInt8)] ([] :: parts ++ [[]])).head? = some 0x2f := by
    cases parts <;> simp [List.intercalate]
  have hfold : ([] :: parts ++ [[]]).foldl (cleanStep true) [] = parts.reverse := by
    have hkept := @foldl_cleanStep_elements true parts [] hparts
    simp [List.foldl_append, cleanStep, hkept]
  rw [intercalate_concat (List.cons_ne_nil _ _), pathDir, List.singleton_append, cut_last hlast, hdir, pathClean]
  simp only [hrooted, hsplit, decide_true, hfold, List.reverse_reverse, if_true]

/-- `map[string]string`. -/
abbrev StrMap := List (String × String)

/-- `m[key]`, with the zero value for a missing key. -/
def StrMap.get (m : StrMap) (key : String) : String := (m.lookup key).getD ""

/-- `m[key] = value`. -/
def StrMap.set (m : StrMap) (key value : String) : StrMap :=
  (key, value) :: m.filter fun e => e.1 != key

theorem StrMap.lookup_set_self (m : StrMap) (key value : String) :
    (m.set key value).lookup key = some value := by
  simp [StrMap.set]

theorem StrMap.lookup_set_ne (m : StrMap) {key k : String} (value : String) (h : k ≠ key) :
    (m.set key value).lookup k = m.lookup k := by
  have hk : (k == key) = false := by simpa using h
  rw [StrMap.set, List.lookup_cons, hk]
  induction m with
  | nil => rfl
  | cons e m ih =>
    by_cases he : e.1 = key
    · have hke : (k == e.1) = false := by simpa [he] using h
      have hskip : (e :: m).filter (fun e => e.1 != key) = m.filter fun e => e.1 != key := by
        simp [he]
      rw [hskip, List.lookup_cons, hke]
      exact ih
    · have hkeep : (e :: m).filter (fun e => e.1 != key) = e :: m.filter fun e => e.1 != key := by
        simp [he]
      rw [hkeep, List.lookup_cons, List.lookup_cons]
      cases k == e.1
      · exact ih
      · rfl

/-- `strings.ToLower`. -/
def toLower (s : String) : String := String.ofList (s.toList.map Char.toLower)

/-- `strings.EqualFold`, for a text `t` of ASCII letters that no other letter folds to. -/
def equalFold (s t : String) : Bool := toLower s == toLower t

/-- `strings.HasPrefix`. -/
def hasPrefix (s p : String) : Bool := p.toList.isPrefixOf s.toList

/-- `strings.TrimPrefix`. -/
def trimPrefix (s p : String) : String :=
  if hasPrefix s p then String.ofList (s.toList.drop p.length) else s

/-- `strings.Cut` at a one-character separator: the text before and after its first occurrence. -/
def cut (s : String) (sep : Char) : Option (String × String) :=
  match s.toList.span (· != sep) with
  | (before, _ :: after) => some (String.ofList before, String.ofList after)
  | (_, []) => none

private def hexDigit (n : Nat) : Char :=
  if n < 10 then Char.ofNat (48 + n) else Char.ofNat (87 + n)

private def quoteChar (c : Char) : List Char :=
  if c = '"' then ['\\', '"']
  else if c = '\\' then ['\\', '\\']
  else if c = '\n' then ['\\', 'n']
  else if c = '\r' then ['\\', 'r']
  else if c = '\t' then ['\\', 't']
  else if c.toNat = 7 then ['\\', 'a']
  else if c.toNat = 8 then ['\\', 'b']
  else if c.toNat = 11 then ['\\', 'v']
  else if c.toNat = 12 then ['\\', 'f']
  else if c.toNat < 32 ∨ c.toNat = 127 then
    ['\\', 'x', hexDigit (c.toNat / 16), hexDigit (c.toNat % 16)]
  else [c]

/-- The verb `%q` of `fmt`; characters outside ASCII are taken to be printable. -/
def quote (s : String) : String :=
  String.ofList ('"' :: s.toList.flatMap quoteChar ++ ['"'])

/-- The four or eight hexadecimal digits of a code point. -/
private def hexPadded (width n : Nat) : List Char :=
  (List.range width).reverse.map fun i => hexDigit (n / 16 ^ i % 16)

/-- `strconv.Quote`, which `%q` stands for, with the table of printable characters. -/
def quoteWith (isPrint : Char → Bool) (s : String) : String :=
  String.ofList ('"' :: s.toList.flatMap (fun c =>
    if c = '"' ∨ c = '\\' ∨ c.toNat < 128 then quoteChar c
    else if isPrint c then [c]
    else if c.toNat < 0x10000 then '\\' :: 'u' :: hexPadded 4 c.toNat
    else '\\' :: 'U' :: hexPadded 8 c.toNat) ++ ['"'])

/-- Printable ASCII text is quoted as it is, unless it has quotes or backslashes. -/
theorem quoteWith_ascii {isPrint : Char → Bool} {cs : List Char}
    (h : ∀ c ∈ cs, 32 ≤ c.toNat ∧ c.toNat < 127 ∧ c ≠ '"' ∧ c ≠ '\\') :
    quoteWith isPrint (String.ofList cs) = String.ofList ('"' :: cs ++ ['"']) := by
  have hflat : (cs.flatMap fun c =>
      if c = '"' ∨ c = '\\' ∨ c.toNat < 128 then quoteChar c
      else if isPrint c then [c]
      else if c.toNat < 0x10000 then '\\' :: 'u' :: hexPadded 4 c.toNat
      else '\\' :: 'U' :: hexPadded 8 c.toNat) = cs := by
    induction cs with
    | nil => rfl
    | cons c cs ih =>
      obtain ⟨hlo, hhi, hquote, hslash⟩ := h c List.mem_cons_self
      have hchar : quoteChar c = [c] := by
        have hn : c ≠ '\n' := by rintro rfl; exact absurd hlo (by decide)
        have hr : c ≠ '\r' := by rintro rfl; exact absurd hlo (by decide)
        have ht : c ≠ '\t' := by rintro rfl; exact absurd hlo (by decide)
        rw [quoteChar, if_neg hquote, if_neg hslash, if_neg hn, if_neg hr, if_neg ht, if_neg (by omega),
          if_neg (by omega), if_neg (by omega), if_neg (by omega), if_neg (by omega)]
      rw [List.flatMap_cons, if_pos (.inr (.inr (by omega))), hchar,
        ih fun c hc => h c (List.mem_cons_of_mem _ hc)]
      rfl
  rw [quoteWith, String.toList_ofList, hflat]

/-! ## Taking texts apart -/

/-- A text that was joined at a separator is cut there. -/
theorem cut_append {s t sep : String} {c : Char} (hsep : sep.toList = [c]) (hs : c ∉ s.toList) :
    cut (s ++ sep ++ t) c = some (s, t) := by
  have hall : ∀ a ∈ s.toList, (a != c) = true := fun a ha => by
    simpa using fun heq : a = c => hs (heq ▸ ha)
  have hspan : (s ++ sep ++ t).toList.span (· != c) = (s.toList, c :: t.toList) := by
    rw [List.span_eq_takeWhile_dropWhile, String.toList_append, String.toList_append, hsep,
      List.append_assoc, List.singleton_append, List.takeWhile_append_of_pos hall,
      List.dropWhile_append_of_pos hall]
    simp
  rw [cut, hspan]
  simp

/-- Texts that agree up to the first separator on either side agree in both parts. -/
theorem cut_inj {α : Type} {c : α} {x x' z z' : List α} (hx : c ∉ x) (hx' : c ∉ x')
    (h : x ++ c :: z = x' ++ c :: z') : x = x' ∧ z = z' := by
  induction x generalizing x' with
  | nil =>
    cases x' with
    | nil => exact ⟨rfl, (List.cons.inj h).2⟩
    | cons b x' => exact absurd ((List.cons.inj h).1 ▸ List.mem_cons_self) hx'
  | cons a x ih =>
    cases x' with
    | nil => exact absurd ((List.cons.inj h).1 ▸ List.mem_cons_self) hx
    | cons b x' =>
      rcases List.cons.inj h with ⟨rfl, hrest⟩
      rcases ih (fun hc => hx (List.mem_cons_of_mem _ hc)) (fun hc => hx' (List.mem_cons_of_mem _ hc))
        hrest with ⟨rfl, rfl⟩
      exact ⟨rfl, rfl⟩

theorem text_cut_inj {s s' t t' sep : String} {c : Char} (hsep : sep.toList = [c]) (hs : c ∉ s.toList)
    (hs' : c ∉ s'.toList) (h : s ++ sep ++ t = s' ++ sep ++ t') : s = s' ∧ t = t' := by
  have hlists := congrArg String.toList h
  simp only [String.toList_append, hsep, List.append_assoc, List.singleton_append] at hlists
  rcases cut_inj hs hs' hlists with ⟨heq, heq'⟩
  exact ⟨String.toList_injective heq, String.toList_injective heq'⟩

/-- The same for the last separator. -/
theorem text_cutLast_inj {s s' t t' sep : String} {c : Char} (hsep : sep.toList = [c])
    (ht : c ∉ t.toList) (ht' : c ∉ t'.toList) (h : s ++ sep ++ t = s' ++ sep ++ t') :
    s = s' ∧ t = t' := by
  have hlists := congrArg (fun s => s.toList.reverse) h
  simp only [String.toList_append, hsep, List.reverse_append, List.append_assoc, List.singleton_append,
    List.reverse_cons] at hlists
  have hrev : c ∉ t.toList.reverse := by simpa using ht
  rcases cut_inj hrev (by simpa using ht') hlists with ⟨heq, heq'⟩
  exact ⟨String.toList_injective (List.reverse_injective heq'),
    String.toList_injective (List.reverse_injective heq)⟩

/-- A number is written in digits, after a sign if it is negative. -/
theorem mem_toString_int {n : Int} {c : Char} (h : c ∈ (toString n).toList) :
    c.isDigit = true ∨ c = '-' := by
  have hnat : ∀ m : Nat, c ∈ m.repr.toList → c.isDigit = true := by
    intro m hm
    rw [Nat.toList_repr] at hm
    exact Nat.isDigit_of_mem_toDigits (by decide) (by decide) hm
  have h : c ∈ n.repr.toList := h
  rw [Int.repr_eq_if] at h
  split at h
  · exact .inl (hnat _ h)
  · rw [String.toList_append, List.mem_append] at h
    rcases h with hsign | hdigits
    · exact .inr (by simpa using hsign)
    · exact .inl (hnat _ hdigits)

/-! ## Lines -/

/-- Only the newline itself has the byte of a newline in its encoding. -/
theorem newline_mem_of_bytes {s : String} (h : 0x0a ∈ bytes s) : '\n' ∈ s.toList := by
  have hs : bytes s = s.toList.flatMap String.utf8EncodeChar := by
    rw [bytes, String.toUTF8, ← String.utf8Encode_toList]
    simp [List.utf8Encode]
  have hbyte : ∀ n, n < 256 → (0x0a : UInt8) = UInt8.ofNat n → n = 10 := by
    intro n hn heq
    have hnat := congrArg UInt8.toNat heq
    rw [UInt8.toNat_ofNat', Nat.mod_eq_of_lt hn] at hnat
    exact hnat.symm
  rw [hs, List.mem_flatMap] at h
  obtain ⟨c, hc, hb⟩ := h
  have hval : c.val.toNat = 10 := by
    unfold String.utf8EncodeChar at hb
    dsimp only at hb
    split at hb
    · rw [List.mem_singleton] at hb
      exact hbyte _ (by omega) hb
    · -- every byte of a longer encoding is at least 128
      exfalso
      have hlong : ∃ n, 128 ≤ n ∧ n < 256 ∧ (0x0a : UInt8) = UInt8.ofNat n := by
        split at hb
        · simp only [List.mem_cons, List.not_mem_nil, or_false] at hb
          rcases hb with h | h <;> exact ⟨_, by omega, by omega, h⟩
        · split at hb
          · simp only [List.mem_cons, List.not_mem_nil, or_false] at hb
            rcases hb with h | h | h <;> exact ⟨_, by omega, by omega, h⟩
          · simp only [List.mem_cons, List.not_mem_nil, or_false] at hb
            rcases hb with h | h | h | h <;> exact ⟨_, by omega, by omega, h⟩
      obtain ⟨n, hlo, hhi, heq⟩ := hlong
      have := hbyte n hhi heq
      omega
  have hchar : c = '\n' := Char.ext (UInt32.toNat_inj.1 hval)
  rwa [hchar] at hc

/-- The lines of a text; the last one is what stands after the last newline. -/
def linesOf : Bytes → List Bytes
  | [] => [[]]
  | b :: s => if b = 0x0a then [] :: linesOf s else (linesOf s).modifyHead (b :: ·)

theorem linesOf_line {l : Bytes} (hl : 0x0a ∉ l) (s : Bytes) :
    linesOf (l ++ 0x0a :: s) = l :: linesOf s := by
  induction l with
  | nil => rw [List.nil_append, linesOf, if_pos rfl]
  | cons b l ih =>
    have hb : b ≠ 0x0a := fun h => hl (h ▸ List.mem_cons_self)
    rw [List.cons_append, linesOf, if_neg hb, ih fun h => hl (List.mem_cons_of_mem _ h)]
    rfl

/-- A text of complete lines. -/
theorem linesOf_flatMap {ls : List Bytes} (h : ∀ l ∈ ls, 0x0a ∉ l) :
    linesOf (ls.flatMap (· ++ [0x0a])) = ls ++ [[]] := by
  induction ls with
  | nil => rfl
  | cons l ls ih =>
    rw [List.flatMap_cons, List.append_assoc, List.singleton_append,
      linesOf_line (h l List.mem_cons_self), ih fun l' hl' => h l' (List.mem_cons_of_mem _ hl')]
    rfl

/-- `strings.CutPrefix`, if the prefix is there. -/
def cutPrefix (key line : Bytes) : Option Bytes :=
  if key.isPrefixOf line then some (line.drop key.length) else none

theorem cutPrefix_append (key s : Bytes) : cutPrefix key (key ++ s) = some s := by
  rw [cutPrefix, if_pos (List.isPrefixOf_iff_prefix.2 (List.prefix_append _ _)), List.drop_left]

/-- A line that starts otherwise. -/
theorem cutPrefix_of_start {key start : Bytes} (hkey : ¬ key <+: start) (hstart : ¬ start <+: key)
    (s : Bytes) : cutPrefix key (start ++ s) = none := by
  refine if_neg fun hpre => ?_
  rcases List.prefix_or_prefix_of_prefix (List.isPrefixOf_iff_prefix.1 hpre) (List.prefix_append start s)
    with h | h
  · exact hkey h
  · exact hstart h

end Go
