import Mathlib.Algebra.Ring.Int.Defs
import VerdaCapi.Go.Text

/-!
# Go's `time` package, as far as RFC 3339 timestamps need it

A moment is a number of nanoseconds since the Unix epoch. `formatRFC3339` drops the fraction of a
second, as `Format(time.RFC3339)` does; `parseRFC3339` accepts the layout
`2006-01-02T15:04:05Z07:00`, with the hour in one or two digits and an optional fraction of a second,
which is what `time.Parse` accepts for it.

The layout has four places for the year. `parseRFC3339_formatRFC3339` says what is read back: the moment
to the second in the years 0 to 9999, and nothing in any other year.
-/

namespace Go

/-- Nanoseconds since the Unix epoch. -/
abbrev Time := Int

/-- `time.Second`. -/
def second : Int := 1000000000

/-- The number of days from the epoch to a date of the proleptic Gregorian calendar. -/
def daysFromCivil (y m d : Int) : Int :=
  let y := if m ≤ 2 then y - 1 else y
  let era := y.fdiv 400
  let yoe := y - era * 400
  let mp := (m + 9) % 12
  let doy := (153 * mp + 2) / 5 + d - 1
  let doe := yoe * 365 + yoe / 4 - yoe / 100 + doy
  era * 146097 + doe - 719468

/-- The date (year, month, day) of a day counted from the epoch. -/
def civilFromDays (z : Int) : Int × Int × Int :=
  let z := z + 719468
  let era := z.fdiv 146097
  let doe := z - era * 146097
  let yoe := (doe - doe / 1460 + doe / 36524 - doe / 146096) / 365
  let doy := doe - (365 * yoe + yoe / 4 - yoe / 100)
  let mp := (5 * doy + 2) / 153
  let d := doy - (153 * mp + 2) / 5 + 1
  let m := if mp < 10 then mp + 3 else mp - 9
  (if m ≤ 2 then yoe + era * 400 + 1 else yoe + era * 400, m, d)

/-- `t.UTC().Year()`. -/
def year (t : Time) : Int := (civilFromDays ((t.fdiv second).fdiv 86400)).1

/-- The moment without its fraction of a second. -/
def wholeSecond (t : Time) : Time := t.fdiv second * second

theorem lt_wholeSecond_add (t : Time) : t < wholeSecond t + second := by
  have hlt := Int.lt_ediv_add_one_mul_self t (by decide : 0 < second)
  rwa [Int.add_mul, Int.one_mul, ← Int.fdiv_eq_ediv_of_nonneg t (by decide : 0 ≤ second)] at hlt

/-- `appendInt`: the sign of `n` and its decimal digits, on at least `width` places. -/
def pad (width : Nat) (n : Int) : List Char :=
  let digits := Nat.toDigits 10 n.natAbs
  (if n < 0 then ['-'] else []) ++ List.replicate (width - digits.length) '0' ++ digits

/-- `t.UTC().Format(time.RFC3339)`. -/
def formatRFC3339 (t : Time) : String :=
  let secs := t.fdiv second
  let days := secs.fdiv 86400
  let rest := secs - days * 86400
  let (y, m, d) := civilFromDays days
  String.ofList (pad 4 y ++ ['-'] ++ pad 2 m ++ ['-'] ++ pad 2 d ++ ['T'] ++ pad 2 (rest / 3600) ++
    [':'] ++ pad 2 (rest / 60 % 60) ++ [':'] ++ pad 2 (rest % 60) ++ ['Z'])

private def digit? (c : Char) : Option Int :=
  if '0' ≤ c ∧ c ≤ '9' then some (c.toNat - 48) else none

/-- Read exactly `n` digits. -/
private def digits : Nat → List Char → Option (Int × List Char)
  | 0, cs => some (0, cs)
  | _ + 1, [] => none
  | n + 1, c :: cs => do
    let d ← digit? c
    let (rest, cs) ← digits n cs
    some (d * 10 ^ n + rest, cs)

private def literal (c : Char) : List Char → Option (List Char)
  | c' :: cs => if c' = c then some cs else none
  | [] => none

/-- An optional fraction of a second, in nanoseconds; digits past the ninth are dropped. -/
private def fraction : List Char → Option (Int × List Char)
  | c :: cs =>
    if c = '.' ∨ c = ',' then
      let ds := cs.takeWhile Char.isDigit
      if ds.isEmpty then none
      else
        let (v, _) := (digits 9 (ds.take 9 ++ List.replicate (9 - ds.length) '0')).getD (0, [])
        some (v, cs.dropWhile Char.isDigit)
    else some (0, c :: cs)
  | [] => some (0, [])

/-- The zone: `Z` or an offset `±hh:mm`, in seconds east of UTC. -/
private def zone : List Char → Option Int
  | ['Z'] => some 0
  | sign :: cs => do
    let (h, cs) ← digits 2 cs
    let cs ← literal ':' cs
    let (m, cs) ← digits 2 cs
    if h ≤ 24 ∧ m ≤ 60 ∧ cs.isEmpty then
      if sign = '+' then some (h * 3600 + m * 60)
      else if sign = '-' then some (-(h * 3600 + m * 60))
      else none
    else none
  | [] => none

private def daysIn (y m : Int) : Int :=
  if m = 2 then (if y % 4 = 0 ∧ (y % 100 ≠ 0 ∨ y % 400 = 0) then 29 else 28)
  else if m = 4 ∨ m = 6 ∨ m = 9 ∨ m = 11 then 30
  else 31

/-- `time.Parse(time.RFC3339, s)`. -/
def parseRFC3339 (s : String) : Option Time := do
  let (y, cs) ← digits 4 s.toList
  let cs ← literal '-' cs
  let (m, cs) ← digits 2 cs
  let cs ← literal '-' cs
  let (d, cs) ← digits 2 cs
  let cs ← literal 'T' cs
  let (hour, cs) ← (digits 2 cs).orElse fun _ => digits 1 cs
  let cs ← literal ':' cs
  let (min, cs) ← digits 2 cs
  let cs ← literal ':' cs
  let (sec, cs) ← digits 2 cs
  let (nanos, cs) ← fraction cs
  let offset ← zone cs
  if 1 ≤ m ∧ m ≤ 12 ∧ 1 ≤ d ∧ d ≤ daysIn y m ∧ hour ≤ 23 ∧ min ≤ 59 ∧ sec ≤ 59 then
    some ((daysFromCivil y m d * 86400 + hour * 3600 + min * 60 + sec - offset) * second + nanos)
  else none


/-! ## The calendar -/

/-- Day `doe` of an era of 400 years is day `n` of year `j` of the four-year cycle `k` of century `c`.
Only the last year of a cycle has a day 365, and in the last cycle only that of the last century. -/
private structure DayOfEra (doe c k j n : Int) : Prop where
  eq : doe = 36524 * c + 1461 * k + 365 * j + n
  century : 0 ≤ c ∧ c ≤ 3
  cycle : 0 ≤ k ∧ k ≤ 24
  year : 0 ≤ j ∧ j ≤ 3
  day : 0 ≤ n ∧ n ≤ 365
  leap : n = 365 → j = 3 ∧ (k = 24 → c = 3)

private theorem exists_dayOfEra {doe : Int} (h0 : 0 ≤ doe) (h1 : doe < 146097) :
    ∃ c k j n, DayOfEra doe c k j n := by
  obtain ⟨c, hc⟩ : ∃ c, c = min 3 (doe / 36524) := ⟨_, rfl⟩
  obtain ⟨k, hk⟩ : ∃ k, k = (doe - 36524 * c) / 1461 := ⟨_, rfl⟩
  obtain ⟨j, hj⟩ : ∃ j, j = min 3 ((doe - 36524 * c - 1461 * k) / 365) := ⟨_, rfl⟩
  have hc' : 0 ≤ doe - 36524 * c ∧ doe - 36524 * c ≤ 36524 ∧ (doe - 36524 * c = 36524 → c = 3) := by
    omega
  have hk' : 0 ≤ doe - 36524 * c - 1461 * k ∧ doe - 36524 * c - 1461 * k ≤ 1460 := by omega
  refine ⟨c, k, j, doe - 36524 * c - 1461 * k - 365 * j, ?_, ?_, ?_, ?_, ?_, ?_⟩ <;> omega

section

variable {doe c k j n : Int}

private theorem DayOfEra.century_eq (h : DayOfEra doe c k j n) :
    doe / 36524 - doe / 146096 = c := by
  obtain ⟨heq, hc, hk, hj, hn, hleap⟩ := h
  have hlo : 36524 * c ≤ doe := by omega
  by_cases hlast : doe = 146096
  · omega
  · have hhi : doe < 36524 * c + 36524 := by omega
    clear heq hk hj hn hleap
    omega

/-- The quotient by 1460 runs ahead of the cycles by a leap day at most. -/
private theorem DayOfEra.cycle_eq (h : DayOfEra doe c k j n) :
    ∃ ahead, doe / 1460 = 25 * c + k + ahead ∧ 0 ≤ n - ahead ∧ n - ahead ≤ 364 := by
  obtain ⟨heq, hc, hk, hj, hn, hleap⟩ := h
  refine ⟨(24 * c + k + 365 * j + n) / 1460, by omega, by omega, ?_⟩
  by_cases hlast : n = 365
  · have hj : j = 3 := (hleap hlast).1
    omega
  · omega

private theorem DayOfEra.yearOfEra_eq (h : DayOfEra doe c k j n) :
    (doe - doe / 1460 + doe / 36524 - doe / 146096) / 365 = 100 * c + 4 * k + j := by
  have hcent := h.century_eq
  obtain ⟨ahead, hcycle, hlo, hhi⟩ := h.cycle_eq
  have heq := h.eq
  clear h
  omega

end

/-- The date of a day, from its place in its era. -/
private theorem exists_civil (z : Int) : ∃ era c k j n,
    DayOfEra (z + 719468 - era * 146097) c k j n ∧
      civilFromDays z =
        (let mp := (5 * n + 2) / 153
         let m := if mp < 10 then mp + 3 else mp - 9
         let y := 100 * c + 4 * k + j + era * 400
         (if m ≤ 2 then y + 1 else y, m, n - (153 * mp + 2) / 5 + 1)) := by
  obtain ⟨era, hera⟩ : ∃ era, era = (z + 719468).fdiv 146097 := ⟨_, rfl⟩
  have hdiv : era = (z + 719468) / 146097 := by
    rw [hera, Int.fdiv_eq_ediv_of_nonneg _ (by decide)]
  obtain ⟨c, k, j, n, h⟩ := @exists_dayOfEra (z + 719468 - era * 146097) (by omega) (by omega)
  refine ⟨era, c, k, j, n, h, ?_⟩
  have hday : z + 719468 - era * 146097 -
      (365 * (100 * c + 4 * k + j) + (100 * c + 4 * k + j) / 4 - (100 * c + 4 * k + j) / 100) = n := by
    obtain ⟨heq, -, hk, hj, -, -⟩ := h
    omega
  simp only [civilFromDays, ← hera, h.yearOfEra_eq, hday]

/-- Taking a day apart into a date loses nothing. -/
private theorem daysFromCivil_civilFromDays (z : Int) :
    daysFromCivil (civilFromDays z).1 (civilFromDays z).2.1 (civilFromDays z).2.2 = z := by
  obtain ⟨era, c, k, j, n, h, hcivil⟩ := exists_civil z
  obtain ⟨heq, hc, hk, hj, hn, -⟩ := h
  rw [hcivil]
  obtain ⟨mp, hmp⟩ : ∃ mp, mp = (5 * n + 2) / 153 := ⟨_, rfl⟩
  obtain ⟨m, hm⟩ : ∃ m, m = if mp < 10 then mp + 3 else mp - 9 := ⟨_, rfl⟩
  have hback : (m + 9) % 12 = mp := by
    split at hm <;> omega
  have hyear : (if m ≤ 2 then
      (if m ≤ 2 then 100 * c + 4 * k + j + era * 400 + 1 else 100 * c + 4 * k + j + era * 400) - 1
      else (if m ≤ 2 then 100 * c + 4 * k + j + era * 400 + 1 else 100 * c + 4 * k + j + era * 400)) =
      100 * c + 4 * k + j + era * 400 := by
    split <;> omega
  simp only [daysFromCivil, ← hmp, ← hm, hyear, hback,
    Int.fdiv_eq_ediv_of_nonneg _ (by decide : (0 : Int) ≤ 400)]
  omega

/-- The date of a day is one that the calendar has. -/
private theorem civilFromDays_valid (z : Int) :
    1 ≤ (civilFromDays z).2.1 ∧ (civilFromDays z).2.1 ≤ 12 ∧ 1 ≤ (civilFromDays z).2.2 ∧
      (civilFromDays z).2.2 ≤ daysIn (civilFromDays z).1 (civilFromDays z).2.1 := by
  obtain ⟨era, c, k, j, n, h, hcivil⟩ := exists_civil z
  obtain ⟨-, hc, hk, hj, hn, hleap⟩ := h
  rw [hcivil]
  obtain ⟨mp, hmp⟩ : ∃ mp, mp = (5 * n + 2) / 153 := ⟨_, rfl⟩
  obtain ⟨m, hm⟩ : ∃ m, m = if mp < 10 then mp + 3 else mp - 9 := ⟨_, rfl⟩
  have hmonth : mp < 10 ∧ m = mp + 3 ∨ 10 ≤ mp ∧ m = mp - 9 := by
    split at hm <;> omega
  simp only [daysIn, ← hmp, ← hm]
  refine ⟨by omega, by omega, by omega, ?_⟩
  split_ifs <;> omega

/-! ## Numbers in texts -/

private theorem digit?_digitChar {r : Nat} (h : r < 10) : digit? (Nat.digitChar r) = some (r : Int) := by
  revert h
  revert r
  decide

private theorem digits_cons {n : Nat} {c : Char} {cs rest : List Char} {d v : Int}
    (hc : digit? c = some d) (h : digits n cs = some (v, rest)) :
    digits (n + 1) (c :: cs) = some (d * 10 ^ n + v, rest) := by
  simp [digits, hc, h]

private theorem digits_cons_inv {n : Nat} {c : Char} {cs rest : List Char} {v : Int}
    (h : digits (n + 1) (c :: cs) = some (v, rest)) :
    ∃ d w, digit? c = some d ∧ digits n cs = some (w, rest) ∧ v = d * 10 ^ n + w := by
  simp only [digits, Option.bind_eq_bind, Option.bind_eq_some_iff] at h
  obtain ⟨d, hd, ⟨w, rest'⟩, hw, heq⟩ := h
  cases heq
  exact ⟨d, w, hd, hw, rfl⟩

private theorem digits_drop {n : Nat} {cs rest : List Char} {v : Int} (h : digits n cs = some (v, rest)) :
    rest = cs.drop n := by
  induction n generalizing cs v with
  | zero => exact (congrArg Prod.snd (Option.some.inj h)).symm
  | succ n ih =>
    cases cs with
    | nil => cases h
    | cons c cs =>
      obtain ⟨d, w, -, hw, -⟩ := digits_cons_inv h
      exact ih hw

private theorem digits_append {n : Nat} {cs rest : List Char} {v : Int} (more : List Char)
    (h : digits n cs = some (v, rest)) : digits n (cs ++ more) = some (v, rest ++ more) := by
  induction n generalizing cs v with
  | zero =>
    cases h
    rfl
  | succ n ih =>
    cases cs with
    | nil => cases h
    | cons c cs =>
      obtain ⟨d, w, hd, hw, rfl⟩ := digits_cons_inv h
      exact digits_cons hd (ih hw)

/-- One digit more at the end. -/
private theorem digits_concat {n : Nat} {cs : List Char} {v d : Int} {c : Char}
    (h : digits n cs = some (v, [])) (hc : digit? c = some d) :
    digits (n + 1) (cs ++ [c]) = some (v * 10 + d, []) := by
  induction n generalizing cs v with
  | zero =>
    cases h
    simpa using digits_cons hc (rfl : digits 0 [] = some (0, []))
  | succ n ih =>
    cases cs with
    | nil => cases h
    | cons c₀ cs =>
      obtain ⟨d₀, w, hd₀, hw, rfl⟩ := digits_cons_inv h
      have hsum : d₀ * 10 ^ (n + 1) + (w * 10 + d) = (d₀ * 10 ^ n + w) * 10 + d := by
        rw [pow_succ, ← mul_assoc]
        omega
      rw [← hsum]
      exact digits_cons hd₀ (ih hw)

private theorem pad_natCast (width n : Nat) :
    pad width n = List.replicate (width - (Nat.toDigits 10 n).length) '0' ++ Nat.toDigits 10 n := by
  simp [pad]

/-- The last of at least two places. -/
private theorem pad_concat {width q r : Nat} (hr : r < 10) :
    pad (width + 2) ((10 * q + r : Nat) : Int) = pad (width + 1) q ++ [Nat.digitChar r] := by
  rw [pad_natCast, pad_natCast]
  by_cases hq : q = 0
  · subst hq
    rw [Nat.mul_zero, Nat.zero_add, Nat.toDigits_of_lt_base hr]
    simp [List.replicate_succ']
  · rw [← Nat.toDigits_append_toDigits (by decide) (Nat.pos_of_ne_zero hq) hr,
      Nat.toDigits_of_lt_base hr]
    simp

/-- A number that fits its places is read back. -/
private theorem digits_pad {width : Nat} {n : Int} (h0 : 0 ≤ n) (h : n < 10 ^ (width + 1))
    (rest : List Char) : digits (width + 1) (pad (width + 1) n ++ rest) = some (n, rest) := by
  obtain ⟨n, rfl⟩ := Int.eq_ofNat_of_zero_le h0
  have hread : digits (width + 1) (pad (width + 1) (n : Int)) = some ((n : Int), []) := by
    induction width generalizing n with
    | zero =>
      have hn : n < 10 := by omega
      rw [pad_natCast, Nat.toDigits_of_lt_base hn]
      simpa using digits_cons (digit?_digitChar hn) (rfl : digits 0 [] = some (0, []))
    | succ width ih =>
      have hlt : ((n / 10 : Nat) : Int) < 10 ^ (width + 1) := by
        rw [pow_succ] at h
        omega
      have hlast : n % 10 < 10 := Nat.mod_lt n (by decide)
      have hn : 10 * (n / 10) + n % 10 = n := Nat.div_add_mod n 10
      have hpad := @pad_concat width (n / 10) (n % 10) hlast
      rw [hn] at hpad
      rw [hpad, digits_concat (ih (n / 10) (by omega) hlt) (digit?_digitChar hlast)]
      congr 2
      omega
  exact digits_append rest hread

/-! ## Reading back a written timestamp -/

private theorem daysIn_le (y m : Int) : daysIn y m ≤ 31 := by
  unfold daysIn
  split_ifs <;> decide

/-- A year that does not have four digits is no year of the layout. -/
private theorem literal_of_year {y v : Int} {rest after : List Char} (hy : ¬ (0 ≤ y ∧ y ≤ 9999))
    (h : digits 4 (pad 4 y ++ rest) = some (v, after)) : literal '-' after = none := by
  by_cases hneg : y < 0
  · have hsign : pad 4 y ++ rest = '-' :: (pad 4 y ++ rest).tail := by simp [pad, hneg]
    rw [hsign] at h
    cases h
  · obtain ⟨n, rfl⟩ := Int.eq_ofNat_of_zero_le (not_lt.1 hneg)
    have hlen : 4 < (Nat.toDigits 10 n).length := by
      have hle := @Nat.length_toDigits_le_iff 10 n 4 (by decide) (by decide)
      omega
    have hpad : pad 4 (n : Int) = Nat.toDigits 10 n := by
      rw [pad_natCast, Nat.sub_eq_zero_of_le hlen.le]
      rfl
    -- The fifth digit stands where the layout has a hyphen.
    have hdrop := List.drop_eq_getElem_cons hlen
    have hdigit : ((Nat.toDigits 10 n)[4]).isDigit = true :=
      Nat.isDigit_of_mem_toDigits (by decide) (by decide) (List.getElem_mem hlen)
    have hne : (Nat.toDigits 10 n)[4] ≠ '-' := by
      intro heq
      rw [heq] at hdigit
      cases hdigit
    rw [digits_drop h, hpad, List.drop_append_of_le_length hlen.le, hdrop]
    exact if_neg hne

private theorem literal_cons (c : Char) (cs : List Char) : literal c (c :: cs) = some cs := if_pos rfl

private theorem bind_of_some {α β : Type} {x : Option α} {f : α → Option β} {a : α} {b : Option β}
    (hx : x = some a) (hf : f a = b) : (x >>= f) = b := by
  rw [hx]
  exact hf

private theorem bind_of_none {α β : Type} {x : Option α} {f : α → Option β} (hx : x = none) :
    (x >>= f) = none := by
  rw [hx]
  rfl

/-- A timestamp is read back to the second, as long as its year has four digits. -/
theorem parseRFC3339_formatRFC3339 (t : Time) :
    parseRFC3339 (formatRFC3339 t) =
      if 0 ≤ year t ∧ year t ≤ 9999 then some (wholeSecond t) else none := by
  obtain ⟨secs, hsecs⟩ : ∃ secs, secs = t.fdiv second := ⟨_, rfl⟩
  obtain ⟨days, hdays⟩ : ∃ days, days = secs.fdiv 86400 := ⟨_, rfl⟩
  obtain ⟨rest, hrest⟩ : ∃ rest, rest = secs - days * 86400 := ⟨_, rfl⟩
  obtain ⟨y, m, d, hcivil⟩ : ∃ y m d, civilFromDays days = (y, m, d) := ⟨_, _, _, rfl⟩
  have hyear : year t = y := by rw [year, ← hsecs, ← hdays, hcivil]
  have hdiv : days = secs / 86400 := by rw [hdays, Int.fdiv_eq_ediv_of_nonneg _ (by decide)]
  have hday : 0 ≤ rest ∧ rest < 86400 := by omega
  have hdate := civilFromDays_valid days
  have hback := daysFromCivil_civilFromDays days
  simp only [hcivil] at hdate hback
  have htext : (formatRFC3339 t).toList =
      pad 4 y ++ ('-' :: (pad 2 m ++ ('-' :: (pad 2 d ++ ('T' :: (pad 2 (rest / 3600) ++
        (':' :: (pad 2 (rest / 60 % 60) ++ (':' :: (pad 2 (rest % 60) ++ ['Z'])))))))))) := by
    simp only [formatRFC3339, ← hsecs, ← hdays, ← hrest, hcivil, String.toList_ofList, List.append_assoc,
      List.cons_append, List.nil_append]
  rw [hyear, parseRFC3339, htext]
  by_cases hy : 0 ≤ y ∧ y ≤ 9999
  · have hmonth := daysIn_le y m
    have hvalid : 1 ≤ m ∧ m ≤ 12 ∧ 1 ≤ d ∧ d ≤ daysIn y m ∧ rest / 3600 ≤ 23 ∧ rest / 60 % 60 ≤ 59 ∧
        rest % 60 ≤ 59 := by omega
    have hclock : days * 86400 + rest / 3600 * 3600 + rest / 60 % 60 * 60 + rest % 60 = secs := by omega
    rw [if_pos hy]
    refine bind_of_some (digits_pad hy.1 (by omega) _) ?_
    refine bind_of_some (literal_cons '-' _) ?_
    refine bind_of_some (digits_pad (by omega) (by omega) _) ?_
    refine bind_of_some (literal_cons '-' _) ?_
    refine bind_of_some (digits_pad (by omega) (by omega) _) ?_
    refine bind_of_some (literal_cons 'T' _) ?_
    refine bind_of_some (congrArg (fun hour => Option.orElse hour _) (digits_pad (by omega) (by omega) _)) ?_
    refine bind_of_some (literal_cons ':' _) ?_
    refine bind_of_some (digits_pad (by omega) (by omega) _) ?_
    refine bind_of_some (literal_cons ':' _) ?_
    refine bind_of_some (digits_pad (by omega) (by omega) _) ?_
    refine bind_of_some (rfl : fraction ['Z'] = some (0, ['Z'])) ?_
    refine bind_of_some (rfl : zone ['Z'] = some 0) ?_
    refine (if_pos hvalid).trans ?_
    rw [hback, hclock, sub_zero, add_zero, hsecs, wholeSecond]
  · rw [if_neg hy]
    cases hread : digits 4 (pad 4 y ++ _) with
    | none => rfl
    | some r => exact bind_of_some rfl (bind_of_none (literal_of_year hy hread))

end Go
