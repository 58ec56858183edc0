import Mathlib.Tactic.Common

/-!
# Base64

The standard alphabet of RFC 4648 with padding. `decode` accepts what the usual decoders accept: the
bits of the last quantum that the padding leaves over may be anything.
-/

namespace Base64

/-- The padding character. -/
def pad : UInt8 := 0x3d

/-- The character of a six-bit number. -/
def digit (n : Nat) : UInt8 :=
  if n < 26 then .ofNat (n + 65)
  else if n < 52 then .ofNat (n + 71)
  else if n < 62 then .ofNat (n - 4)
  else if n = 62 then 0x2b
  else 0x2f

/-- The six-bit number of a character of the alphabet. -/
def value (c : UInt8) : Option Nat :=
  if 65 ≤ c ∧ c ≤ 90 then some (c.toNat - 65)
  else if 97 ≤ c ∧ c ≤ 122 then some (c.toNat - 71)
  else if 48 ≤ c ∧ c ≤ 57 then some (c.toNat + 4)
  else if c = 0x2b then some 62
  else if c = 0x2f then some 63
  else none

/-- Three bytes are four characters; one or two bytes that are left are padded. -/
def encode : List UInt8 → List UInt8
  | [] => []
  | [a] => [digit (a.toNat / 4), digit (a.toNat % 4 * 16), pad, pad]
  | [a, b] =>
    [digit (a.toNat / 4), digit (a.toNat % 4 * 16 + b.toNat / 16), digit (b.toNat % 16 * 4), pad]
  | a :: b :: c :: s =>
    digit (a.toNat / 4) :: digit (a.toNat % 4 * 16 + b.toNat / 16) ::
      digit (b.toNat % 16 * 4 + c.toNat / 64) :: digit (c.toNat % 64) :: encode s

/-- The three bytes of four six-bit numbers. -/
def first (x y : Nat) : UInt8 := .ofNat (x * 4 + y / 16)

/-- The second byte: what is left of the second number, and the upper bits of the third. -/
def second (y z : Nat) : UInt8 := .ofNat (y % 16 * 16 + z / 4)

/-- The third byte: what is left of the third number, and the fourth. -/
def third (z w : Nat) : UInt8 := .ofNat (z % 4 * 64 + w)

/-- Padding is read in the last quantum only. -/
def decode : List UInt8 → Option (List UInt8)
  | [] => some []
  | a :: b :: c :: d :: s => do
    let x ← value a
    let y ← value b
    if c = pad ∧ d = pad ∧ s = [] then return [first x y]
    let z ← value c
    if d = pad ∧ s = [] then return [first x y, second y z]
    let w ← value d
    let rest ← decode s
    return first x y :: second y z :: third z w :: rest
  | _ => none

/-- What `base64 -d` makes of a text: newlines do not count. -/
def decodeText (s : List UInt8) : Option (List UInt8) := decode (s.filter (· ≠ 0x0a))

/-! ## The alphabet -/

/-- The character of a number stands for it. -/
theorem value_digit {n : Nat} (h : n < 64) : value (digit n) = some n := by
  have hall : ∀ n : Fin 64, value (digit n) = some n.val := by decide
  exact hall ⟨n, h⟩

/-- Padding is not mistaken for a number. -/
theorem digit_ne_pad {n : Nat} (h : n < 64) : digit n ≠ pad := by
  intro hpad
  have hvalue := value_digit h
  rw [hpad] at hvalue
  exact absurd hvalue (by simp [value, pad])

/-- A character that an encoded text can have. -/
def InAlphabet (c : UInt8) : Prop := (value c).isSome ∨ c = pad

theorem inAlphabet_digit {n : Nat} (h : n < 64) : InAlphabet (digit n) :=
  .inl (by simp [value_digit h])

theorem inAlphabet_pad : InAlphabet pad := .inr rfl

/-- A character outside the alphabet does not occur in an encoded text: how a caller excludes newlines
and quotes. -/
theorem InAlphabet.ne {c d : UInt8} (h : InAlphabet c) (hd : value d = none) (hpad : d ≠ pad) :
    c ≠ d := by
  rintro rfl
  rcases h with h | h
  · simp [hd] at h
  · exact hpad h

/-- An encoded text stays within the alphabet. -/
theorem encode_inAlphabet (s : List UInt8) : ∀ c ∈ encode s, InAlphabet c := by
  induction s using encode.induct with
  | case1 => simp [encode]
  | case2 a =>
    have ha := a.toNat_lt
    simp only [encode, List.forall_mem_cons]
    exact ⟨inAlphabet_digit (by omega), inAlphabet_digit (by omega), inAlphabet_pad, inAlphabet_pad,
      List.forall_mem_nil _⟩
  | case3 a b =>
    have ha := a.toNat_lt
    have hb := b.toNat_lt
    simp only [encode, List.forall_mem_cons]
    exact ⟨inAlphabet_digit (by omega), inAlphabet_digit (by omega), inAlphabet_digit (by omega),
      inAlphabet_pad, List.forall_mem_nil _⟩
  | case4 a b c s ih =>
    have ha := a.toNat_lt
    have hb := b.toNat_lt
    have hc := c.toNat_lt
    simp only [encode, List.forall_mem_cons]
    exact ⟨inAlphabet_digit (by omega), inAlphabet_digit (by omega), inAlphabet_digit (by omega),
      inAlphabet_digit (by omega), ih⟩

/-! ## The round trip -/

/-- The bits that `encode` splits off are put together again. -/
theorem first_eq (a b : UInt8) : first (a.toNat / 4) (a.toNat % 4 * 16 + b.toNat / 16) = a := by
  have hb := b.toNat_lt
  rw [first, show a.toNat / 4 * 4 + (a.toNat % 4 * 16 + b.toNat / 16) / 16 = a.toNat by omega]
  exact UInt8.ofNat_toNat

theorem second_eq (a b c : UInt8) :
    second (a.toNat % 4 * 16 + b.toNat / 16) (b.toNat % 16 * 4 + c.toNat / 64) = b := by
  have hb := b.toNat_lt
  have hc := c.toNat_lt
  rw [second, show (a.toNat % 4 * 16 + b.toNat / 16) % 16 * 16 + (b.toNat % 16 * 4 + c.toNat / 64) / 4
    = b.toNat by omega]
  exact UInt8.ofNat_toNat

theorem third_eq (b c : UInt8) : third (b.toNat % 16 * 4 + c.toNat / 64) (c.toNat % 64) = c := by
  have hc := c.toNat_lt
  rw [third, show (b.toNat % 16 * 4 + c.toNat / 64) % 4 * 64 + c.toNat % 64 = c.toNat by omega]
  exact UInt8.ofNat_toNat

/-- The round trip. -/
theorem decode_encode (s : List UInt8) : decode (encode s) = some s := by
  induction s using encode.induct with
  | case1 => rfl
  | case2 a =>
    have ha := a.toNat_lt
    have hfirst := first_eq a 0
    simp only [UInt8.toNat_zero, Nat.zero_div, Nat.add_zero] at hfirst
    simp [encode, decode, value_digit (show a.toNat / 4 < 64 by omega),
      value_digit (show a.toNat % 4 * 16 < 64 by omega), hfirst]
  | case3 a b =>
    have ha := a.toNat_lt
    have hb := b.toNat_lt
    have hsecond := second_eq a b 0
    simp only [UInt8.toNat_zero, Nat.zero_div, Nat.add_zero] at hsecond
    have hz : b.toNat % 16 * 4 < 64 := by omega
    simp [encode, decode, value_digit (show a.toNat / 4 < 64 by omega),
      value_digit (show a.toNat % 4 * 16 + b.toNat / 16 < 64 by omega), value_digit hz,
      digit_ne_pad hz, first_eq, hsecond]
  | case4 a b c s ih =>
    have ha := a.toNat_lt
    have hb := b.toNat_lt
    have hc := c.toNat_lt
    have hz : b.toNat % 16 * 4 + c.toNat / 64 < 64 := by omega
    have hw : c.toNat % 64 < 64 := by omega
    simp [encode, decode, value_digit (show a.toNat / 4 < 64 by omega),
      value_digit (show a.toNat % 4 * 16 + b.toNat / 16 < 64 by omega), value_digit hz,
      value_digit hw, digit_ne_pad hz, digit_ne_pad hw, ih, first_eq, second_eq, third_eq]

end Base64
