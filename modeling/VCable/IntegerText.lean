import Mathlib.Algebra.Order.Group.Unbundled.Int
import Mathlib.Tactic.Common

/-!
# Integers as text

Parsing of an integer in any radix up to sixteen with an optional sign and a
range check, decimal printing, and two-digit hexadecimal bytes.
-/

namespace IntegerText

/-- The value of a digit character in a radix. -/
def digitValue (radix : Nat) (character : Char) : Option Nat :=
  let value :=
    if '0' ≤ character ∧ character ≤ '9' then some (character.toNat - '0'.toNat)
    else if 'a' ≤ character ∧ character ≤ 'z' then some (character.toNat - 'a'.toNat + 10)
    else if 'A' ≤ character ∧ character ≤ 'Z' then some (character.toNat - 'A'.toNat + 10)
    else none
  value.filter (· < radix)

/-- The number that a text of digits continues a number to. -/
def digitsValue (radix : Nat) : Nat → List Char → Option Nat
  | total, [] => some total
  | total, character :: characters =>
      match digitValue radix character with
      | some digit => digitsValue radix (radix * total + digit) characters
      | none => none

/-- An unsigned number; the empty text is none. -/
def magnitude (radix : Nat) (characters : List Char) : Option Nat :=
  if characters = [] then none else digitsValue radix 0 characters

/-- The range check at the end of a parse. -/
def inRange (lowest highest value : Int) : Option Int :=
  if lowest ≤ value ∧ value ≤ highest then some value else none

/-- An integer between two bounds: an optional `+`, or an optional `-` where
the range has negative numbers, and then digits. -/
def parse (radix : Nat) (lowest highest : Int) : List Char → Option Int
  | '+' :: digits => (magnitude radix digits).bind fun value => inRange lowest highest value
  | '-' :: digits =>
      if lowest < 0 then
        (magnitude radix digits).bind fun value => inRange lowest highest (-value)
      else none
  | digits => (magnitude radix digits).bind fun value => inRange lowest highest value

section Decimal

theorem digitValue_of_isDigit {character : Char} (digit : character.isDigit = true) :
    digitValue 10 character = some (character.toNat - '0'.toNat) := by
  have bounds : '0' ≤ character ∧ character ≤ '9' := by
    simp only [Char.isDigit, Bool.and_eq_true, decide_eq_true_eq] at digit
    exact digit
  have small : character.toNat ≤ '9'.toNat := bounds.2
  have nine : '9'.toNat = 57 := rfl
  have zero : '0'.toNat = 48 := rfl
  rw [digitValue, if_pos bounds, Option.filter_some, if_pos]
  rw [decide_eq_true_eq]
  omega

theorem digitsValue_of_isDigit {characters : List Char}
    (digits : ∀ character ∈ characters, character.isDigit = true) (total : Nat) :
    digitsValue 10 total characters = some (Nat.ofDigitChars 10 characters total) := by
  induction characters generalizing total with
  | nil => simp [digitsValue]
  | cons character characters ih =>
      rw [digitsValue, digitValue_of_isDigit (digits character (by simp)), Nat.ofDigitChars_cons]
      exact ih (fun other otherMem => digits other (by simp [otherMem])) _

private theorem isDigit_of_mem {number : Nat} {character : Char}
    (member : character ∈ Nat.toDigits 10 number) : character.isDigit = true :=
  Nat.isDigit_of_mem_toDigits (by decide) (by decide) member

theorem magnitude_toDigits (number : Nat) :
    magnitude 10 (Nat.toDigits 10 number) = some number := by
  have nonempty : Nat.toDigits 10 number ≠ [] := by
    rw [← Nat.toList_repr]
    simp
  rw [magnitude, if_neg nonempty,
    digitsValue_of_isDigit (fun _ => isDigit_of_mem),
    Nat.ofDigitChars_ten_toDigits]

/-- An unsigned number starts with a digit, so neither sign branch takes it. -/
theorem parse_toDigits {lowest highest : Int} {number : Nat} :
    parse 10 lowest highest (Nat.toDigits 10 number) = inRange lowest highest number := by
  have found := magnitude_toDigits number
  have digits : ∀ character ∈ Nat.toDigits 10 number, character.isDigit = true :=
    fun _ => isDigit_of_mem
  generalize Nat.toDigits 10 number = characters at found digits
  unfold parse
  split
  · exact absurd (digits '+' (by simp)) (by decide)
  · exact absurd (digits '-' (by simp)) (by decide)
  · rw [found, Option.bind_some]

/-- A printed integer is parsed back in every range that holds it. -/
theorem parse_toString {lowest highest value : Int} (above : lowest ≤ value)
    (below : value ≤ highest) :
    parse 10 lowest highest (toString value).toList = some value := by
  rw [Int.toString_eq_repr, Int.repr_eq_if]
  split_ifs with sign
  · rw [Nat.toList_repr, parse_toDigits, Int.toNat_of_nonneg sign, inRange,
      if_pos ⟨above, below⟩]
  · have magnitudeEq : ((-value).toNat : Int) = -value := Int.toNat_of_nonneg (by omega)
    have negative : lowest < 0 := by omega
    rw [String.toList_append, Nat.toList_repr]
    change parse 10 lowest highest ('-' :: Nat.toDigits 10 (-value).toNat) = some value
    rw [parse, if_pos negative, magnitude_toDigits, Option.bind_some, magnitudeEq, neg_neg, inRange,
      if_pos ⟨above, below⟩]

theorem toString_characters {value : Int} {character : Char}
    (member : character ∈ (toString value).toList) :
    character.isDigit = true ∨ character = '-' := by
  rw [Int.toString_eq_repr, Int.repr_eq_if] at member
  split_ifs at member with sign
  · rw [Nat.toList_repr] at member
    exact Or.inl (isDigit_of_mem member)
  · rw [String.toList_append, Nat.toList_repr, List.mem_append] at member
    rcases member with dash | digit
    · exact Or.inr (by simpa using dash)
    · exact Or.inl (isDigit_of_mem digit)

theorem toString_ne_nil (value : Int) : (toString value).toList ≠ [] := by
  rw [Int.toString_eq_repr, Int.repr_eq_if]
  split_ifs <;> simp

end Decimal

section Hexadecimal

/-- An uppercase hexadecimal digit. -/
def hexDigit (value : Nat) : Char :=
  if value < 10 then Char.ofNat ('0'.toNat + value) else Char.ofNat ('A'.toNat + (value - 10))

/-- A byte as two uppercase hexadecimal digits. -/
def hexByte (byte : UInt8) : List Char :=
  [hexDigit (byte.toNat / 16), hexDigit (byte.toNat % 16)]

theorem hexDigit_spec : ∀ value < 16,
    digitValue 16 (hexDigit value) = some value ∧ hexDigit value ≠ '+' ∧ hexDigit value ≠ '-' ∧
      (hexDigit value).val ≤ 0x7F := by
  decide

theorem parse_hexByte (byte : UInt8) : parse 16 0 255 (hexByte byte) = some (byte.toNat : Int) := by
  have small : byte.toNat < 256 := byte.toNat_lt
  obtain ⟨high, notPlus, notMinus, _⟩ := hexDigit_spec (byte.toNat / 16) (by omega)
  obtain ⟨low, _⟩ := hexDigit_spec (byte.toNat % 16) (by omega)
  have value : 16 * (byte.toNat / 16) + byte.toNat % 16 = byte.toNat := Nat.div_add_mod _ _
  have digits : magnitude 16 (hexByte byte) = some byte.toNat := by
    simp [magnitude, hexByte, digitsValue, high, low, value]
  unfold parse
  split
  · rename_i first
    exact absurd (List.cons.inj first).1 notPlus
  · rename_i first
    exact absurd (List.cons.inj first).1 notMinus
  · rw [digits, Option.bind_some, inRange, if_pos (by omega)]

end Hexadecimal

end IntegerText
