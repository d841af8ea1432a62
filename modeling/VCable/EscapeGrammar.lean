import VCable.Protocol

/-!
# What `unescape` accepts

The grammar of escaped texts: an escape is a percent sign with two hexadecimal
digits, and the decoded bytes are UTF-8.  The digits of an escape go through an
integer parser that also takes a sign, so `unescape` follows the grammar except
where a `+` stands for the first digit.
-/

namespace VCable

open Utf8Text

/-! ## The grammar -/

/-- The value of a hexadecimal digit. -/
def hexDigitValue (byte : UInt8) : Option Nat :=
  if 48 ≤ byte ∧ byte ≤ 57 then some (byte.toNat - 48)
  else if 65 ≤ byte ∧ byte ≤ 70 then some (byte.toNat - 55)
  else if 97 ≤ byte ∧ byte ≤ 102 then some (byte.toNat - 87)
  else none

/-- The byte that two hexadecimal digits denote. -/
def hexPair (high low : UInt8) : Option UInt8 :=
  match hexDigitValue high, hexDigitValue low with
  | some first, some second => some (UInt8.ofNat (16 * first + second))
  | _, _ => none

/-- Two digits of which the first may be a `+`, which counts as a zero. -/
def plusPair (high low : UInt8) : Option UInt8 :=
  if high = 43 then hexPair 48 low else hexPair high low

/-- The bytes are decoded by copying all but the escapes, for a given reading
of their two digits. -/
inductive Unescapes (digits : UInt8 → UInt8 → Option UInt8) : List UInt8 → List UInt8 → Prop
  | done : Unescapes digits [] []
  | copied {byte : UInt8} {rest decoded : List UInt8} (plain : byte ≠ 37)
      (follows : Unescapes digits rest decoded) :
      Unescapes digits (byte :: rest) (byte :: decoded)
  | escaped {high low value : UInt8} {rest decoded : List UInt8}
      (denotes : digits high low = some value) (follows : Unescapes digits rest decoded) :
      Unescapes digits (37 :: high :: low :: rest) (value :: decoded)

/-- The two bytes after the percent sign of each escape. -/
def escapes : List UInt8 → List (UInt8 × UInt8)
  | [] => []
  | byte :: rest =>
      if byte ≠ 37 then escapes rest
      else
        match rest with
        | high :: low :: rest => (high, low) :: escapes rest
        | _ => []

section Grammar

variable {digits : UInt8 → UInt8 → Option UInt8} {byte high low : UInt8}
  {rest encoded decoded : List UInt8}

theorem escapes_copied (plain : byte ≠ 37) : escapes (byte :: rest) = escapes rest := by
  conv_lhs => unfold escapes
  rw [if_pos plain]

theorem escapes_escaped : escapes (37 :: high :: low :: rest) = (high, low) :: escapes rest := by
  rw [escapes, if_neg (by decide)]

/-- The grammar is what is left of the lenient one without signs. -/
theorem unescapes_hexPair_iff :
    Unescapes hexPair encoded decoded ↔
      Unescapes plusPair encoded decoded ∧ ∀ pair ∈ escapes encoded, pair.1 ≠ 43 := by
  constructor
  · intro unescapes
    induction unescapes with
    | done => exact ⟨.done, by simp [escapes]⟩
    | copied plain _ ih => exact ⟨.copied plain ih.1, by rw [escapes_copied plain]; exact ih.2⟩
    | @escaped high low value rest decoded denotes _ ih =>
        have digit : high ≠ 43 := by
          rintro rfl
          rw [hexPair, show hexDigitValue 43 = none by decide] at denotes
          cases denotes
        refine ⟨.escaped (by rw [plusPair, if_neg digit, denotes]) ih.1, ?_⟩
        rw [escapes_escaped]
        intro pair member
        rcases List.mem_cons.mp member with rfl | later
        · exact digit
        · exact ih.2 pair later
  · rintro ⟨unescapes, unsigned⟩
    induction unescapes with
    | done => exact .done
    | copied plain _ ih => exact .copied plain (ih (by rwa [escapes_copied plain] at unsigned))
    | @escaped high low value rest decoded denotes _ ih =>
        rw [escapes_escaped] at unsigned
        have digit : high ≠ 43 := unsigned _ List.mem_cons_self
        rw [plusPair, if_neg digit] at denotes
        exact .escaped denotes (ih fun pair later => unsigned pair (List.mem_cons_of_mem _ later))

end Grammar

/-! ## The digits of an escape -/

/-- How `unescape` reads the two digits of an escape. -/
def readPair (high low : UInt8) : Option UInt8 :=
  (ofBytes [high, low]).bind fun digits =>
    (IntegerText.parse 16 0 255 digits.toList).map fun value => UInt8.ofNat value.toNat

theorem digitValue_asciiChar {byte : UInt8} (ascii : byte < 128) :
    IntegerText.digitValue 16 (asciiChar byte) = hexDigitValue byte := by
  have all : ∀ number < 128, IntegerText.digitValue 16 (asciiChar (UInt8.ofNat number)) =
      hexDigitValue (UInt8.ofNat number) := by decide
  have small : byte.toNat < 128 := UInt8.lt_iff_toNat_lt.mp ascii
  have this := all byte.toNat small
  rwa [UInt8.ofNat_toNat] at this

theorem hexDigitValue_lt {byte : UInt8} {value : Nat} (digit : hexDigitValue byte = some value) :
    byte < 128 ∧ value < 16 := by
  have all : ∀ number < 256, ∀ value, hexDigitValue (UInt8.ofNat number) = some value →
      UInt8.ofNat number < 128 ∧ value < 16 := by
    intro number below value digit
    revert digit
    unfold hexDigitValue
    simp only [UInt8.le_iff_toNat_le, UInt8.lt_iff_toNat_lt, UInt8.toNat_ofNat', UInt8.reduceToNat]
    split_ifs <;> simp <;> omega
  have this := all byte.toNat byte.toNat_lt value
  rw [UInt8.ofNat_toNat] at this
  exact this digit

theorem plusPair_eq_some {high low value : UInt8} (denotes : plusPair high low = some value) :
    high < 128 ∧ low < 128 := by
  unfold plusPair hexPair at denotes
  split_ifs at denotes with sign
  · subst sign
    refine ⟨by decide, ?_⟩
    split at denotes
    · rename_i digit
      exact (hexDigitValue_lt digit).1
    · cases denotes
  · split at denotes
    · rename_i first second
      exact ⟨(hexDigitValue_lt first).1, (hexDigitValue_lt second).1⟩
    · cases denotes

theorem isAscii_of_digitValue {character : Char} {value : Nat}
    (digit : IntegerText.digitValue 16 character = some value) : IsAscii character := by
  have below : ∀ last : Char, IsAscii last → character ≤ last → IsAscii character :=
    fun last ascii le => UInt32.le_trans le ascii
  unfold IntegerText.digitValue at digit
  split_ifs at digit with decimal lower upper
  · exact below '9' (by decide) decimal.2
  · exact below 'z' (by decide) lower.2
  · exact below 'Z' (by decide) upper.2
  · cases digit

theorem isAscii_of_digitsValue {characters : List Char} {total value : Nat}
    (digits : IntegerText.digitsValue 16 total characters = some value) :
    ∀ character ∈ characters, IsAscii character := by
  induction characters generalizing total with
  | nil => simp
  | cons first rest ih =>
      unfold IntegerText.digitsValue at digits
      split at digits
      · rename_i digit found
        intro character member
        rcases List.mem_cons.mp member with rfl | later
        · exact isAscii_of_digitValue found
        · exact ih digits character later
      · cases digits

theorem isAscii_of_magnitude {characters : List Char} {value : Nat}
    (digits : IntegerText.magnitude 16 characters = some value) :
    ∀ character ∈ characters, IsAscii character := by
  unfold IntegerText.magnitude at digits
  split_ifs at digits
  exact isAscii_of_digitsValue digits

/-- The integer parser takes ASCII texts only. -/
theorem isAscii_of_parse {characters : List Char} {value : Int}
    (parsed : IntegerText.parse 16 0 255 characters = some value) :
    ∀ character ∈ characters, IsAscii character := by
  unfold IntegerText.parse at parsed
  split at parsed
  · rename_i digits
    obtain ⟨number, found, _⟩ := Option.bind_eq_some_iff.mp parsed
    intro character member
    rcases List.mem_cons.mp member with rfl | later
    · decide
    · exact isAscii_of_magnitude found character later
  · simp at parsed
  · obtain ⟨number, found, _⟩ := Option.bind_eq_some_iff.mp parsed
    exact isAscii_of_magnitude found

/-- Two ASCII bytes are read as their characters are. -/
theorem readPair_of_isAscii {high low : UInt8} (highAscii : high < 128) (lowAscii : low < 128) :
    readPair high low = (IntegerText.parse 16 0 255 [asciiChar high, asciiChar low]).map
      fun value => UInt8.ofNat value.toNat := by
  have decoded : ofBytes [high, low] = some (String.ofList [asciiChar high, asciiChar low]) := by
    rw [ofBytes_eq_some_iff, bytes_ofList_of_ascii]
    · rw [List.map_cons, List.map_singleton, asciiChar_toUInt8 highAscii,
        asciiChar_toUInt8 lowAscii]
    · simp [asciiChar_isAscii, highAscii, lowAscii]
  rw [readPair, decoded, Option.bind_some, String.toList_ofList]

theorem parse_pair {high low : UInt8} (highAscii : high < 128) (lowAscii : low < 128) :
    (IntegerText.parse 16 0 255 [asciiChar high, asciiChar low]).map
      (fun value => UInt8.ofNat value.toNat) = plusPair high low := by
  have injective : ∀ mark : UInt8, mark < 128 → asciiChar high = asciiChar mark → high = mark := by
    intro mark ascii same
    rw [← asciiChar_toUInt8 highAscii, same, asciiChar_toUInt8 ascii]
  have range : ∀ {number : Nat}, number < 256 →
      (IntegerText.inRange 0 255 number).map (fun value => UInt8.ofNat value.toNat) =
        some (UInt8.ofNat number) := by
    intro number small
    rw [IntegerText.inRange, if_pos ⟨by omega, by omega⟩]
    rfl
  unfold IntegerText.parse
  split
  · rename_i digits same
    obtain ⟨plus, rfl⟩ := List.cons.inj same
    have sign : high = 43 := injective 43 (by decide) plus
    subst sign
    rw [plusPair, if_pos rfl, hexPair, show hexDigitValue 48 = some 0 by decide]
    simp only [IntegerText.magnitude, IntegerText.digitsValue, digitValue_asciiChar lowAscii]
    cases found : hexDigitValue low with
    | none => rfl
    | some digit =>
        have small := (hexDigitValue_lt found).2
        exact range (by omega)
  · rename_i digits same
    have sign : high = 45 := injective 45 (by decide) (List.cons.inj same).1
    subst sign
    rfl
  · rename_i notPlus notMinus
    have unsigned : high ≠ 43 := by
      rintro rfl
      exact notPlus [asciiChar low] rfl
    rw [plusPair, if_neg unsigned, hexPair]
    simp only [IntegerText.magnitude, IntegerText.digitsValue, digitValue_asciiChar lowAscii,
      digitValue_asciiChar highAscii]
    cases first : hexDigitValue high with
    | none => rfl
    | some digit =>
        cases second : hexDigitValue low with
        | none => rfl
        | some other =>
            have smallDigit := (hexDigitValue_lt first).2
            have smallOther := (hexDigitValue_lt second).2
            refine (range ?_).trans ?_
            · omega
            · simp

theorem readPair_eq (high low : UInt8) : readPair high low = plusPair high low := by
  by_cases ascii : high < 128 ∧ low < 128
  · rw [readPair_of_isAscii ascii.1 ascii.2, parse_pair ascii.1 ascii.2]
  · have undenoted : plusPair high low = none := by
      cases denotes : plusPair high low with
      | none => rfl
      | some value => exact absurd (plusPair_eq_some denotes) ascii
    rw [undenoted, readPair]
    refine Option.bind_eq_none_iff.mpr fun digits decoded => ?_
    cases parsed : IntegerText.parse 16 0 255 digits.toList with
    | none => rfl
    | some value =>
        have characters := isAscii_of_parse parsed
        have encoded := ofBytes_eq_some_iff.mp decoded
        rw [← String.ofList_toList (s := digits), bytes_ofList_of_ascii characters] at encoded
        have small : ∀ byte ∈ [high, low], byte < 128 := by
          rw [← encoded]
          intro byte member
          obtain ⟨character, inside, rfl⟩ := List.mem_map.mp member
          have le : character.val ≤ 0x7F := characters character inside
          rw [UInt32.le_iff_toNat_le] at le
          rw [UInt8.lt_iff_toNat_lt, UInt32.toNat_toUInt8]
          simp at le ⊢
          omega
        exact absurd ⟨small high (by simp), small low (by simp)⟩ ascii

/-! ## The loop -/

section Loop

variable {byte high low : UInt8} {rest encoded decoded : List UInt8}

theorem unescapeBytes_copied (plain : byte ≠ 37) :
    unescapeBytes (byte :: rest) = (unescapeBytes rest).map (byte :: ·) := by
  conv_lhs => unfold unescapeBytes
  rw [if_pos plain]

theorem unescapeBytes_escape :
    unescapeBytes (37 :: high :: low :: rest) =
      match plusPair high low with
      | some value => (unescapeBytes rest).map (value :: ·)
      | none => .error (.invalidMessage "invalid escape") := by
  rw [← readPair_eq, readPair, unescapeBytes, if_neg (by decide)]
  cases ofBytes [high, low] with
  | none => rfl
  | some digits => cases parsed : IntegerText.parse 16 0 255 digits.toList <;> simp [parsed]

theorem map_eq_ok_iff {ε α β : Type} {result : Except ε α} {convert : α → β} {value : β} :
    result.map convert = .ok value ↔ ∃ found, result = .ok found ∧ convert found = value := by
  cases result <;> simp [Except.map]

/-- The loop goes through exactly on what the lenient grammar decodes. -/
theorem unescapeBytes_eq_ok_iff :
    unescapeBytes encoded = .ok decoded ↔ Unescapes plusPair encoded decoded := by
  constructor
  · induction encoded using escapes.induct generalizing decoded with
    | case1 =>
        intro accepted
        cases accepted
        exact .done
    | case2 byte rest plain ih =>
        rw [unescapeBytes_copied plain, map_eq_ok_iff]
        rintro ⟨after, accepted, rfl⟩
        exact .copied plain (ih accepted)
    | case3 byte notPlain high low rest ih =>
        rw [not_not.mp notPlain, unescapeBytes_escape]
        cases denotes : plusPair high low with
        | none => exact nofun
        | some value =>
            rw [map_eq_ok_iff]
            rintro ⟨after, accepted, rfl⟩
            exact .escaped denotes (ih accepted)
    | case4 byte rest notPlain short =>
        intro accepted
        rw [not_not.mp notPlain, unescapeBytes, if_neg (by decide)] at accepted
        · cases accepted
        · exact short
  · intro unescapes
    induction unescapes with
    | done => rfl
    | copied plain _ ih =>
        rw [unescapeBytes_copied plain, ih]
        rfl
    | escaped denotes _ ih =>
        rw [unescapeBytes_escape, denotes, ih]
        rfl

end Loop

/-! ## Texts -/

theorem unescape_eq_ok_iff {value text : String} :
    unescape value = .ok text ↔ Unescapes plusPair (bytes value) (bytes text) := by
  rw [← unescapeBytes_eq_ok_iff]
  unfold unescape
  cases decoded : unescapeBytes (bytes value) with
  | error failure => simp
  | ok result =>
      rw [Except.ok.injEq, eq_comm (a := result), ← ofBytes_eq_some_iff]
      dsimp only
      cases ofBytes result <;> simp

/-- `unescape` returns a text exactly if the grammar decodes the value to it. -/
def FollowsGrammar (value : String) : Prop :=
  ∀ text, unescape value = .ok text ↔ Unescapes hexPair (bytes value) (bytes text)

/-- Some escape has a `+` for its first digit, and the value follows the
grammar if such a `+` is read as a zero. -/
def PlusAccepted (value : String) : Prop :=
  (∃ pair ∈ escapes (bytes value), pair.1 = 43) ∧
    ∃ text, Unescapes plusPair (bytes value) (bytes text)

/-- On every text `unescape` accepts exactly the grammar and returns what it
decodes, unless it accepts an escape with a `+`. -/
theorem unescape_grammar_iff (value : String) : FollowsGrammar value ↔ ¬ PlusAccepted value := by
  unfold FollowsGrammar
  simp only [unescape_eq_ok_iff, unescapes_hexPair_iff]
  constructor
  · rintro follows ⟨⟨pair, member, plus⟩, text, unescapes⟩
    exact ((follows text).mp unescapes).2 pair member plus
  · intro strict text
    refine ⟨fun unescapes => ⟨unescapes, fun pair member plus => ?_⟩, And.left⟩
    exact strict ⟨⟨pair, member, plus⟩, text, unescapes⟩

/-- A plus sign passes for the first digit of an escape. -/
theorem unescape_plus_accepted : unescape "%+5" = .ok "\x05" ∧ ¬ FollowsGrammar "%+5" := by
  have accepted : unescape "%+5" = .ok "\x05" := by decide +kernel
  refine ⟨accepted, fun follows => ?_⟩
  have unsigned := (unescapes_hexPair_iff.mp ((follows "\x05").mp accepted)).2
  exact unsigned (43, 53) (by decide +kernel) rfl

end VCable
