import Mathlib.Data.List.Basic
import Mathlib.Tactic.Common

/-!
# Texts as UTF-8 byte lists

A `String` is a byte array with a proof that it is valid UTF-8.  This file
gives the byte list of a text, decoding of a byte list, and the facts about
ASCII characters that the codecs and identifier checks rest on.
-/

namespace Utf8Text

/-- The UTF-8 bytes of a text. -/
def bytes (text : String) : List UInt8 :=
  text.toByteArray.data.toList

/-- The text with the given UTF-8 bytes, when they are valid. -/
def ofBytes (encoded : List UInt8) : Option String :=
  String.fromUTF8? ⟨encoded.toArray⟩

theorem bytes_injective : Function.Injective bytes := by
  intro first second same
  have dataEq : first.toByteArray.data = second.toByteArray.data :=
    Array.toList_inj.mp same
  exact String.toByteArray_inj.mp (ByteArray.ext dataEq)

@[simp]
theorem ofBytes_bytes (text : String) : ofBytes (bytes text) = some text := by
  have sameBytes : (⟨(bytes text).toArray⟩ : ByteArray) = text.toByteArray := by
    simp [bytes]
  unfold ofBytes String.fromUTF8?
  rw [sameBytes, dif_pos text.isValidUTF8]
  rfl

theorem ofBytes_eq_some_iff {encoded : List UInt8} {text : String} :
    ofBytes encoded = some text ↔ bytes text = encoded := by
  constructor
  · intro decoded
    unfold ofBytes String.fromUTF8? at decoded
    split at decoded
    · rw [← Option.some.inj decoded]
      rfl
    · cases decoded
  · rintro rfl
    exact ofBytes_bytes text

theorem bytes_ofList (characters : List Char) :
    bytes (String.ofList characters) = characters.flatMap String.utf8EncodeChar := by
  simp [bytes, List.utf8Encode]

@[simp]
theorem bytes_append (first second : String) :
    bytes (first ++ second) = bytes first ++ bytes second := by
  rw [← String.ofList_toList (s := first), ← String.ofList_toList (s := second),
    ← String.ofList_append, bytes_ofList, bytes_ofList, bytes_ofList, List.flatMap_append]

theorem length_bytes (text : String) : (bytes text).length = text.utf8ByteSize := by
  rw [bytes, Array.length_toList]
  rfl

/-- The characters that UTF-8 encodes as one byte. -/
def IsAscii (character : Char) : Prop :=
  character.val ≤ 0x7F

instance : DecidablePred IsAscii := fun character =>
  inferInstanceAs (Decidable (character.val ≤ 0x7F))

theorem bytes_ofList_of_ascii {characters : List Char}
    (ascii : ∀ character ∈ characters, IsAscii character) :
    bytes (String.ofList characters) = characters.map fun character => character.val.toUInt8 := by
  rw [bytes_ofList]
  induction characters with
  | nil => rfl
  | cons character characters ih =>
      have oneByte : character.utf8Size = 1 := by
        have small : character.val ≤ 0x7F := ascii character (by simp)
        unfold Char.utf8Size
        exact if_pos small
      rw [List.flatMap_cons, String.utf8EncodeChar_eq_singleton oneByte,
        ih fun other otherMem => ascii other (by simp [otherMem])]
      rfl

/-- An ASCII character of a text is one of its bytes. -/
theorem toUInt8_mem_bytes {text : String} {character : Char} (member : character ∈ text.toList)
    (ascii : IsAscii character) : character.val.toUInt8 ∈ bytes text := by
  have oneByte : character.utf8Size = 1 := by
    unfold Char.utf8Size
    exact if_pos ascii
  rw [← @String.ofList_toList text, bytes_ofList]
  refine List.mem_flatMap.mpr ⟨character, member, ?_⟩
  rw [String.utf8EncodeChar_eq_singleton oneByte]
  exact List.mem_singleton.mpr rfl

/-- The character of an ASCII byte. -/
def asciiChar (byte : UInt8) : Char :=
  Char.ofNat byte.toNat

theorem asciiChar_val {byte : UInt8} (small : byte < 128) :
    (asciiChar byte).val = byte.toUInt32 := by
  have valid : byte.toNat.isValidChar := by
    left
    have : byte.toNat < 128 := by simpa [UInt8.lt_iff_toNat_lt] using small
    omega
  unfold asciiChar Char.ofNat
  rw [dif_pos valid]
  apply UInt32.toNat_inj.mp
  rfl

theorem asciiChar_isAscii {byte : UInt8} (small : byte < 128) : IsAscii (asciiChar byte) := by
  unfold IsAscii
  rw [asciiChar_val small, UInt32.le_iff_toNat_le]
  have : byte.toNat < 128 := by simpa [UInt8.lt_iff_toNat_lt] using small
  simp
  omega

@[simp]
theorem asciiChar_toUInt8 {byte : UInt8} (small : byte < 128) :
    (asciiChar byte).val.toUInt8 = byte := by
  rw [asciiChar_val small]
  simp

/-- A text of ASCII bytes has one character for each of them. -/
theorem toList_of_ascii {text : String} (ascii : ∀ byte ∈ bytes text, byte < 128) :
    text.toList = (bytes text).map asciiChar := by
  have characters : ∀ character ∈ (bytes text).map asciiChar, IsAscii character := by
    intro character member
    obtain ⟨byte, byteMember, rfl⟩ := List.mem_map.mp member
    exact asciiChar_isAscii (ascii byte byteMember)
  have same : bytes (String.ofList ((bytes text).map asciiChar)) = bytes text := by
    rw [bytes_ofList_of_ascii characters, List.map_map]
    exact (List.map_congr_left fun byte member => asciiChar_toUInt8 (ascii byte member)).trans
      (List.map_id _)
  rw [← congrArg String.toList (bytes_injective same), String.toList_ofList]

end Utf8Text
