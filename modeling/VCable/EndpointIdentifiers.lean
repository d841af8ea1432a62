import VCable.DaemonDevices
import VCable.DaemonRoutes
import VCable.EscapedLists
import VCable.ProtocolRoundTrip

/-!
# The identifiers of endpoints

`endpoint_id` writes the bytes of a UID that an identifier cannot have as an
underscore with two digits, and copies underscores.  The identifiers of two
devices can therefore be the same, or too long, and then the whole refresh
fails.
-/

namespace VCable

open Std Utf8Text

/-! ## Encoded UIDs -/

/-- A lowercase hexadecimal digit. -/
def lowerDigit (value : Nat) : UInt8 :=
  (IntegerText.hexDigit value).toLower.val.toUInt8

theorem lowerDigit_ne_mark : ∀ value < 16, lowerDigit value ≠ 95 := by
  decide

theorem lowerDigit_injective : ∀ first < 16, ∀ second < 16,
    lowerDigit first = lowerDigit second → first = second := by
  decide

theorem isAscii_toLower_hexDigit : ∀ value < 16,
    IsAscii (IntegerText.hexDigit value).toLower := by
  decide

/-- How `endpoint_id` encodes the bytes of a UID. -/
def uidEscaping : Escaping UInt8 where
  kept byte := isAsciiAlphanumeric byte || identifierPunctuation.contains byte
  mark := 95
  high byte := lowerDigit (byte.toNat / 16)
  low byte := lowerDigit (byte.toNat % 16)
  high_ne_mark byte := lowerDigit_ne_mark _ (Nat.div_lt_of_lt_mul byte.toNat_lt)
  low_ne_mark byte := lowerDigit_ne_mark _ (Nat.mod_lt _ (by decide))
  code_injective first second high low := by
    have firstSmall : first.toNat < 256 := first.toNat_lt
    have secondSmall : second.toNat < 256 := second.toNat_lt
    have quotient := lowerDigit_injective _ (by omega) _ (by omega) high
    have remainder := lowerDigit_injective _ (by omega) _ (by omega) low
    exact UInt8.toNat_inj.mp (by omega)

theorem isAscii_of_kept {byte : UInt8} (kept : uidEscaping.kept byte = true) : byte < 128 := by
  have subset : identifierPunctuation.all fieldPunctuation.contains = true := by decide
  have fieldKept : (isAsciiAlphanumeric byte || fieldPunctuation.contains byte) = true := by
    rcases Bool.or_eq_true_iff.mp kept with letter | mark
    · exact Bool.or_eq_true_iff.mpr (Or.inl letter)
    · exact Bool.or_eq_true_iff.mpr
        (Or.inr (List.all_eq_true.mp subset byte (List.contains_iff_mem.mp mark)))
  obtain ⟨_, below, _⟩ := kept_spec fieldKept
  exact UInt8.lt_iff_toNat_lt.mpr (by simp; omega)

theorem map_endpointIdByte (byte : UInt8) :
    (endpointIdByte byte).map (fun character => character.val.toUInt8) =
      uidEscaping.encodeItem byte := by
  unfold endpointIdByte Escaping.encodeItem
  cases kept : uidEscaping.kept byte with
  | true =>
      have condition : (isAsciiAlphanumeric byte || identifierPunctuation.contains byte) = true :=
        kept
      rw [if_pos condition, if_pos rfl, List.map_singleton,
        asciiChar_toUInt8 (isAscii_of_kept kept)]
  | false =>
      have condition : (isAsciiAlphanumeric byte || identifierPunctuation.contains byte) = false :=
        kept
      rw [if_neg (Bool.not_eq_true _ ▸ condition), if_neg Bool.false_ne_true]
      rfl

theorem isAscii_endpointIdByte {byte : UInt8} :
    ∀ character ∈ endpointIdByte byte, IsAscii character := by
  have small : byte.toNat < 256 := byte.toNat_lt
  unfold endpointIdByte
  split_ifs with kept
  · intro character member
    rw [List.mem_singleton.mp member]
    exact asciiChar_isAscii (isAscii_of_kept kept)
  · intro character member
    simp only [IntegerText.hexByte, List.map_cons, List.map_nil, List.mem_cons, List.not_mem_nil,
      or_false] at member
    rcases member with rfl | rfl | rfl
    · decide
    · exact isAscii_toLower_hexDigit _ (by omega)
    · exact isAscii_toLower_hexDigit _ (by omega)

theorem bytes_endpointId (uid direction : String) :
    bytes (endpointId uid direction) =
      bytes "audio:" ++ uidEscaping.encode (bytes uid) ++ bytes ":" ++ bytes direction := by
  have encoded : bytes (String.ofList ((bytes uid).flatMap endpointIdByte)) =
      uidEscaping.encode (bytes uid) := by
    rw [bytes_ofList_of_ascii, List.map_flatMap]
    · exact List.flatMap_congr fun byte _ => map_endpointIdByte byte
    · intro character member
      obtain ⟨byte, _, inside⟩ := List.mem_flatMap.mp member
      exact isAscii_endpointIdByte character inside
  rw [endpointId, bytes_append, bytes_append, bytes_append, encoded]

/-! ## Validity and distinctness -/

/-- The name of a side in an identifier. -/
def EndpointDirection.side : EndpointDirection → String
  | .source => "input"
  | .sink => "output"

theorem AudioDevice.endpointId_eq (device : AudioDevice) (direction : EndpointDirection) :
    device.endpointId direction = VCable.endpointId device.uid direction.side := by
  cases direction <;> rfl

/-- The bytes of a UID, with three for each one that an identifier cannot have. -/
def uidSize (uid : String) : Nat :=
  ((bytes uid).map fun byte => if uidEscaping.kept byte then 1 else 3).sum

/-- The largest size of a UID on a side: the rest of the identifier takes 12 or
13 of its 255 bytes. -/
def largestUid : EndpointDirection → Nat
  | .source => 243
  | .sink => 242

theorem length_encode_uid (uid : String) :
    (uidEscaping.encode (bytes uid)).length = uidSize uid := by
  rw [Escaping.encode, List.length_flatMap, uidSize]
  congr 1
  refine List.map_congr_left fun byte _ => ?_
  unfold Escaping.encodeItem
  split_ifs <;> rfl

theorem kept_of_mem_encode {byte : UInt8} {uid : List UInt8}
    (member : byte ∈ uidEscaping.encode uid) : uidEscaping.kept byte = true := by
  have digits : ∀ value < 16, uidEscaping.kept (lowerDigit value) = true := by decide
  obtain ⟨origin, _, inside⟩ := List.mem_flatMap.mp member
  have small : origin.toNat < 256 := origin.toNat_lt
  unfold Escaping.encodeItem at inside
  split_ifs at inside with kept
  · rwa [List.mem_singleton.mp inside]
  · simp only [List.mem_cons, List.not_mem_nil, or_false] at inside
    rcases inside with rfl | rfl | rfl
    · decide
    · exact digits _ (by omega)
    · exact digits _ (by omega)

/-- An endpoint identifier is valid unless its UID is too long. -/
theorem isValidIdentifier_endpointId_iff (uid : String) (direction : EndpointDirection) :
    isValidIdentifier (endpointId uid direction.side) = true ↔
      uidSize uid ≤ largestUid direction := by
  have size : (endpointId uid direction.side).utf8ByteSize =
      uidSize uid + (255 - largestUid direction) := by
    rw [← length_bytes, bytes_endpointId]
    simp only [List.length_append, length_encode_uid]
    cases direction with
    | source =>
        rw [show (bytes "audio:").length = 6 by decide, show (bytes ":").length = 1 by decide,
          show (bytes EndpointDirection.source.side).length = 5 by decide, largestUid]
        omega
    | sink =>
        rw [show (bytes "audio:").length = 6 by decide, show (bytes ":").length = 1 by decide,
          show (bytes EndpointDirection.sink.side).length = 6 by decide, largestUid]
        omega
  have kept : (bytes (endpointId uid direction.side)).all (fun byte =>
      isAsciiAlphanumeric byte || identifierPunctuation.contains byte) = true := by
    rw [bytes_endpointId, List.all_append, List.all_append, List.all_append]
    have ends : ((bytes "audio:").all uidEscaping.kept && (bytes ":").all uidEscaping.kept &&
        (bytes direction.side).all uidEscaping.kept) = true := by cases direction <;> decide
    have middle : (uidEscaping.encode (bytes uid)).all uidEscaping.kept = true :=
      List.all_eq_true.mpr fun byte member => kept_of_mem_encode member
    simp only [Bool.and_eq_true] at ends ⊢
    exact ⟨⟨⟨ends.1.1, middle⟩, ends.1.2⟩, ends.2⟩
  have largest : largestUid direction ≤ 243 := by cases direction <;> decide
  simp only [isValidIdentifier, kept, Bool.not_true, Bool.or_false, Bool.not_eq_true',
    Bool.or_eq_false_iff, decide_eq_false_iff_not, size]
  omega

/-- Two UIDs have the same identifier on a side, or on two. -/
theorem endpointId_eq_iff {uid other : String} {direction otherDirection : EndpointDirection} :
    endpointId uid direction.side = endpointId other otherDirection.side ↔
      direction = otherDirection ∧ uidEscaping.Alike (bytes uid) (bytes other) := by
  rw [← bytes_injective.eq_iff, bytes_endpointId, bytes_endpointId]
  -- The fourth byte from the end tells the sides apart.
  have fourth : ∀ (front : List UInt8) (direction : EndpointDirection),
      (front ++ bytes direction.side).reverse[3]? =
        some (match direction with | .source => (110 : UInt8) | .sink => 116) := by
    intro front direction
    rw [List.reverse_append, List.getElem?_append_left (by cases direction <;> decide)]
    cases direction <;> rfl
  constructor
  · intro same
    have side := congrArg (fun code : List UInt8 => code.reverse[3]?) same
    simp only [fourth] at side
    have sameDirection : direction = otherDirection := by
      cases direction <;> cases otherDirection <;> first | rfl | cases side
    subst sameDirection
    simp only [List.append_assoc, List.append_cancel_left_eq] at same
    exact ⟨rfl, Escaping.encode_eq_iff.mp (List.append_cancel_right same)⟩
  · rintro ⟨rfl, alike⟩
    rw [Escaping.encode_eq_iff.mpr alike]

end VCable
