import VCable.Protocol

/-!
# The control protocol round-trips

Every field of an encoded message is printable, so the tabs between the fields
are the only ones, and decoding finds the fields again.  Frames carry their own
length, so a sequence of frames is read back one by one.
-/

namespace VCable

open Utf8Text

/-! ## Escapes -/

/-- The characters that a field can hold. -/
def IsPrintable (character : Char) : Prop :=
  32 ≤ character.toNat ∧ character.toNat ≤ 126

instance : DecidablePred IsPrintable := fun _ => inferInstanceAs (Decidable (_ ∧ _))

/-- A text that can be a field. -/
def Printable (text : String) : Prop :=
  ∀ character ∈ text.toList, IsPrintable character

instance (text : String) : Decidable (Printable text) :=
  List.decidableBAll IsPrintable text.toList

theorem isPrintable_isAscii {character : Char} (printable : IsPrintable character) :
    IsAscii character := by
  have below : character.val.toNat ≤ 126 := printable.2
  rw [IsAscii, UInt32.le_iff_toNat_le]
  simp only [UInt32.reduceToNat]
  omega

theorem isPrintable_of_isDigit {character : Char} (digit : character.isDigit = true) :
    IsPrintable character := by
  simp only [Char.isDigit, Bool.and_eq_true, decide_eq_true_eq] at digit
  have above : 48 ≤ character.toNat := digit.1
  have below : character.toNat ≤ 57 := digit.2
  exact ⟨by omega, by omega⟩

theorem hexDigit_isPrintable : ∀ value < 16, IsPrintable (IntegerText.hexDigit value) := by
  decide

/-- The bytes that `escape` keeps are printable and not the escape character. -/
theorem kept_spec {byte : UInt8}
    (kept : (isAsciiAlphanumeric byte || fieldPunctuation.contains byte) = true) :
    32 ≤ byte.toNat ∧ byte.toNat ≤ 126 ∧ byte ≠ 37 := by
  have alphanumeric : isAsciiAlphanumeric byte = true →
      32 ≤ byte.toNat ∧ byte.toNat ≤ 126 ∧ byte ≠ 37 := by
    intro ranges
    simp only [isAsciiAlphanumeric, Bool.or_eq_true, Bool.and_eq_true, decide_eq_true_eq,
      UInt8.le_iff_toNat_le, UInt8.reduceToNat] at ranges
    refine ⟨by omega, by omega, ?_⟩
    rintro rfl
    simp at ranges
  have punctuation : ∀ byte ∈ fieldPunctuation,
      32 ≤ byte.toNat ∧ byte.toNat ≤ 126 ∧ byte ≠ 37 := by
    have marks : fieldPunctuation = [46, 95, 58, 45, 47, 32] := rfl
    simp [marks]
  rcases Bool.or_eq_true_iff.mp kept with letter | mark
  · exact alphanumeric letter
  · exact punctuation byte (List.contains_iff_mem.mp mark)

theorem escapeByte_isPrintable {byte : UInt8} :
    ∀ character ∈ escapeByte byte, IsPrintable character := by
  have small : byte.toNat < 256 := byte.toNat_lt
  unfold escapeByte
  split_ifs with kept
  · obtain ⟨above, below, _⟩ := kept_spec kept
    have ascii : byte < 128 := UInt8.lt_iff_toNat_lt.mpr (by simp; omega)
    intro character characterMem
    rw [List.mem_singleton.mp characterMem, IsPrintable, Char.toNat, asciiChar_val ascii,
      UInt8.toNat_toUInt32]
    exact ⟨above, below⟩
  · intro character characterMem
    simp only [IntegerText.hexByte, List.mem_cons, List.not_mem_nil, or_false] at characterMem
    rcases characterMem with rfl | rfl | rfl
    · decide
    · exact hexDigit_isPrintable _ (by omega)
    · exact hexDigit_isPrintable _ (by omega)

theorem printable_escape (value : String) : Printable (escape value) := by
  intro character characterMem
  rw [escape, String.toList_ofList] at characterMem
  obtain ⟨byte, _, fromByte⟩ := List.mem_flatMap.mp characterMem
  exact escapeByte_isPrintable character fromByte

/-- The bytes that an escaped byte is written as. -/
def escapedBytes (byte : UInt8) : List UInt8 :=
  (escapeByte byte).map fun character => character.val.toUInt8

theorem bytes_escape (value : String) :
    bytes (escape value) = (bytes value).flatMap escapedBytes := by
  rw [escape, bytes_ofList_of_ascii, List.map_flatMap]
  · rfl
  · intro character characterMem
    obtain ⟨byte, _, fromByte⟩ := List.mem_flatMap.mp characterMem
    exact isPrintable_isAscii (escapeByte_isPrintable character fromByte)

private theorem unescapeBytes_kept {byte : UInt8} {rest : List UInt8} (kept : byte ≠ 37) :
    unescapeBytes (byte :: rest) = (unescapeBytes rest).map (byte :: ·) := by
  conv_lhs => unfold unescapeBytes
  rw [if_pos kept]

private theorem unescapeBytes_escaped {byte high low : UInt8} {rest : List UInt8}
    (digits : [high, low] = bytes (String.ofList (IntegerText.hexByte byte))) :
    unescapeBytes (37 :: high :: low :: rest) = (unescapeBytes rest).map (byte :: ·) := by
  rw [unescapeBytes, if_neg (by simp)]
  simp only [digits, ofBytes_bytes, String.toList_ofList, IntegerText.parse_hexByte,
    Int.toNat_natCast, UInt8.ofNat_toNat]

private theorem unescapeBytes_escapedBytes (byte : UInt8) (rest : List UInt8) :
    unescapeBytes (escapedBytes byte ++ rest) = (unescapeBytes rest).map (byte :: ·) := by
  have printable : ∀ character ∈ escapeByte byte, IsPrintable character := escapeByte_isPrintable
  unfold escapedBytes
  unfold escapeByte at printable ⊢
  split_ifs at printable ⊢ with kept
  · obtain ⟨_, below, notEscape⟩ := kept_spec kept
    have ascii : byte < 128 := UInt8.lt_iff_toNat_lt.mpr (by simp; omega)
    rw [List.map_singleton, asciiChar_toUInt8 ascii]
    exact unescapeBytes_kept notEscape
  · refine unescapeBytes_escaped ?_
    rw [bytes_ofList_of_ascii]
    · rfl
    · intro character characterMem
      exact isPrintable_isAscii (printable character (List.mem_cons_of_mem _ characterMem))

theorem unescape_escape (value : String) : unescape (escape value) = .ok value := by
  have loop : ∀ encoded : List UInt8,
      unescapeBytes (encoded.flatMap escapedBytes) = .ok encoded := by
    intro encoded
    induction encoded with
    | nil => rfl
    | cons byte rest ih =>
        rw [List.flatMap_cons, unescapeBytes_escapedBytes, ih]
        rfl
  rw [unescape, bytes_escape, loop]
  simp only [ofBytes_bytes]

/-! ## Numbers -/

theorem printable_toString (value : Int) : Printable (toString value) := by
  intro character characterMem
  rcases IntegerText.toString_characters characterMem with digit | rfl
  · exact isPrintable_of_isDigit digit
  · decide

theorem natToString_eq (number : Nat) : toString number = toString (number : Int) := by
  rw [Int.toString_eq_repr, Int.repr_eq_if, if_pos (Int.natCast_nonneg number), Int.toNat_natCast]
  rfl

theorem printable_natToString (number : Nat) : Printable (toString number) := by
  rw [natToString_eq]
  exact printable_toString _

theorem parse_uint32 (number : UInt32) (field : String) :
    parse (toString number.toNat) field = .ok number := by
  have below : (number.toNat : Int) ≤ 4294967295 := by
    have := number.toNat_lt
    omega
  have found : FromStr.fromStr (toString number.toNat) = some number := by
    simp only [FromStr.fromStr, natToString_eq,
      IntegerText.parse_toString (Int.natCast_nonneg _) below, Option.map_some, Int.toNat_natCast,
      UInt32.ofNat_toNat]
  rw [parse, found]

theorem parse_int32 (number : Int32) (field : String) :
    parse (toString number.toInt) field = .ok number := by
  have above : -2147483648 ≤ number.toInt := number.le_toInt
  have below : number.toInt ≤ 2147483647 := by
    have := number.toInt_lt
    omega
  have found : FromStr.fromStr (toString number.toInt) = some number := by
    simp only [FromStr.fromStr, IntegerText.parse_toString above below, Option.map_some,
      Int32.ofInt_toInt]
  rw [parse, found]

/-! ## Separators -/

theorem split_intercalate {separator : Char} {separatorText : String} {fields : List String}
    (singleton : separatorText.toList = [separator]) (nonempty : fields ≠ [])
    (free : ∀ field ∈ fields, separator ∉ field.toList) :
    split separator (separatorText.intercalate fields) = fields := by
  rw [split, String.toList_intercalate, singleton, List.splitOn_intercalate]
  · simp [List.map_map, Function.comp_def]
  · intro characters characterMem
    obtain ⟨field, fieldMem, rfl⟩ := List.mem_map.mp characterMem
    exact free field fieldMem
  · simpa using nonempty

/-- Fields of printable characters are found again between the tabs. -/
theorem split_tab_intercalate {fields : List String} (nonempty : fields ≠ [])
    (printable : ∀ field ∈ fields, Printable field) :
    split '\t' ("\t".intercalate fields) = fields := by
  refine split_intercalate (by decide) nonempty fun field fieldMem tabMem => ?_
  exact absurd (printable field fieldMem '\t' tabMem) (by decide)

theorem mem_intercalate {separatorText : String} {fields : List String} {character : Char}
    (member : character ∈ (separatorText.intercalate fields).toList) :
    character ∈ separatorText.toList ∨ ∃ field ∈ fields, character ∈ field.toList := by
  rw [String.toList_intercalate] at member
  induction fields with
  | nil => simp at member
  | cons field fields ih =>
      by_cases last : fields = []
      · subst last
        exact Or.inr ⟨field, by simp, by simpa using member⟩
      · rw [List.map_cons, List.intercalate_cons_of_ne_nil (by simpa using last), List.mem_append,
          List.mem_append] at member
        rcases member with (first | between) | later
        · exact Or.inr ⟨field, by simp, first⟩
        · exact Or.inl between
        · rcases ih later with between | ⟨other, otherMem, inOther⟩
          · exact Or.inl between
          · exact Or.inr ⟨other, by simp [otherMem], inOther⟩

/-! ## Messages -/

namespace Request

theorem printable_encodeMatrix (matrixMillionths : List Int32) :
    Printable (encodeMatrix matrixMillionths) := by
  intro character characterMem
  rcases mem_intercalate characterMem with comma | ⟨field, fieldMem, inField⟩
  · rw [show character = ',' by simpa using comma]
    decide
  · obtain ⟨value, _, rfl⟩ := List.mem_map.mp fieldMem
    exact printable_toString value.toInt character inField

theorem encodeMatrix_eq_empty_iff {matrixMillionths : List Int32} :
    encodeMatrix matrixMillionths = "" ↔ matrixMillionths = [] := by
  constructor
  · intro empty
    cases matrixMillionths with
    | nil => rfl
    | cons value values =>
        have noCharacters := congrArg String.toList empty
        rw [encodeMatrix, String.toList_intercalate] at noCharacters
        exfalso
        apply IntegerText.toString_ne_nil value.toInt
        cases values with
        | nil => simpa using noCharacters
        | cons next values =>
            rw [List.map_cons, List.map_cons,
              List.intercalate_cons_of_ne_nil (by simp)] at noCharacters
            simp at noCharacters
  · rintro rfl
    rfl

theorem decodeMatrix_encodeMatrix (matrixMillionths : List Int32) :
    decodeMatrix (encodeMatrix matrixMillionths) = .ok matrixMillionths := by
  by_cases empty : matrixMillionths = []
  · subst empty
    rfl
  · have comma : ∀ field ∈ matrixMillionths.map fun value => toString value.toInt,
        ',' ∉ field.toList := by
      intro field fieldMem commaMem
      obtain ⟨value, _, rfl⟩ := List.mem_map.mp fieldMem
      rcases IntegerText.toString_characters commaMem with digit | dash
      · exact absurd digit (by decide)
      · exact absurd dash (by decide)
    rw [decodeMatrix, if_neg (mt encodeMatrix_eq_empty_iff.mp empty), encodeMatrix,
      split_intercalate (by decide) (by simpa using empty) comma]
    clear empty comma
    induction matrixMillionths with
    | nil => rfl
    | cons value values ih =>
        rw [List.map_cons, List.mapM_cons, parse_int32, ih]
        rfl

/-- The fields of an encoded request, between its tabs. -/
def fields : Request → List String
  | ping => ["ping"]
  | status => ["status"]
  | shutdown => ["shutdown"]
  | createDevice id name inputChannels outputChannels sampleRate =>
      ["create", escape id, escape name, toString inputChannels.toNat,
        toString outputChannels.toNat, toString sampleRate.toNat]
  | deleteDevice id => ["delete", escape id]
  | connect id source sink gainMillidb matrixMillionths =>
      ["connect", escape id, escape source, escape sink, toString gainMillidb.toInt,
        encodeMatrix matrixMillionths]
  | disconnect id => ["disconnect", escape id]

theorem encode_eq_fields (request : Request) :
    request.encode = "\t".intercalate request.fields := by
  cases request <;> rfl

theorem printable_fields (request : Request) : ∀ field ∈ request.fields, Printable field := by
  cases request with
  | ping | status | shutdown => simp only [fields, List.forall_mem_singleton]; decide
  | createDevice id name inputChannels outputChannels sampleRate =>
      simp only [fields, List.forall_mem_cons]
      exact ⟨by decide, printable_escape id, printable_escape name, printable_natToString _,
        printable_natToString _, printable_natToString _, by simp⟩
  | deleteDevice id | disconnect id =>
      simp only [fields, List.forall_mem_cons]
      exact ⟨by decide, printable_escape id, by simp⟩
  | connect id source sink gainMillidb matrixMillionths =>
      simp only [fields, List.forall_mem_cons]
      exact ⟨by decide, printable_escape id, printable_escape source, printable_escape sink,
        printable_toString _, printable_encodeMatrix _, by simp⟩

theorem decode_encode (request : Request) : decode request.encode = .ok request := by
  have found : split '\t' request.encode = request.fields := by
    rw [encode_eq_fields, split_tab_intercalate (by cases request <;> simp [fields])
      request.printable_fields]
  rw [decode, found]
  cases request with
  | ping => rfl
  | status => rfl
  | shutdown => rfl
  | createDevice id name inputChannels outputChannels sampleRate =>
      simp only [fields, unescape_escape, parse_uint32]
      rfl
  | deleteDevice id =>
      simp only [fields, unescape_escape]
      rfl
  | connect id source sink gainMillidb matrixMillionths =>
      simp only [fields, unescape_escape, parse_int32, decodeMatrix_encodeMatrix]
      rfl
  | disconnect id =>
      simp only [fields, unescape_escape]
      rfl

end Request

namespace Response

theorem decode_encode (response : Response) : decode response.encode = .ok response := by
  cases response with
  | ok message =>
      have found : split '\t' (encode (ok message)) = ["ok", escape message] := by
        refine split_tab_intercalate (by simp) ?_
        simp only [List.forall_mem_cons]
        exact ⟨by decide, printable_escape message, by simp⟩
      rw [decode, found]
      simp only [unescape_escape]
      rfl
  | error code message =>
      have found : split '\t' (encode (error code message)) =
          ["error", escape code, escape message] := by
        refine split_tab_intercalate (by simp) ?_
        simp only [List.forall_mem_cons]
        exact ⟨by decide, printable_escape code, printable_escape message, by simp⟩
      rw [decode, found]
      simp only [unescape_escape]
      rfl

end Response

/-! ## Frames -/

/-- The frame of a message whose encoding is short enough. -/
def frame {M : Type} [Message M] (message : M) : List UInt8 :=
  toBeBytes (bytes (Message.encode message)).length ++ bytes (Message.encode message)

/-- A message whose encoding is at most `MAX_MESSAGE_BYTES` bytes. -/
def Fits {M : Type} [Message M] (message : M) : Prop :=
  (bytes (Message.encode message)).length ≤ maxMessageBytes

instance {M : Type} [Message M] (message : M) : Decidable (Fits message) :=
  inferInstanceAs (Decidable (_ ≤ _))

theorem fromBeBytes_toBeBytes {value : Nat} (small : value < 2 ^ 32) :
    fromBeBytes (toBeBytes value) = value := by
  simp only [fromBeBytes, toBeBytes, List.foldl_cons, List.foldl_nil, UInt8.toNat_ofNat']
  omega

theorem length_toBeBytes (value : Nat) : (toBeBytes value).length = 4 :=
  rfl

theorem readExact_append {count : Nat} {first further : List UInt8} (exact : first.length = count) :
    readExact count (first ++ further) = some (first, further) := by
  subst exact
  simp [readExact]

theorem readExact_eq_none {count : Nat} {reader : List UInt8} (short : reader.length < count) :
    readExact count reader = none := by
  rw [readExact, if_neg (by omega)]

section Frames

variable {M : Type} [Message M]

theorem writeMessage_of_fits {message : M} (fits : Fits message) (writer : List UInt8) :
    writeMessage writer message = (.ok (), writer ++ frame message) := by
  have small : ¬ (bytes (Message.encode message)).length > maxMessageBytes := Nat.not_lt.mpr fits
  have word : ¬ (bytes (Message.encode message)).length ≥ 2 ^ 32 := by
    unfold maxMessageBytes at small
    omega
  simp only [writeMessage, if_neg small, if_neg word, frame, List.append_assoc]

theorem writeMessage_of_not_fits {message : M} (large : ¬ Fits message) (writer : List UInt8) :
    writeMessage writer message =
      (.error (.messageTooLarge (bytes (Message.encode message)).length), writer) := by
  have large' : (bytes (Message.encode message)).length > maxMessageBytes := Nat.not_le.mp large
  simp only [writeMessage, if_pos large']

/-- A reader that starts with a whole frame gives its message and the rest. -/
theorem readMessage_frame {message : M} (fits : Fits message)
    (decodes : Message.decode (Message.encode message) = .ok message) (further : List UInt8) :
    readMessage M (frame message ++ further) = .ok (message, further) := by
  have fits' : ¬ (bytes (Message.encode message)).length > maxMessageBytes := Nat.not_lt.mpr fits
  have word : (bytes (Message.encode message)).length < 2 ^ 32 := by
    unfold maxMessageBytes at fits'
    omega
  simp only [readMessage, frame, List.append_assoc, readExact_append (length_toBeBytes _),
    fromBeBytes_toBeBytes word, if_neg fits', readExact_append rfl, ofBytes_bytes, decodes,
    Except.map]

/-- A reader that ends inside a frame reports it as truncated. -/
theorem readMessage_strict_prefix {message : M} (fits : Fits message) {reader : List UInt8}
    (starts : reader <+: frame message) (strict : reader ≠ frame message) :
    readMessage M reader = .error .truncated := by
  have fits' : ¬ (bytes (Message.encode message)).length > maxMessageBytes := Nat.not_lt.mpr fits
  have word : (bytes (Message.encode message)).length < 2 ^ 32 := by
    unfold maxMessageBytes at fits'
    omega
  have shorter : reader.length < (frame message).length := by
    refine Nat.lt_of_le_of_ne starts.length_le fun sameLength => strict ?_
    exact starts.eq_of_length sameLength
  by_cases header : reader.length < 4
  · simp only [readMessage, readExact_eq_none header]
  · obtain ⟨body, rfl⟩ : toBeBytes (bytes (Message.encode message)).length <+: reader :=
      List.prefix_of_prefix_length_le (List.prefix_append _ _) starts (by rw [length_toBeBytes]; omega)
    have missing : body.length < (bytes (Message.encode message)).length := by
      simpa [frame] using shorter
    simp only [readMessage, readExact_append (length_toBeBytes _), fromBeBytes_toBeBytes word,
      if_neg fits', readExact_eq_none missing]

end Frames

/-! ## Streams of messages -/

inductive MessageKind where
  | request
  | response
  deriving DecidableEq

/-- A message of either type on one stream. -/
inductive AnyMessage where
  | request (message : Request)
  | response (message : Response)
  deriving DecidableEq

namespace AnyMessage

def kind : AnyMessage → MessageKind
  | request _ => .request
  | response _ => .response

/-- The length of the encoding in bytes. -/
def encodedLength : AnyMessage → Nat
  | request message => message.encode.utf8ByteSize
  | response message => message.encode.utf8ByteSize

def write (writer : List UInt8) : AnyMessage → Except ProtocolError Unit × List UInt8
  | request message => writeMessage writer message
  | response message => writeMessage writer message

/-- Read one message of the type that the reader expects. -/
def read : MessageKind → List UInt8 → Except ProtocolError (AnyMessage × List UInt8)
  | .request, reader =>
      (readMessage Request reader).map fun (message, rest) => (request message, rest)
  | .response, reader =>
      (readMessage Response reader).map fun (message, rest) => (response message, rest)

/-- The bytes that writing the messages one after another leaves, whether or
not each write succeeds. -/
def writeAll (messages : List AnyMessage) : List UInt8 :=
  messages.foldl (fun writer message => (message.write writer).2) []

def readAll : List MessageKind → List UInt8 → Except ProtocolError (List AnyMessage × List UInt8)
  | [], reader => .ok ([], reader)
  | kind :: kinds, reader => do
      let (message, reader) ← read kind reader
      let (messages, reader) ← readAll kinds reader
      return (message :: messages, reader)

/-- The messages whose encoding is short enough to be written. -/
def fitting (messages : List AnyMessage) : List AnyMessage :=
  messages.filter fun message => message.encodedLength ≤ maxMessageBytes

/-- The bytes that a message on its own is written as. -/
def frame (message : AnyMessage) : List UInt8 :=
  (message.write []).2

theorem write_of_fits {message : AnyMessage} (fits : message.encodedLength ≤ maxMessageBytes)
    (writer : List UInt8) : message.write writer = (.ok (), writer ++ message.frame) := by
  cases message with
  | request message =>
      have messageFits : Fits message := fits
      simp only [frame, write, writeMessage_of_fits messageFits, List.nil_append]
  | response message =>
      have messageFits : Fits message := fits
      simp only [frame, write, writeMessage_of_fits messageFits, List.nil_append]

theorem write_of_not_fits {message : AnyMessage}
    (large : ¬ message.encodedLength ≤ maxMessageBytes) (writer : List UInt8) :
    message.write writer = (.error (.messageTooLarge message.encodedLength), writer) := by
  cases message with
  | request message =>
      have messageLarge : ¬ Fits message := large
      exact writeMessage_of_not_fits messageLarge writer
  | response message =>
      have messageLarge : ¬ Fits message := large
      exact writeMessage_of_not_fits messageLarge writer

theorem frame_request {message : Request} (fits : Fits message) :
    (request message).frame = VCable.frame message := by
  simp only [frame, write, writeMessage_of_fits fits, List.nil_append]

theorem frame_response {message : Response} (fits : Fits message) :
    (response message).frame = VCable.frame message := by
  simp only [frame, write, writeMessage_of_fits fits, List.nil_append]

theorem read_frame {message : AnyMessage} (fits : message.encodedLength ≤ maxMessageBytes)
    (further : List UInt8) :
    read message.kind (message.frame ++ further) = .ok (message, further) := by
  cases message with
  | request message =>
      have messageFits : Fits message := fits
      rw [frame_request messageFits, kind, read,
        readMessage_frame messageFits message.decode_encode further]
      rfl
  | response message =>
      have messageFits : Fits message := fits
      rw [frame_response messageFits, kind, read,
        readMessage_frame messageFits message.decode_encode further]
      rfl

theorem read_strict_prefix {message : AnyMessage} (fits : message.encodedLength ≤ maxMessageBytes)
    {reader : List UInt8} (starts : reader <+: message.frame) (strict : reader ≠ message.frame) :
    read message.kind reader = .error .truncated := by
  cases message with
  | request message =>
      have messageFits : Fits message := fits
      rw [frame_request messageFits] at starts strict
      rw [kind, read, readMessage_strict_prefix messageFits starts strict]
      rfl
  | response message =>
      have messageFits : Fits message := fits
      rw [frame_response messageFits] at starts strict
      rw [kind, read, readMessage_strict_prefix messageFits starts strict]
      rfl

theorem writeAll_eq_flatMap (messages : List AnyMessage) :
    writeAll messages = (fitting messages).flatMap frame := by
  have appends : ∀ writer, messages.foldl (fun writer message => (message.write writer).2) writer =
      writer ++ (fitting messages).flatMap frame := by
    induction messages with
    | nil => simp [fitting]
    | cons message messages ih =>
        intro writer
        rw [List.foldl_cons, ih]
        by_cases fits : message.encodedLength ≤ maxMessageBytes
        · simp [write_of_fits fits, fitting, fits]
        · simp [write_of_not_fits fits, fitting, fits]
  rw [writeAll, appends, List.nil_append]

theorem readAll_flatMap_frame {messages : List AnyMessage}
    (fits : ∀ message ∈ messages, message.encodedLength ≤ maxMessageBytes) (further : List UInt8) :
    readAll (messages.map kind) (messages.flatMap frame ++ further) = .ok (messages, further) := by
  induction messages with
  | nil => rfl
  | cons message messages ih =>
      rw [List.map_cons, List.flatMap_cons, List.append_assoc, readAll,
        read_frame (fits message (by simp))]
      change (do
        let (messages, reader) ← readAll (messages.map kind) (messages.flatMap frame ++ further)
        return (message :: messages, reader)) = .ok (message :: messages, further)
      rw [ih fun other otherMem => fits other (by simp [otherMem])]
      rfl

end AnyMessage

/-- Decoding undoes encoding; a message is written exactly when its encoding
is short enough, and otherwise nothing is; a stream of frames is read back
message by message up to the bytes after it; and a frame that is cut short is
reported as truncated. -/
theorem control_protocol_round_trips :
    (∀ request : Request, Request.decode request.encode = .ok request) ∧
    (∀ response : Response, Response.decode response.encode = .ok response) ∧
    (∀ (message : AnyMessage) (writer : List UInt8),
      ((message.write writer).1 = .ok () ↔ message.encodedLength ≤ maxMessageBytes) ∧
      (¬ message.encodedLength ≤ maxMessageBytes → (message.write writer).2 = writer)) ∧
    (∀ (messages : List AnyMessage) (further : List UInt8),
      AnyMessage.readAll ((AnyMessage.fitting messages).map AnyMessage.kind)
        (AnyMessage.writeAll messages ++ further) = .ok (AnyMessage.fitting messages, further)) ∧
    (∀ message : AnyMessage, message.encodedLength ≤ maxMessageBytes →
      ∀ reader, reader <+: message.frame → reader ≠ message.frame →
        AnyMessage.read message.kind reader = .error .truncated) := by
  refine ⟨Request.decode_encode, Response.decode_encode, ?_, ?_, ?_⟩
  · intro message writer
    by_cases fits : message.encodedLength ≤ maxMessageBytes
    · simp [AnyMessage.write_of_fits fits, fits]
    · simp [AnyMessage.write_of_not_fits fits, fits]
  · intro messages further
    rw [AnyMessage.writeAll_eq_flatMap]
    refine AnyMessage.readAll_flatMap_frame (fun message fitsMem => ?_) further
    simpa using (List.mem_filter.mp fitsMem).2
  · intro message fits reader starts strict
    exact AnyMessage.read_strict_prefix fits starts strict

end VCable
