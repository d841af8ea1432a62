import VCable.IntegerText
import VCable.RoutingGraph

/-!
# The control protocol

Requests and responses as tab-separated texts with percent escapes, and their
length-prefixed frames.  Readers and writers are byte lists: a writer takes
every byte, and a reader ends where its list ends.
-/

namespace VCable

open Utf8Text

def maxMessageBytes : Nat := 1024 * 1024

inductive Request where
  | ping
  | status
  | shutdown
  | createDevice (id name : String) (inputChannels outputChannels sampleRate : UInt32)
  | deleteDevice (id : String)
  | connect (id source sink : String) (gainMillidb : Int32) (matrixMillionths : List Int32)
  | disconnect (id : String)
  deriving DecidableEq

inductive Response where
  | ok (message : String)
  | error (code message : String)
  deriving DecidableEq, Repr

inductive ProtocolError where
  | messageTooLarge (size : Nat)
  | truncated
  | invalidUtf8
  | invalidMessage (message : String)
  deriving DecidableEq, Repr

class Message (M : Type) where
  encode : M → String
  decode : String → Except ProtocolError M

/-! ## Fields -/

/-- The bytes that `escape` keeps besides letters and digits. -/
def fieldPunctuation : List UInt8 := bytes "._:-/ "

def escapeByte (byte : UInt8) : List Char :=
  if isAsciiAlphanumeric byte || fieldPunctuation.contains byte then [asciiChar byte]
  else '%' :: IntegerText.hexByte byte

def escape (value : String) : String :=
  String.ofList ((bytes value).flatMap escapeByte)

/-- The loop of `unescape` over the bytes that are left. -/
def unescapeBytes : List UInt8 → Except ProtocolError (List UInt8)
  | [] => .ok []
  | byte :: rest =>
      if byte ≠ 37 then (unescapeBytes rest).map (byte :: ·)
      else
        match rest with
        | high :: low :: rest =>
            match ofBytes [high, low] with
            | none => .error (.invalidMessage "invalid escape")
            | some digits =>
                match IntegerText.parse 16 0 255 digits.toList with
                | none => .error (.invalidMessage "invalid escape")
                | some value => (unescapeBytes rest).map (UInt8.ofNat value.toNat :: ·)
        | _ => .error (.invalidMessage "incomplete escape")

def unescape (value : String) : Except ProtocolError String :=
  match unescapeBytes (bytes value) with
  | .error failure => .error failure
  | .ok result =>
      match ofBytes result with
      | some text => .ok text
      | none => .error .invalidUtf8

/-- `str::parse` for the two integer types of the protocol. -/
class FromStr (T : Type) where
  fromStr : String → Option T

instance : FromStr UInt32 where
  fromStr value :=
    (IntegerText.parse 10 0 4294967295 value.toList).map fun number => UInt32.ofNat number.toNat

instance : FromStr Int32 where
  fromStr value :=
    (IntegerText.parse 10 (-2147483648) 2147483647 value.toList).map Int32.ofInt

def parse {T : Type} [FromStr T] (value field : String) : Except ProtocolError T :=
  match FromStr.fromStr value with
  | some number => .ok number
  | none => .error (.invalidMessage ("invalid " ++ field ++ ": " ++ value))

/-- `str::split` at a separator character. -/
def split (separator : Char) (value : String) : List String :=
  (value.toList.splitOn separator).map String.ofList

/-! ## Messages -/

namespace Request

def encodeMatrix (matrixMillionths : List Int32) : String :=
  ",".intercalate (matrixMillionths.map fun value => toString value.toInt)

def encode : Request → String
  | ping => "ping"
  | status => "status"
  | shutdown => "shutdown"
  | createDevice id name inputChannels outputChannels sampleRate =>
      "\t".intercalate ["create", escape id, escape name, toString inputChannels.toNat,
        toString outputChannels.toNat, toString sampleRate.toNat]
  | deleteDevice id => "\t".intercalate ["delete", escape id]
  | connect id source sink gainMillidb matrixMillionths =>
      "\t".intercalate ["connect", escape id, escape source, escape sink,
        toString gainMillidb.toInt, encodeMatrix matrixMillionths]
  | disconnect id => "\t".intercalate ["disconnect", escape id]

def decodeMatrix (matrix : String) : Except ProtocolError (List Int32) :=
  if matrix = "" then .ok []
  else (split ',' matrix).mapM fun value => parse value "matrix coefficient"

def decode (value : String) : Except ProtocolError Request :=
  match split '\t' value with
  | ["ping"] => .ok ping
  | ["status"] => .ok status
  | ["shutdown"] => .ok shutdown
  | ["create", id, name, input, output, rate] => do
      let id ← unescape id
      let name ← unescape name
      let inputChannels ← parse input "input channel count"
      let outputChannels ← parse output "output channel count"
      let sampleRate ← parse rate "sample rate"
      return createDevice id name inputChannels outputChannels sampleRate
  | ["delete", id] => do
      let id ← unescape id
      return deleteDevice id
  | ["connect", id, source, sink, gain, matrix] => do
      let id ← unescape id
      let source ← unescape source
      let sink ← unescape sink
      let gainMillidb ← parse gain "gain"
      let matrixMillionths ← decodeMatrix matrix
      return connect id source sink gainMillidb matrixMillionths
  | ["disconnect", id] => do
      let id ← unescape id
      return disconnect id
  | _ => .error (.invalidMessage value)

instance : Message Request := ⟨encode, decode⟩

end Request

namespace Response

def encode : Response → String
  | ok message => "\t".intercalate ["ok", escape message]
  | error code message => "\t".intercalate ["error", escape code, escape message]

def decode (value : String) : Except ProtocolError Response :=
  match split '\t' value with
  | ["ok", message] => do
      let message ← unescape message
      return ok message
  | ["error", code, message] => do
      let code ← unescape code
      let message ← unescape message
      return error code message
  | _ => .error (.invalidMessage value)

instance : Message Response := ⟨encode, decode⟩

end Response

/-! ## Frames -/

/-- `u32::to_be_bytes`. -/
def toBeBytes (value : Nat) : List UInt8 :=
  [UInt8.ofNat (value / 2 ^ 24), UInt8.ofNat (value / 2 ^ 16), UInt8.ofNat (value / 2 ^ 8),
    UInt8.ofNat value]

/-- `u32::from_be_bytes`. -/
def fromBeBytes (encoded : List UInt8) : Nat :=
  encoded.foldl (fun value byte => 2 ^ 8 * value + byte.toNat) 0

/-- `write_message`: the result, and the writer with what was written. -/
def writeMessage {M : Type} [Message M] (writer : List UInt8) (message : M) :
    Except ProtocolError Unit × List UInt8 :=
  let body := bytes (Message.encode message)
  if body.length > maxMessageBytes then
    (.error (.messageTooLarge body.length), writer)
  else if body.length ≥ 2 ^ 32 then
    (.error (.messageTooLarge body.length), writer)
  else
    (.ok (), writer ++ toBeBytes body.length ++ body)

/-- `read_exact` on a reader that holds the given bytes. -/
def readExact (count : Nat) (reader : List UInt8) : Option (List UInt8 × List UInt8) :=
  if count ≤ reader.length then some (reader.splitAt count) else none

/-- `read_message`: the message, and the bytes that are left in the reader. -/
def readMessage (M : Type) [Message M] (reader : List UInt8) :
    Except ProtocolError (M × List UInt8) :=
  match readExact 4 reader with
  | none => .error .truncated
  | some (length, reader) =>
      let length := fromBeBytes length
      if length > maxMessageBytes then .error (.messageTooLarge length)
      else
        match readExact length reader with
        | none => .error .truncated
        | some (body, reader) =>
            match ofBytes body with
            | none => .error .invalidUtf8
            | some body => (Message.decode body).map fun message => (message, reader)

end VCable
