import EditorProtocol.Json.Written
import EditorProtocol.Text.Encoding.Basic
import EditorProtocol.Text.Quoted

/-!
Why no message can be taken from a stream of bytes, or a message not be written to one.
-/

namespace EditorProtocol

/-- Why bytes are no message although the stream went on. -/
inductive FrameFault where
  | badHeader (line : String)
  | noLength
  | badLength (text : String)
  | lengthOutOfBounds (length : Int) (limit : Nat)
  | badText (e : EncodingError)
  | badJson (reason : String)
  | notObject (kind : String)
deriving DecidableEq, Repr

def FrameFault.message : FrameFault → String
  | .badHeader line => "Invalid HTTP header: " ++ Text.quoted line
  | .noLength => "Missing Content-Length header"
  | .badLength text => "Invalid Content-Length header: " ++ Text.quoted text
  | .lengthOutOfBounds length limit =>
    "Content-Length " ++ toString length ++ " out of bounds (max " ++ toString limit ++ ")"
  | .badText e => "Invalid message content: " ++ e.message
  | .badJson reason => "Invalid message content: " ++ reason
  | .notObject kind => "Expected a JSON object, got " ++ kind

/-- Why no message was taken from a stream. -/
inductive ReceiveError where
  | fault (f : FrameFault)
  /-- The stream ended in a header. -/
  | ended
  /-- The stream ended in a content. -/
  | cutOff (present expected : Nat)
  /-- A line of a header is too long, whether or not its end was seen. -/
  | longLine (endSeen : Bool)
  /-- An integer in a content has too many digits. -/
  | tooLong (digits : Nat)
  /-- A header has a byte beyond ASCII, or the encoding of contents is unknown. -/
  | encoding (e : EncodingError)
deriving DecidableEq, Repr

def ReceiveError.message : ReceiveError → String
  | .fault f => f.message
  | .ended => "Stream closed while reading message headers"
  | .cutOff present expected =>
    toString present ++ " bytes read on a total of " ++ toString expected ++ " expected bytes"
  | .longLine true => "Separator is found, but chunk is longer than limit"
  | .longLine false => "Separator is not found, and chunk exceed the limit"
  | .tooLong digits => Numeral.excessText (some digits)
  | .encoding e => e.message

/-- Why a message was not written. -/
inductive SendError where
  | json (e : Json.WriteError)
  | encoding (e : EncodingError)
deriving DecidableEq, Repr

def SendError.message : SendError → String
  | .json e => e.message
  | .encoding e => e.message

end EditorProtocol
