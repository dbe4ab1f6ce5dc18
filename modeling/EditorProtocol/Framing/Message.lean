import EditorProtocol.Config.Settings
import EditorProtocol.Framing.Header
import EditorProtocol.Json.Text
import EditorProtocol.Logging.Entry
import EditorProtocol.Text.Encoding.Name

/-!
Messages in a stream of bytes: a header that announces the length of a content, and the content, an
object as JSON in the encoding of the settings.
-/

namespace EditorProtocol

/-- What came of taking a message from a stream: the message or why there is none, the bytes after
it, and what was noted in the log. -/
structure Received where
  outcome : Except ReceiveError Value
  rest : Bytes
  log : List LogEntry := []

/-- The entry for a content that arrived. -/
def arrivalEntry (length : Nat) : LogEntry :=
  ⟨.debug, "lsp_contract.rpc_protocol", "Received message of " ++ toString length ++ " bytes"⟩

/-- The object that a content is. -/
def readContent (encoding : String) (content : Bytes) : Except ReceiveError Value :=
  match decodeNamed encoding content with
  | .error (.undecodable scheme start bytes fault) =>
    .error (.fault (.badText (.undecodable scheme start bytes fault)))
  | .error e => .error (.encoding e)
  | .ok chars =>
    match Json.parseChars chars with
    | .error ⟨.tooLong digits, _⟩ => .error (.tooLong digits)
    | .error e => .error (.fault (.badJson (e.message chars)))
    | .ok (.object es) => .ok (.object es)
    | .ok v => .error (.fault (.notObject v.kindName))

/-- The message at the front of the bytes. A content that is cut off is lost. -/
def receive (settings : TransportSettings) (bytes : Bytes) : Received :=
  match takeHeader bytes with
  | (.error e, rest) => { outcome := .error e, rest }
  | (.ok header, rest) =>
    match header.contentLength settings.maxContentLength.val with
    | .error f => { outcome := .error (.fault f), rest }
    | .ok length =>
      if rest.length < length then { outcome := .error (.cutOff rest.length length), rest := [] }
      else
        { outcome := readContent settings.encoding (rest.take length)
          rest := rest.drop length
          log := [arrivalEntry length] }

/-- The header of a content. -/
def headerText (settings : TransportSettings) (length : Nat) : String :=
  "Content-Length: " ++ toString length ++ "\r\nContent-Type: " ++ settings.contentType ++
    "; charset=" ++ settings.encoding ++ "\r\n\r\n"

/-- The bytes of a message. -/
def frame (settings : TransportSettings) (message : Value) : Except SendError Bytes := do
  let json ← (Json.write message).mapError .json
  let content ← (encodeNamed settings.encoding json.toList).mapError .encoding
  let header ← (Encoding.ascii.encode (headerText settings content.length).toList).mapError
    .encoding
  return header ++ content

end EditorProtocol
