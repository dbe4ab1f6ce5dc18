import EditorProtocol.Framing.Error
import EditorProtocol.Number.Numeral
import EditorProtocol.Text.Encoding.Reader

/-!
The header of a message: lines with a name and a value, up to an empty line. Neither the case of a
name nor blanks around name and value count; of two lines of a name the last one counts.
-/

namespace EditorProtocol

/-- Bytes of a stream that are still to be read. -/
abbrev Bytes := List UInt8

/-- The most bytes that a line of a header has before its line feed. -/
def lineLimit : Nat := 65536

/-- The bytes of a line with its line feed, and the bytes after it; the last line may lack one. A
line that is too long is passed over. -/
def takeLine (bytes : Bytes) : Except ReceiveError Bytes × Bytes :=
  let line := bytes.takeWhile (· != 10)
  match bytes.dropWhile (· != 10) with
  | newline :: rest =>
    if lineLimit < line.length then (.error (.longLine true), rest)
    else (.ok (line ++ [newline]), rest)
  | [] =>
    if lineLimit < line.length then (.error (.longLine false), [])
    else if line.isEmpty then (.error .ended, [])
    else (.ok line, [])

/-- Whether an ASCII character is blank. -/
def isHeaderBlank (c : Char) : Bool :=
  let n := c.val.toNat
  (9 ≤ n && n ≤ 13) || (28 ≤ n && n ≤ 32)

def trimBlanks (s : List Char) : List Char :=
  ((s.dropWhile isHeaderBlank).reverse.dropWhile isHeaderBlank).reverse

/-- The names, in small letters, and values of the lines of a header. -/
abbrev Header := List (List Char × List Char)

/-- A line of a header that is not the empty one. -/
inductive HeaderLine where
  | last
  | field (name value : List Char)
deriving DecidableEq, Repr

/-- A line that was read as text: the last one is empty; another one has a colon between its name
and its value and ends in a carriage return and a line feed. -/
def HeaderLine.of (line : List Char) : Except FrameFault HeaderLine :=
  if line = ['\r', '\n'] then .ok .last
  else if ['\r', '\n'].isSuffixOf line ∧ ':' ∈ line then
    let content := line.take (line.length - 2)
    let name := content.takeWhile (· != ':')
    let value := (content.dropWhile (· != ':')).drop 1
    .ok (.field ((trimBlanks name).map Char.toLower) (trimBlanks value))
  else .error (.badHeader (String.ofList line))

theorem length_takeLine_lt {bytes rest line : Bytes} (h : takeLine bytes = (.ok line, rest)) :
    rest.length < bytes.length := by
  unfold takeLine at h
  have total : (bytes.takeWhile (· != 10)).length + (bytes.dropWhile (· != 10)).length =
      bytes.length := by
    rw [← List.length_append, List.takeWhile_append_dropWhile]
  split at h
  · rename_i newline after eq
    dsimp only at h
    split at h
    · cases h
    · cases h
      rw [eq, List.length_cons] at total
      omega
  · dsimp only at h
    split at h
    · cases h
    · split at h
      · cases h
      · rename_i nonempty
        cases h
        simp only [List.isEmpty_iff] at nonempty
        cases bytes with
        | nil => simp at nonempty
        | cons b bs => simp

/-- The header at the front of the bytes and what follows its last line; after a fault, the bytes
after the line at fault. -/
def takeHeader (bytes : Bytes) : Except ReceiveError Header × Bytes :=
  match _h : takeLine bytes with
  | (.error e, rest) => (.error e, rest)
  | (.ok line, rest) =>
    match readAscii.readAll "ascii" 0 line with
    | .error e => (.error (.encoding e), rest)
    | .ok chars =>
      match HeaderLine.of chars with
      | .error f => (.error (.fault f), rest)
      | .ok .last => (.ok [], rest)
      | .ok (.field name value) =>
        match takeHeader rest with
        | (.ok header, rest) => (.ok ((name, value) :: header), rest)
        | (.error e, rest) => (.error e, rest)
termination_by bytes.length
decreasing_by exact length_takeLine_lt _h

/-- The value of the last line of a name. -/
def Header.find? (name : List Char) (header : Header) : Option (List Char) :=
  header.reverse.lookup name

def lengthName : List Char := "content-length".toList

/-- The length of the content that a header announces, within the limit. -/
def Header.contentLength (limit : Nat) (header : Header) : Except FrameFault Nat :=
  match header.find? lengthName with
  | none => .error .noLength
  | some text =>
    match Numeral.integer? text with
    | none => .error (.badLength (String.ofList text))
    | some n =>
      if n < 0 ∨ (limit : Int) < n then .error (.lengthOutOfBounds n limit) else .ok n.toNat

end EditorProtocol
