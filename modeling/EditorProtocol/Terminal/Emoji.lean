import EditorProtocol.Terminal.Blank
import EditorProtocol.Terminal.Emoji.Names
import EditorProtocol.Text.Letters

/-!
Emoji by their names. A name between two colons, with no blank in it, is shown as its emoji; what
follows the name asks for a rendering in colours or as plain text. People also come in five tones
of skin, which are named after them.
-/

namespace EditorProtocol.Terminal.Emoji

/-- Members that take turns, as pairs. -/
def pairs : List String → List (String × String)
  | name :: emoji :: rest => (name, emoji) :: pairs rest
  | _ => []

/-- Emoji by their names, from lines of both. -/
def entries (lines : List String) : List (String × String) :=
  pairs (lines.flatMap fun s => s.splitOn " ")

/-- The ends of the names of emoji in a tone of skin, and the characters that stand for the tone. -/
def tones : List (String × Nat) := [
  ("_light_skin_tone", 0x1F3FB), ("_medium-light_skin_tone", 0x1F3FC),
  ("_medium_skin_tone", 0x1F3FD), ("_medium-dark_skin_tone", 0x1F3FE),
  ("_dark_skin_tone", 0x1F3FF)]

/-- What is written after a name to ask for a rendering, and the character that does so. -/
def renderings : List (String × Nat) := [("-text", 0xFE0E), ("-emoji", 0xFE0F)]

/-- The end of a name that a table knows, with its character, and the name without it. -/
def ending? (table : List (String × Nat)) (name : String) : Option (String × Char) :=
  (table.find? fun e => name.endsWith e.1).map fun (ending, n) =>
    (String.ofList (name.toList.take (name.length - ending.length)), Char.ofNat n)

/-- An emoji in a tone, which stands after its first character in place of any rendering there. -/
def inTone (tone : Char) : List Char → List Char
  | [] => []
  | c :: rest => c :: tone :: (if rest.head? = some (Char.ofNat 0xFE0F) then rest.drop 1 else rest)

/-- The emoji of a name. -/
def ofName? (name : String) : Option (List Char) :=
  match (entries (symbols ++ people ++ flags)).lookup name with
  | some emoji => some emoji.toList
  | none => do
    let (person, tone) ← ending? tones name
    return inTone tone (← (entries people).lookup person).toList

/-- The emoji that the text between two colons asks for; case does not count in a name. -/
def ofCode? (code : List Char) : Option (List Char) :=
  let written := String.ofList code
  let (name, rendering) := match ending? renderings written with
    | some (name, c) => (name, [c])
    | none => (written, [])
  (ofName? (String.ofList (Text.smallLetters name.toList))).map (· ++ rendering)

/-- A text with its emoji; an unknown name stays as it is written, with both of its colons. -/
def replace : List Char → List Char
  | [] => []
  | c :: rest =>
    let code := rest.takeWhile fun d => d != ':' && !isBlank d
    if c = ':' ∧ rest[code.length]? = some ':' then
      (ofCode? code).getD (':' :: (code ++ [':'])) ++ replace (rest.drop (code.length + 1))
    else c :: replace rest
termination_by s => s.length
decreasing_by
  · simp only [List.length_drop, List.length_cons]
    omega
  · simp

end EditorProtocol.Terminal.Emoji
