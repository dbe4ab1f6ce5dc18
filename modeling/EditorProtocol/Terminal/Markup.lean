import EditorProtocol.Terminal.Emoji

/-!
Text with tags for its style. A tag is a word in brackets; one that begins with a slash closes the
last open tag of the same name, or of any name if it has none. A backslash before a tag turns it
into plain text, and two before it stand for one.
-/

namespace EditorProtocol.Terminal

/-- A part of a text with tags. -/
inductive Part where
  | plain (s : List Char)
  /-- A tag by what stands in its brackets. -/
  | tag (s : List Char)
deriving DecidableEq, Repr

/-- Whether a character may be the first of a tag. -/
def opensTag (c : Char) : Bool := c.isLower || c == '#' || c == '/' || c == '@'

/-- What stands in the brackets of the tag at the front of a text. -/
def tag? : List Char → Option (List Char)
  | '[' :: c :: rest =>
    let more := rest.takeWhile fun d => d != '[' && d != ']'
    if opensTag c && rest[more.length]? == some ']' then some (c :: more) else none
  | _ => none

/-- The tag at the front of a text with the backslashes before it, and the length of both. -/
def marked? (s : List Char) : Option (List Part × Nat) :=
  let count := (s.takeWhile (· == '\\')).length
  (tag? (s.drop count)).map fun t =>
    let slashes := if count < 2 then [] else [Part.plain (List.replicate (count / 2) '\\')]
    let tag := if count % 2 = 1 then Part.plain ('[' :: (t ++ [']'])) else Part.tag t
    (slashes ++ [tag], count + t.length + 2)

/-- A plain part of the characters before, of which the last comes first. -/
def plainBefore (before : List Char) : List Part :=
  if before.isEmpty then [] else [.plain before.reverse]

/-- The parts of a text after the characters before, of which the last comes first. -/
def partsAfter (before : List Char) : List Char → List Part
  | [] => plainBefore before
  | c :: rest =>
    match marked? (c :: rest) with
    | some (found, size) => plainBefore before ++ found ++ partsAfter [] (rest.drop (size - 1))
    | none => partsAfter (c :: before) rest
termination_by s => s.length
decreasing_by
  · simp only [List.length_drop, List.length_cons]
    omega
  · simp

def parts (s : List Char) : List Part := partsAfter [] s

/-- Brackets that a backslash stands before, without it. -/
def unescaped : List Char → List Char
  | '\\' :: '[' :: rest => '[' :: unescaped rest
  | c :: rest => c :: unescaped rest
  | [] => []

/-- A name without blanks around it, in small letters. -/
def tagName (s : List Char) : List Char :=
  Text.smallLetters (withoutEnd (s.dropWhile isBlank))

/-- What parts show, given the names of the open tags, the last one first; nothing if a tag closes
what is not open. -/
def shownAfter? (opened : List (List Char)) : List Part → Option (List Char)
  | [] => some []
  | .plain s :: rest => do return Emoji.replace (unescaped s) ++ (← shownAfter? opened rest)
  | .tag t :: rest =>
    match t.takeWhile (· != '=') with
    | '/' :: name =>
      let name := tagName name
      if name.isEmpty then
        if opened.isEmpty then none else shownAfter? opened.tail rest
      else if opened.contains name then shownAfter? (opened.erase name) rest
      else none
    | name => shownAfter? (tagName name :: opened) rest

/-- What a text with tags shows. -/
def shown? (s : List Char) : Option (List Char) := shownAfter? [] (parts s)

end EditorProtocol.Terminal
