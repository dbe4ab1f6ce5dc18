import EditorProtocol.Terminal.Emoji
import EditorProtocol.Terminal.Width

/-!
Texts laid out on a screen: what would control the device is left out, a tab leads to the next of
the stops, and a text either flows on beyond the edge or is broken between its words, within a word
only if that is wider than the screen.
-/

namespace EditorProtocol.Terminal

/-- The cells of a line. -/
def screenWidth : Nat := 200

/-- The cells from a stop of the tabs to the next. -/
def tabStop : Nat := 8

/-- Whether a character only gives a command to the device: the bell, a step back, a tab down, a
new page, or the way back to the start of the line. -/
def isCommand (c : Char) : Bool :=
  let n := c.val.toNat
  n == 7 || n == 8 || (11 ≤ n && n ≤ 13)

/-- A line with blanks for its tabs, after some cells. A tab is at least one blank. -/
def withoutTabs (column : Nat) : List Char → List Char
  | [] => []
  | '\t' :: rest =>
    let more := (tabStop - (column + 1) % tabStop) % tabStop
    List.replicate (more + 1) ' ' ++ withoutTabs (column + 1 + more) rest
  | c :: rest => c :: withoutTabs (column + cellsOf c) rest

/-- A line of too many characters without the blanks at its end that are too many. -/
def trimmedTo (size : Nat) (s : List Char) : List Char :=
  s.take (max size (withoutEnd s).length)

/-- A character before words: it is part of the first one, unless it is a blank that follows the
word before. -/
def beforeWords (c : Char) : List (List Char) → List (List Char)
  | [] => [[c]]
  | w :: ws =>
    if isBlank c && !(w.head?.any isBlank) then [c] :: w :: ws else (c :: w) :: ws

/-- The words of a line, each with the blanks after it, and the first with those before it too. -/
def words (s : List Char) : List (List Char) :=
  match s.foldr beforeWords [] with
  | gap :: w :: ws => if gap.all isBlank then (gap ++ w) :: ws else gap :: w :: ws
  | ws => ws

/-- A word in pieces of some cells at the most, of which the first has some already. -/
def pieces (size used : Nat) : List Char → List (List Char)
  | [] => [[]]
  | c :: rest =>
    let fits := used + cellsOf c ≤ size
    match pieces size (if fits then used + cellsOf c else cellsOf c) rest with
    | p :: ps => if fits then (c :: p) :: ps else [] :: (c :: p) :: ps
    | [] => [[c]]

/-- Lines of some cells, the first of which has begun already, from words. Blanks at the end of a
word do not count for whether it fits. -/
def filled (size : Nat) (line : List Char) : List (List Char) → List (List Char)
  | [] => [line]
  | word :: rest =>
    let cells := width (withoutEnd word)
    if width line + cells ≤ size then filled size (line ++ word) rest
    else
      let started := if line.isEmpty then [] else [line]
      if size < cells then
        let ps := pieces size 0 word
        started ++ ps.dropLast ++ filled size (ps.getLast?.getD []) rest
      else started ++ filled size word rest

/-- The start of a line that has room in some cells; half of a wide character leaves a blank. -/
def cropped (size : Nat) : List Char → List Char
  | [] => []
  | c :: rest =>
    if size < cellsOf c then List.replicate size ' '
    else c :: cropped (size - cellsOf c) rest

/-- The lines that a text has by itself, as they are shown. -/
def ownLines (s : List Char) : List (List Char) :=
  ((String.ofList (s.filter (!isCommand ·))).splitOn "\n").map fun l => withoutTabs 0 l.toList

def linesText (lines : List (List Char)) : String :=
  String.join (lines.map fun l => String.ofList l ++ "\n")

/-- A text on lines as long as they are. -/
def flowing (s : List Char) : String :=
  linesText ((ownLines s).map (trimmedTo screenWidth))

/-- A text on lines that are no longer than the screen is wide. -/
def wrapped (s : List Char) : String :=
  linesText ((ownLines s).flatMap fun l =>
    (filled screenWidth [] (words l)).map fun l => cropped screenWidth (trimmedTo screenWidth l))

end EditorProtocol.Terminal
