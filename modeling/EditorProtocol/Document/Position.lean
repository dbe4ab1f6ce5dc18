/-!
Places in a document and the stretches between them. A position is a line and a character in it;
positions are ordered by line first. A span goes from its start to its end and is not reversed.
-/

namespace EditorProtocol

/-- A line and a character in it. Values that nobody checked may be negative. -/
structure Position where
  line : Int
  character : Int
deriving DecidableEq, Repr, Inhabited

namespace Position

/-- Whether a position comes before another one. -/
def before (p q : Position) : Bool :=
  decide (p.line < q.line) || (p.line == q.line && decide (p.character < q.character))

/-- Whether a position comes before another one or is the same. -/
def upTo (p q : Position) : Bool := !q.before p

/-- Positions in order; equal ones stay as they are. -/
def sorted (ps : List Position) : List Position := ps.mergeSort upTo

/-- A position as line and character. -/
def render (p : Position) : String := toString p.line ++ ":" ++ toString p.character

end Position

/-- The stretch between two positions. -/
structure Span where
  start : Position
  stop : Position
deriving DecidableEq, Repr, Inhabited

namespace Span

/-- Whether the end comes before the start. -/
def isReversed (s : Span) : Bool := s.stop.before s.start

def isEmpty (s : Span) : Bool := s.start == s.stop

/-- Whether a position lies between start and end, both included. -/
def contains (s : Span) (p : Position) : Bool := s.start.upTo p && p.upTo s.stop

end Span

end EditorProtocol
