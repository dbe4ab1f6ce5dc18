/-!
Reading from the front of a text. What is read comes with the rest, which is shorter than the text,
so that a reader may go on with it.
-/

namespace EditorProtocol

/-- Something read from the front of a text, and the rest. -/
structure Parsed (α : Type) (s : List Char) where
  value : α
  rest : List Char
  shorter : rest.length < s.length

namespace Parsed

variable {α β : Type} {s t : List Char}

/-- Something read after something else of the same text. -/
def after (p : Parsed α t) (f : α → β) (h : t.length ≤ s.length) : Parsed β s :=
  ⟨f p.value, p.rest, Nat.lt_of_lt_of_le p.shorter h⟩

/-- A character read in front of a string's rest. -/
def cons (c : Char) (p : Parsed (List Char) t) (h : t.length ≤ s.length) :
    Parsed (List Char) s :=
  p.after (c :: ·) h

/-- Something read with a rest that is looked at here to be shorter. -/
def ofShorter? (s : List Char) (a : α) (rest : List Char) : Option (Parsed α s) :=
  if h : rest.length < s.length then some ⟨a, rest, h⟩ else none

end Parsed

end EditorProtocol
