import EditorProtocol.Number.Numeral

/-!
Blanks of a text that is shown: those around a numeral, and the separators among the controls.
-/

namespace EditorProtocol.Terminal

def isBlank (c : Char) : Bool :=
  Numeral.isBlank c || (28 ≤ c.val.toNat && c.val.toNat ≤ 31)

/-- A text without the blanks at its end. -/
def withoutEnd (s : List Char) : List Char := (s.reverse.dropWhile isBlank).reverse

end EditorProtocol.Terminal
