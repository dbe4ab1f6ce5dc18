import EditorProtocol.Number.Double
import EditorProtocol.Number.Numeral

/-!
Reading decimals from texts: a sign, digits with or without a point among them, and an exponent.
Infinity and not-a-number are read by name.
-/

namespace EditorProtocol.Double

/-- The exponent that a text writes after its mark; no mark is the exponent zero. -/
def exponentOf? : List Char → Option Int
  | [] => some 0
  | e :: rest =>
    let (negative, digits) := Numeral.sign rest
    if e.toLower != 'e' || digits.isEmpty || !digits.all Numeral.isDecimal then none
    else some (Numeral.withSign negative (Numeral.value 10 digits))

/-- The number without a sign that a text writes. There is a digit before or after the point. -/
def ofUnsigned? (negative : Bool) (s : List Char) : Option Double :=
  let whole := s.takeWhile Numeral.isDecimal
  let (fraction, rest) :=
    match s.dropWhile Numeral.isDecimal with
    | '.' :: r => (r.takeWhile Numeral.isDecimal, r.dropWhile Numeral.isDecimal)
    | r => ([], r)
  if (whole ++ fraction).isEmpty then none
  else
    (exponentOf? rest).map fun e =>
      ofDecimal negative (Numeral.value 10 (whole ++ fraction)) (e - fraction.length)

/-- The number that a whole text writes. -/
def ofText? (s : List Char) : Option Double :=
  let (negative, unsigned) := Numeral.sign s
  let name := String.ofList (unsigned.map Char.toLower)
  if name == "inf" || name == "infinity" then some (infinity negative)
  else if name == "nan" then some nan
  else ofUnsigned? negative unsigned

end EditorProtocol.Double
