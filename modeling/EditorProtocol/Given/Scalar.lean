import EditorProtocol.Given.Basic
import EditorProtocol.Given.Breach
import EditorProtocol.Number.Decimal
import EditorProtocol.Text.Encoding.Reader

/-!
Reading scalars from what is given. A value may be given in another kind that means the same, such
as a number as a text of digits, or a text as its bytes.
-/

namespace EditorProtocol

/-! ## Integers as texts -/

namespace Numeral

/-- A numeral without the zeros, and the underscores between them, that it starts with. A sign may
follow them; in front of a point, and at the end, the last one stays. -/
def withoutLeadingZeros (s : List Char) : List Char :=
  match s with
  | '0' :: _ =>
    let zeros := s.takeWhile fun c => c == '0' || c == '_'
    match s.drop zeros.length with
    | [] => zeros.drop (zeros.length - 1)
    | '.' :: rest => zeros.drop (zeros.length - 1) ++ '.' :: rest
    | rest => rest
  | s => s

/-- A numeral without a fraction of zeros. -/
def withoutZeroFraction (s : List Char) : List Char :=
  match s.dropWhile (· != '.') with
  | '.' :: '0' :: zeros => if zeros.all (· == '0') then s.takeWhile (· != '.') else s
  | _ => s

/-- Digits grouped by single underscores, without the underscores. -/
def ungrouped (s : List Char) : List Char :=
  let rec doubled : List Char → Bool
    | '_' :: '_' :: _ => true
    | _ :: rest => doubled rest
    | [] => false
  if s.head? == some '_' || s.getLast? == some '_' || doubled s then s else s.filter (· != '_')

/-- The integer that digits, and a minus in front of them, write. -/
def read (s : List Char) : Except Breach Int :=
  let (negative, digits) :=
    match s with
    | '-' :: rest => (true, rest)
    | s => (false, s)
  if digits.isEmpty || !digits.all isDecimal ||
      (digits.head? == some '0' && digits.length != 1) then
    .error .noNumeral
  else if maxDigits < digits.length then .error .tooLarge
  else .ok (withSign negative (value 10 digits))

/-- The integer that a text writes, in one of several ways: between blanks, with a plus, with zeros
in front of it or in its fraction, with grouped digits. -/
def readText (s : List Char) : Except Breach Int :=
  let unsigned :=
    match trimmed s with
    | '+' :: '-' :: _ => []
    | '+' :: rest => rest
    | s => s
  read (ungrouped (withoutZeroFraction (withoutLeadingZeros unsigned)))

end Numeral

/-! ## Readers -/

namespace Given

/-- The text that is given, as it is or as its bytes. -/
def text? : Given → Option String
  | .text s => some s
  | .bytes bs => (readUtf8.readAll "utf-8" 0 bs).toOption.map String.ofList
  | _ => none

def readText : Given → Except Breach String
  | .text s => .ok s
  | .bytes bs => (text? (.bytes bs)).elim (.error .notUtf8) .ok
  | _ => .error .notText

/-- The integer that is meant: a boolean counts as zero or one. -/
def readInteger : Given → Except Breach Int
  | .int n => .ok n
  | .bool b => .ok (if b then 1 else 0)
  | .float x =>
    if x.isNaN || !x.isFinite then .error .unbounded
    else if x.toInt?.isNone then .error .fractional
    else x.word?.elim (.error .tooLarge) .ok
  | .text s => Numeral.readText s.toList
  | .bytes bs => (text? (.bytes bs)).elim (.error .noNumeral) fun s => Numeral.readText s.toList
  | _ => .error .notInteger

/-- The number that is meant: an integer counts as the float next to it. -/
def readFloat : Given → Except Breach Double
  | .float x => .ok x
  | .int n => (Double.ofInt? n).elim (.error .notFloat) .ok
  | .bool b => .ok ((Double.ofInt? (if b then 1 else 0)).getD .zero)
  | .strange => .error .notFloat
  | .section _ => .error .notFloat
  | given =>
    let digits := Numeral.ungrouped (Numeral.trimmed (given.text?.getD "").toList)
    (Double.ofText? digits).elim (.error .noDecimal) .ok

/-- The words that mean true and false. -/
def trueWords : List String := ["1", "on", "t", "true", "y", "yes"]

def falseWords : List String := ["0", "off", "f", "false", "n", "no"]

/-- The truth value that a word means. -/
def flagOfWord (s : String) : Except Breach Bool :=
  let word := String.ofList (s.toList.map Char.toLower)
  if trueWords.contains word then .ok true
  else if falseWords.contains word then .ok false
  else .error .noBooleanWord

/-- The truth value that a number stands for; beyond `2 ^ 63` numbers are not even looked at. -/
def flagOf (n : Int) : Except Breach Bool :=
  if n = 0 then .ok false
  else if n = 1 then .ok true
  else if n < -9223372036854775808 ∨ 9223372036854775807 < n then .error .notBoolean
  else .error .noBooleanWord

def readFlag : Given → Except Breach Bool
  | .bool b => .ok b
  | .int n => flagOf n
  | .float x => x.word?.elim (.error .notBoolean) flagOf
  | .text s => flagOfWord s
  | .bytes bs => (text? (.bytes bs)).elim (.error .noBooleanWord) flagOfWord
  | _ => .error .notBoolean

end Given

end EditorProtocol
