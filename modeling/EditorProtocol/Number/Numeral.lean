/-!
Numerals: digits of a base, and the numbers that they write. Digits may be grouped by single
underscores between them.
-/

namespace EditorProtocol.Numeral

/-- The value of a digit of a base up to sixteen. -/
def digit? (c : Char) : Option Nat :=
  if '0' ≤ c ∧ c ≤ '9' then some (c.toNat - '0'.toNat)
  else if 'a' ≤ c ∧ c ≤ 'f' then some (c.toNat - 'a'.toNat + 10)
  else if 'A' ≤ c ∧ c ≤ 'F' then some (c.toNat - 'A'.toNat + 10)
  else none

def isDigitOf (base : Nat) (c : Char) : Bool :=
  match digit? c with
  | some n => decide (n < base)
  | none => false

def isDecimal (c : Char) : Bool := isDigitOf 10 c

/-- The number that digits of a base write. -/
def value (base : Nat) (digits : List Char) : Nat :=
  digits.foldl (fun n c => n * base + (digit? c).getD 0) 0

/-- The digits at the front of a text, grouped by single underscores, and the rest. An underscore
that no digit follows is no part of them. -/
def grouped (base : Nat) : List Char → List Char × List Char
  | [] => ([], [])
  | c :: rest =>
    if isDigitOf base c then
      match rest with
      | '_' :: d :: rest' =>
        if isDigitOf base d then
          let (ds, r) := grouped base (d :: rest')
          (c :: ds, r)
        else ([c], rest)
      | rest =>
        let (ds, r) := grouped base rest
        (c :: ds, r)
    else ([], c :: rest)

/-- A sign at the front of a text, plus unless it is a minus. -/
def sign : List Char → Bool × List Char
  | '-' :: rest => (true, rest)
  | '+' :: rest => (false, rest)
  | rest => (false, rest)

def withSign (negative : Bool) (n : Nat) : Int := if negative then -n else n

/-- Whether a character is blank around a numeral. -/
def isBlank (c : Char) : Bool :=
  let n := c.val.toNat
  (9 ≤ n && n ≤ 13) || n == 32 || n == 0x85 || n == 0xA0 || n == 0x1680 ||
    (0x2000 ≤ n && n ≤ 0x200A) || n == 0x2028 || n == 0x2029 || n == 0x202F || n == 0x205F ||
    n == 0x3000

/-- A text without blanks at its ends. -/
def trimmed (s : List Char) : List Char :=
  ((s.dropWhile isBlank).reverse.dropWhile isBlank).reverse

/-- The most digits that an integer is read from or written with. -/
def maxDigits : Nat := 4300

/-- Whether an integer has too many digits to be written. -/
def isTooLong (n : Int) : Bool := decide (maxDigits < (Nat.toDigits 10 n.natAbs).length)

/-- The text about an integer with too many digits; their count is told where they were read. -/
def excessText (digits : Option Nat) : String :=
  let count := (digits.map fun n => ": value has " ++ toString n ++ " digits").getD ""
  "Exceeds the limit (" ++ toString maxDigits ++ " digits) for integer string conversion" ++
    count ++ "; use sys.set_int_max_str_digits() to increase the limit"

/-- The integer that a whole text writes in decimal digits, signed or not. -/
def integer? (s : List Char) : Option Int :=
  let (negative, unsigned) := sign s
  let (digits, rest) := grouped 10 unsigned
  if digits.isEmpty || !rest.isEmpty || decide (maxDigits < digits.length) then none
  else some (withSign negative (value 10 digits))

end EditorProtocol.Numeral
