/-!
Binary64 numbers as data: a sign, a biased exponent and a fraction. Every operation is exact
arithmetic on natural numbers, so nothing here depends on a machine's floating point unit.
Decimal input is rounded to the nearest number, a half to the even neighbour, and the
written form is the shortest decimal that reads back as the same number.
-/

namespace EditorProtocol

/-- A binary64 number: biased exponent 2047 stands for the infinities and not-a-number. -/
structure Double where
  negative : Bool
  exponent : Fin 2048
  fraction : Fin 4503599627370496
deriving DecidableEq, Repr, Inhabited

namespace Double

/-- The hidden bit of a normal number. -/
def hiddenBit : Nat := 4503599627370496

def zero : Double := ⟨false, 0, 0⟩

def infinity (negative : Bool) : Double := ⟨negative, 2047, 0⟩

def nan : Double := ⟨false, 2047, 2251799813685248⟩

def isFinite (x : Double) : Bool := x.exponent.val != 2047

def isNaN (x : Double) : Bool := x.exponent.val == 2047 && x.fraction.val != 0

/-- The magnitude of a finite number is `significand * 2 ^ scale`. -/
def significand (x : Double) : Nat :=
  if x.exponent.val = 0 then x.fraction.val else hiddenBit + x.fraction.val

def scale (x : Double) : Int :=
  if x.exponent.val = 0 then -1074 else (x.exponent.val : Int) - 1075

/-- The magnitude of a finite number as a quotient of natural numbers. -/
def ratio (x : Double) : Nat × Nat :=
  match x.scale with
  | .ofNat k => (x.significand * Nat.pow 2 k, 1)
  | .negSucc k => (x.significand, Nat.pow 2 (k + 1))

/-- The number `m * 2 ^ q`, where `m < 2 ^ 53`, and `2 ^ 52 ≤ m` unless `q = -1074`. -/
def build (negative : Bool) (m : Nat) (q : Int) : Double :=
  if m < hiddenBit then ⟨negative, 0, Fin.ofNat _ m⟩
  else
    let biased := (q + 1075).toNat
    if 2047 ≤ biased then infinity negative
    else ⟨negative, Fin.ofNat _ biased, Fin.ofNat _ (m - hiddenBit)⟩

/-- A quotient rounded to the nearest natural number, a half to the even neighbour. -/
def roundHalfEven (num den : Nat) : Nat :=
  let low := num / den
  let twice := 2 * (num % den)
  if twice < den then low
  else if den < twice then low + 1
  else if low % 2 = 0 then low else low + 1

/-- The quotient `num / (den * 2 ^ q)`, again as a quotient of natural numbers. -/
def unscaled (num den : Nat) : Int → Nat × Nat
  | .ofNat k => (num, den * Nat.pow 2 k)
  | .negSucc k => (num * Nat.pow 2 (k + 1), den)

/-- The number nearest to `num / den`; beyond the largest one it is an infinity. -/
def ofRatio (negative : Bool) (num den : Nat) : Double :=
  if num = 0 then ⟨negative, 0, 0⟩
  else
    let guess : Int := (num.log2 : Int) - (den.log2 : Int) - 52
    let (n, d) := unscaled num den guess
    let fine := if n / d < hiddenBit then guess - 1 else guess
    let q := max fine (-1074)
    let (n, d) := unscaled num den q
    let m := roundHalfEven n d
    if m = 2 * hiddenBit then build negative hiddenBit (q + 1) else build negative m q

/-- The number of decimal digits of a natural number, zero having one. -/
def digitCount (n : Nat) : Nat := (Nat.toDigits 10 n).length

/-- The number nearest to `digits * 10 ^ exponent`. Magnitudes outside of the representable
range are decided from the digit count, so a huge exponent costs nothing. -/
def ofDecimal (negative : Bool) (digits : Nat) (exponent : Int) : Double :=
  if digits = 0 then ⟨negative, 0, 0⟩
  else
    let magnitude := exponent + (digitCount digits : Int)
    if 400 < magnitude then infinity negative
    else if magnitude < -400 then ⟨negative, 0, 0⟩
    else
      match exponent with
      | .ofNat k => ofRatio negative (digits * Nat.pow 10 k) 1
      | .negSucc k => ofRatio negative digits (Nat.pow 10 (k + 1))

/-- The number nearest to an integer, unless the integer is beyond the largest number. -/
def ofInt? (n : Int) : Option Double :=
  let x := ofRatio (n < 0) n.natAbs 1
  if x.isFinite then some x else none

/-- The integer that is left of a finite number without its fractional part. -/
def truncated? (x : Double) : Option Int :=
  let (num, den) := x.ratio
  let n : Int := (num / den : Nat)
  if x.isFinite then some (if x.negative then -n else n) else none

/-- The integer that a number without fractional part stands for. -/
def toInt? (x : Double) : Option Int :=
  let (num, den) := x.ratio
  if x.isFinite && num % den == 0 then
    some (if x.negative then -(num / den : Nat) else (num / den : Nat))
  else none

/-- The integer that a number without fractional part stands for, if its magnitude is less than
`2 ^ 63`. -/
def word? (x : Double) : Option Int :=
  x.toInt?.bind fun n => if n.natAbs < 9223372036854775808 then some n else none

/-- The quotient `num / (den * 10 ^ k)` as a quotient of natural numbers. -/
def decimallyScaled (num den : Nat) : Int → Nat × Nat
  | .ofNat k => (num, den * Nat.pow 10 k)
  | .negSucc k => (num * Nat.pow 10 (k + 1), den)

/-- The exponent of the leading decimal digit of a positive quotient. -/
def leadingExponent (num den : Nat) : Int :=
  let bits : Int := (num.log2 : Int) - (den.log2 : Int)
  let guess := Int.fdiv (bits * 30103) 100000
  let reaches (k : Int) : Bool :=
    let (n, d) := decimallyScaled num den k
    d ≤ n
  if reaches (guess + 1) then guess + 1
  else if reaches guess then guess
  else if reaches (guess - 1) then guess - 1
  else guess - 2

/-- The multiple of `10 ^ k` nearest to `x` among its two neighbours on that grid, if one of them
reads back as `x`; of two equally near the even one. -/
def onGrid (x : Double) (k : Int) : Option Nat :=
  let (num, den) := x.ratio
  let (n, d) := decimallyScaled num den k
  let low := n / d
  let readsBack (t : Nat) : Bool :=
    t != 0 && { ofDecimal false t k with negative := x.negative } == x
  let nearest := roundHalfEven n d
  let other := if nearest = low then low + 1 else low
  if readsBack nearest then some nearest
  else if readsBack other then some other
  else none

/-- The fewest digits, and their decimal exponent, that read back as a positive magnitude. -/
def shortest (x : Double) : Nat × Int :=
  let (num, den) := x.ratio
  let lead := leadingExponent num den
  let rec search : Nat → Nat → Nat × Int
    | 0, _ => (num / den, 0)
    | left + 1, count =>
      let k := lead - (count : Int) + 1
      match x.onGrid k with
      | some digits => (digits, k)
      | none => search left (count + 1)
  search 17 1

/-- Digits without trailing zeros, the exponent adjusted. -/
def trimZeros : Nat → Nat → Int → Nat × Int
  | 0, digits, k => (digits, k)
  | left + 1, digits, k =>
    if digits != 0 && digits % 10 == 0 then trimZeros left (digits / 10) (k + 1) else (digits, k)

/-- The written form of a positive decimal: positional while the point stands no further than
sixteen digits to the right or three zeros to the left, otherwise with an exponent of at least
two digits. -/
def renderDecimal (digits : Nat) (k : Int) : String :=
  let (digits, k) := trimZeros 400 digits k
  let ds := Nat.toDigits 10 digits
  let point : Int := (ds.length : Int) + k
  if -4 < point ∧ point ≤ 16 then
    if point ≤ 0 then
      "0." ++ String.ofList (List.replicate (-point).toNat '0' ++ ds)
    else if (ds.length : Int) ≤ point then
      String.ofList (ds ++ List.replicate (point - ds.length).toNat '0') ++ ".0"
    else
      String.ofList (ds.take point.toNat) ++ "." ++ String.ofList (ds.drop point.toNat)
  else
    let e := point - 1
    let eDigits := Nat.toDigits 10 e.natAbs
    let exponent := if eDigits.length < 2 then '0' :: eDigits else eDigits
    let head := String.ofList (ds.take 1)
    let tail := if ds.length ≤ 1 then "" else "." ++ String.ofList (ds.drop 1)
    head ++ tail ++ "e" ++ (if e < 0 then "-" else "+") ++ String.ofList exponent

/-- The shortest decimal that reads back as the number; infinities and not-a-number by name. -/
def render (x : Double) : String :=
  if x.isNaN then "nan"
  else
    let sign := if x.negative then "-" else ""
    if !x.isFinite then sign ++ "inf"
    else if x.significand = 0 then sign ++ "0.0"
    else
      let (digits, k) := x.shortest
      sign ++ renderDecimal digits k

/-- Order of finite numbers and infinities against integers: the number compared with `n`. -/
def compareInt (x : Double) (n : Int) : Option Ordering :=
  if x.isNaN then none
  else if !x.isFinite then some (if x.negative then .lt else .gt)
  else
    let (num, den) := x.ratio
    let signed : Int := if x.negative then -(num : Int) else num
    some (compare signed (n * den))

/-- Order of two numbers, none when one of them is not a number. -/
def compare? (x y : Double) : Option Ordering :=
  if x.isNaN || y.isNaN then none
  else if x == y then some .eq
  else if !x.isFinite then some (if x.negative then .lt else .gt)
  else if !y.isFinite then some (if y.negative then .gt else .lt)
  else
    let (a, b) := x.ratio
    let (c, d) := y.ratio
    let left : Int := if x.negative then -((a * d : Nat) : Int) else ((a * d : Nat) : Int)
    let right : Int := if y.negative then -((c * b : Nat) : Int) else ((c * b : Nat) : Int)
    some (compare left right)

end Double

end EditorProtocol
