import EditorProtocol.Text.Encoding.Reader

/-!
Texts in letters, digits and hyphens. The characters of ASCII come first; after the last hyphen
follow the others, in the order of their numbers, each as the distance to it from the one before, in
digits whose weights adapt to the distances.
-/

namespace EditorProtocol.Puny

/-- The least value of a digit at a place that is not the last one. -/
def threshold (place bias : Nat) : Nat :=
  let limit := 36 * (place + 1)
  if limit ≤ bias + 1 then 1 else if bias + 26 ≤ limit then 26 else limit - bias

theorem threshold_bounds (place bias : Nat) :
    1 ≤ threshold place bias ∧ threshold place bias ≤ 26 := by
  simp only [threshold]
  split
  · omega
  · split <;> omega

/-- A distance made small, and how often it was divided. -/
def shrink (distance : Nat) : Nat × Nat :=
  if distance ≤ 455 then (distance, 0)
  else
    let (d, n) := shrink (distance / 35)
    (d, n + 1)
termination_by distance
decreasing_by exact Nat.div_lt_self (by omega) (by omega)

/-- The bias for the distance after the given one, which the text of a length now has. -/
def adapt (distance : Nat) (isFirst : Bool) (length : Nat) : Nat :=
  let halved := if isFirst then distance / 700 else distance / 2
  let (d, n) := shrink (halved + halved / length)
  36 * n + 36 * d / (d + 38)

/-! ## Reading -/

/-- Why the part after the last hyphen is none. -/
inductive Fault where
  | incomplete
  | badDigit (c : Char)
  | beyondRange (n : Nat)

def Fault.message : Fault → String
  | .incomplete => "incomplete punicode string"
  | .badDigit c => "Invalid extended code point '" ++ c.toString ++ "'"
  | .beyondRange n => "Invalid character U+" ++ String.ofList (Nat.toDigits 16 n)

def valueOf? (c : Char) : Option Nat :=
  if 'A' ≤ c ∧ c ≤ 'Z' then some (c.toNat - 'A'.toNat)
  else if '0' ≤ c ∧ c ≤ '9' then some (c.toNat - '0'.toNat + 26)
  else none

/-- The distance at the front of digits, and the rest of them. -/
def readDistance (bias place weight distance : Nat) :
    List Char → Except Fault (Nat × List Char)
  | [] => .error .incomplete
  | c :: rest =>
    match valueOf? c with
    | none => .error (.badDigit c)
    | some d =>
      let t := threshold place bias
      if d < t then .ok (distance + d * weight, rest)
      else readDistance bias (place + 1) (weight * (36 - t)) (distance + d * weight) rest

/-- A distance takes at least one digit. -/
theorem readDistance_shorter {bias place weight distance : Nat} {digits : List Char}
    {r : Nat × List Char} (h : readDistance bias place weight distance digits = .ok r) :
    r.2.length < digits.length := by
  induction digits generalizing place weight distance with
  | nil => cases h
  | cons c rest ih =>
    simp only [readDistance] at h
    split at h
    · cases h
    · split at h
      · cases h
        simp
      · have := ih h
        simp only [List.length_cons]
        omega

/-- A text with the characters put into it that digits tell. -/
def insertAll (text : List Char) (number place bias : Nat) (isFirst : Bool)
    (digits : List Char) : Except Fault (List Char) :=
  match digits with
  | [] => .ok text
  | d :: more =>
    match _h : readDistance bias 0 1 0 (d :: more) with
    | .error e => .error e
    | .ok (distance, rest) =>
      let length := text.length + 1
      let number := number + (place + distance) / length
      let place := (place + distance) % length
      let c := if number.isValidChar then Char.ofNat number else '\ufffd'
      if 0x110000 ≤ number then .error (.beyondRange number)
      else
        insertAll (text.insertIdx place c) number (place + 1) (adapt distance isFirst length) false
          rest
termination_by digits.length
decreasing_by exact readDistance_shorter _h

/-- The text that bytes are. -/
def decode (bytes : List UInt8) : Except EncodingError (List Char) := do
  let tail := (bytes.reverse.takeWhile (· != 0x2D)).reverse
  let head := bytes.take (bytes.length - tail.length - 1)
  let basic ← readAscii.readAll "ascii" 0 head
  let extended ← readAscii.readAll "ascii" 0 tail
  match insertAll basic 0x80 0 72 true (extended.map Char.toUpper) with
  | .ok text => return text
  | .error f => throw (.failed "" true f.message)

/-! ## Writing -/

def digitOf (n : Nat) : Char :=
  if n < 26 then Char.ofNat ('a'.toNat + n) else Char.ofNat ('0'.toNat + (n - 26))

/-- A distance in digits. -/
def writeDistance (bias place distance : Nat) : List Char :=
  let t := threshold place bias
  if distance < t then [digitOf distance]
  else
    digitOf (t + (distance - t) % (36 - t)) ::
      writeDistance bias (place + 1) ((distance - t) / (36 - t))
termination_by distance
decreasing_by
  have := threshold_bounds place bias
  exact Nat.lt_of_le_of_lt (Nat.div_le_self _ _) (by omega)

/-- How far the writing of the characters beyond ASCII has come. -/
structure Progress where
  written : List Char
  distance : Nat
  bias : Nat
  /-- How many characters have been written. -/
  count : Nat
  isFirst : Bool

/-- One character of the text is passed on the way to the next one of a number. -/
def Progress.pass (number : Nat) (p : Progress) (c : Char) : Progress :=
  if c.toNat < number then { p with distance := p.distance + 1 }
  else if c.toNat = number then
    { written := p.written ++ writeDistance p.bias 0 p.distance
      distance := 0
      bias := adapt p.distance p.isFirst (p.count + 1)
      count := p.count + 1
      isFirst := false }
  else p

/-- All characters beyond ASCII, in the order of their numbers. -/
def writeAll (text : List Char) (p : Progress) (last : Nat) : List Nat → List Char
  | [] => p.written
  | number :: rest =>
    let distance := p.distance + (number - last) * (p.count + 1)
    let p := text.foldl (Progress.pass number) { p with distance }
    writeAll text { p with distance := p.distance + 1 } (number + 1) rest

def encode (text : List Char) : List Char :=
  let basic := text.filter (·.toNat < 0x80)
  let numbers := ((text.filter (0x80 ≤ ·.toNat)).map Char.toNat).eraseDups.mergeSort
  let extended := writeAll text ⟨[], 0, 72, basic.length, true⟩ 0x80 numbers
  if basic.isEmpty then extended else basic ++ '-' :: extended

end EditorProtocol.Puny
