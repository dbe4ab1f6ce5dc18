import EditorProtocol.Text.Encoding.Reader

/-!
Texts of seven bits a byte. Most characters of ASCII stand for themselves; a run of others is
written after a plus, as the bits of its sixteen-bit units in digits of six bits.
-/

namespace EditorProtocol.Shifted

/-- The digits of six bits, in order. -/
def digits : List Char :=
  "ABCDEFGHIJKLMNOPQRSTUVWXYZabcdefghijklmnopqrstuvwxyz0123456789+/".toList

def digitOf (n : Nat) : Char := digits.getD n 'A'

def valueOf? (b : UInt8) : Option Nat := digits.idxOf? (Char.ofNat b.toNat)

/-! ## Reading -/

/-- The bits that digits write, as a number. -/
def bitsOf (values : List Nat) : Nat := values.foldl (fun n v => n * 64 + v) 0

/-- The units of sixteen bits at the front of a number of bits. -/
def unitsOf (bits count : Nat) : List Nat :=
  let whole := bits / Nat.pow 2 (count % 16)
  ((List.range (count / 16)).map fun i => whole / Nat.pow 65536 i % 65536).reverse

/-- The characters of units; two halves make one, a lone half is shown as a sign for a fault. -/
def charsOf : List Nat → List Char
  | [] => []
  | [u] => [if u.isValidChar then Char.ofNat u else '\ufffd']
  | u :: v :: rest =>
    if 0xD800 ≤ u ∧ u < 0xDC00 ∧ 0xDC00 ≤ v ∧ v < 0xE000 then
      Char.ofNat (0x10000 + (u - 0xD800) * 0x400 + (v - 0xDC00)) :: charsOf rest
    else (if u.isValidChar then Char.ofNat u else '\ufffd') :: charsOf (v :: rest)

/-- What is left of a run of digits after its units. -/
inductive Remainder where
  | none
  | partialUnit
  | bits
deriving DecidableEq

def remainderOf (values : List Nat) : Remainder :=
  let spare := values.length * 6 % 16
  if 6 ≤ spare then .partialUnit
  else if bitsOf values % Nat.pow 2 spare != 0 then .bits
  else .none

/-- The run of digits after a plus; a minus behind it belongs to it. -/
def readShift (bytes : List UInt8) : Except (ByteFault × Nat) (List Char × Nat) :=
  let run := bytes.takeWhile fun b => (valueOf? b).isSome
  let values := run.filterMap valueOf?
  let chars := charsOf (unitsOf (bitsOf values) (values.length * 6))
  let faulty := 1 + run.length
  match bytes.drop run.length, remainderOf values with
  | [], .none => .ok (chars, run.length)
  | [], _ => .error (.openShift, faulty)
  | _ :: _, .partialUnit => .error (.partialShift, faulty + 1)
  | _ :: _, .bits => .error (.strayBits, faulty + 1)
  | b :: _, .none => .ok (chars, if b = 0x2D then run.length + 1 else run.length)

def read : CharReader := fun b rest =>
  if b = 0x2B then
    match rest with
    | [] => .ok ([], 0)
    | c :: _ =>
      if c = 0x2D then .ok (['+'], 1)
      else if (valueOf? c).isNone then .error (.badShift, 2)
      else readShift rest
  else if b < 0x80 then .ok ([Char.ofNat b.toNat], 0)
  else .error (.special, 1)

/-! ## Writing -/

/-- Whether a character stands for itself. -/
def isDirect (c : Char) : Bool :=
  let n := c.val.toNat
  (0x20 ≤ n && n < 0x7F && c != '+' && c != '\\' && c != '~') || c == '\t' || c == '\n' ||
    c == '\r'

def unitsOfChar (c : Char) : List Nat :=
  let n := c.val.toNat
  if n < 0x10000 then [n]
  else [0xD800 + (n - 0x10000) / 0x400, 0xDC00 + (n - 0x10000) % 0x400]

/-- Units in digits, the last digit filled up with zeros. -/
def writeUnits (units : List Nat) : List Char :=
  let bits := units.length * 16
  let count := (bits + 5) / 6
  let n := units.foldl (fun n u => n * 65536 + u) 0 * Nat.pow 2 (count * 6 - bits)
  ((List.range count).map fun i => digitOf (n / Nat.pow 64 i % 64)).reverse

/-- Whether a character that follows a run of digits could be taken for a part of it. -/
def needsEnd (next : List Char) : Bool :=
  match next with
  | [] => true
  | c :: _ => c == '-' || digits.contains c

def write (text : List Char) : List Char :=
  match text with
  | [] => []
  | c :: rest =>
    if c = '+' then '+' :: '-' :: write rest
    else if isDirect c then c :: write rest
    else
      let run := c :: rest.takeWhile (!isDirect ·)
      let next := rest.drop (rest.takeWhile (!isDirect ·)).length
      '+' :: writeUnits (run.flatMap unitsOfChar) ++ (if needsEnd next then ['-'] else []) ++
        write next
termination_by text.length
decreasing_by
  · simp
  · simp
  · simp only [List.length_drop, List.length_cons]
    omega

end EditorProtocol.Shifted
