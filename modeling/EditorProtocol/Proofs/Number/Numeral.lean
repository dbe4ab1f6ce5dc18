import EditorProtocol.Number.Numeral

/-!
Numbers read back from their decimal digits.
-/

namespace EditorProtocol.Numeral

variable {c : Char} {cs digits : List Char}

/-- A text of decimal digits only. -/
def IsDigits (cs : List Char) : Prop := ∀ c ∈ cs, c.isDigit = true

theorem bounds_of_isDigit (h : c.isDigit = true) : '0'.toNat ≤ c.toNat ∧ c.toNat ≤ '9'.toNat := by
  rw [Char.isDigit, Bool.and_eq_true, decide_eq_true_iff, decide_eq_true_iff] at h
  exact ⟨UInt32.le_iff_toNat_le.1 h.1, UInt32.le_iff_toNat_le.1 h.2⟩

theorem digit?_of_isDigit (h : c.isDigit = true) : digit? c = some (c.toNat - '0'.toNat) := by
  obtain ⟨low, high⟩ := bounds_of_isDigit h
  exact if_pos ⟨UInt32.le_iff_toNat_le.2 low, UInt32.le_iff_toNat_le.2 high⟩

theorem isDigitOf_of_isDigit (h : c.isDigit = true) : isDigitOf 10 c = true := by
  have high : c.toNat ≤ 57 := (bounds_of_isDigit h).2
  rw [isDigitOf, digit?_of_isDigit h]
  show decide (c.toNat - 48 < 10) = true
  exact decide_eq_true (by omega)

/-- Digits alone are one group without a rest. -/
theorem grouped_digits (h : IsDigits cs) : grouped 10 cs = (cs, []) := by
  induction cs with
  | nil => rfl
  | cons c rest ih =>
      obtain ⟨hc, hrest⟩ := List.forall_mem_cons.1 h
      rw [grouped.eq_def]
      dsimp only
      rw [if_pos (isDigitOf_of_isDigit hc)]
      split
      · exact absurd (hrest '_' List.mem_cons_self) (by decide)
      · rw [ih hrest]

/-- Digits that follow a number make it a longer one. -/
theorem foldl_digits (h : IsDigits cs) (start : Nat) :
    cs.foldl (fun n c => n * 10 + (digit? c).getD 0) start = Nat.ofDigitChars 10 cs start := by
  induction cs generalizing start with
  | nil => rfl
  | cons c rest ih =>
      obtain ⟨hc, hrest⟩ := List.forall_mem_cons.1 h
      rw [List.foldl_cons, ih hrest, Nat.ofDigitChars_cons, digit?_of_isDigit hc, Option.getD_some,
        Nat.mul_comm]

theorem isDigits_toDigits (n : Nat) : IsDigits (Nat.toDigits 10 n) :=
  fun _ hc => Nat.isDigit_of_mem_toDigits (by decide) (by decide) hc

theorem sign_digits (h : IsDigits cs) : sign cs = (false, cs) := by
  unfold sign
  split
  · exact absurd (h '-' List.mem_cons_self) (by decide)
  · exact absurd (h '+' List.mem_cons_self) (by decide)
  · rfl

/-- A number is read from the digits behind its sign, unless they are too many. -/
theorem integer?_sign {negative : Bool} (hsign : sign cs = (negative, digits))
    (h : IsDigits digits) (hne : digits ≠ []) (hshort : digits.length ≤ maxDigits) :
    integer? cs = some (withSign negative (Nat.ofDigitChars 10 digits 0)) := by
  unfold integer?
  rw [hsign]
  dsimp only
  rw [grouped_digits h]
  dsimp only
  rw [List.isEmpty_eq_false_iff.2 hne, decide_eq_false (Nat.not_lt.2 hshort), value, foldl_digits h]
  rfl

/-- A number is read from its digits, unless they are too many. -/
theorem integer?_toDigits {n : Nat} (h : (Nat.toDigits 10 n).length ≤ maxDigits) :
    integer? (Nat.toDigits 10 n) = some (n : Int) := by
  have hdigits := isDigits_toDigits n
  rw [integer?_sign (sign_digits hdigits) hdigits Nat.toDigits_ne_nil h,
    Nat.ofDigitChars_toDigits (by decide) (by decide)]
  rfl

/-- A text is a numeral: decimal digits, of which the first ones may be zeros, behind a sign or
none. -/
inductive Writes : List Char → Int → Prop where
  | plain {ds : List Char} (h : IsDigits ds) (ne : ds ≠ []) (short : ds.length ≤ maxDigits) :
    Writes ds (Nat.ofDigitChars 10 ds 0)
  | plus {ds : List Char} (h : IsDigits ds) (ne : ds ≠ []) (short : ds.length ≤ maxDigits) :
    Writes ('+' :: ds) (Nat.ofDigitChars 10 ds 0)
  | minus {ds : List Char} (h : IsDigits ds) (ne : ds ≠ []) (short : ds.length ≤ maxDigits) :
    Writes ('-' :: ds) (-Nat.ofDigitChars 10 ds 0)

theorem Writes.integer?_eq {n : Int} (h : Writes cs n) : integer? cs = some n := by
  cases h with
  | plain h ne short => exact integer?_sign (sign_digits h) h ne short
  | plus h ne short => exact integer?_sign rfl h ne short
  | minus h ne short => exact integer?_sign rfl h ne short

end EditorProtocol.Numeral
