import EditorProtocol.Document.Column
import EditorProtocol.Proofs.Text.Encoding

/-!
Columns and indices of a line. The units that are counted are those of the line in UTF-16. Indices
go to columns one to one and in order, and every column is taken for what it is: the place before a
character or at the end of the line, a place inside of a surrogate pair, or no place of the line.
-/

namespace EditorProtocol

namespace Column

variable {line : List Char} {c : Char} {i j : Nat} {column : Int}

/-! ### Units -/

theorem unitsOf_pos (c : Char) : 0 < unitsOf c := by
  unfold unitsOf
  split
  · exact Nat.two_pos
  · exact Nat.one_pos

theorem unitsOf_le_two (c : Char) : unitsOf c ≤ 2 := by
  unfold unitsOf
  split
  · exact Nat.le_refl 2
  · exact Nat.le_succ 1

theorem length_append (before after : List Char) :
    length (before ++ after) = length before + length after := by
  induction before with
  | nil => exact (Nat.zero_add _).symm
  | cons c before ih => rw [List.cons_append, length, length, ih, Nat.add_assoc]

/-- The bytes of a character in UTF-16 without a mark, the lower one of a unit first. -/
def pairBytes (c : Char) : List UInt8 :=
  if c.val.toNat < 0x10000 then ByteOrder.little.bytes16 c.val.toNat
  else
    ByteOrder.little.bytes16 (0xD800 + (c.val.toNat - 0x10000) / 0x400) ++
      ByteOrder.little.bytes16 (0xDC00 + (c.val.toNat - 0x10000) % 0x400)

theorem bytesOf?_eq_pairBytes (c : Char) :
    (Encoding.utf16 (some .little)).bytesOf? c = some (pairBytes c) := by
  unfold Encoding.bytesOf? pairBytes
  dsimp only [Option.getD_some]
  split <;> rfl

theorem length_pairBytes (c : Char) : (pairBytes c).length = 2 * unitsOf c := by
  unfold pairBytes unitsOf
  split
  · rw [if_neg (by omega)]
    rfl
  · rw [if_pos (by omega)]
    rfl

/-- The units of a line are half the bytes that it has in UTF-16. -/
theorem encode_utf16 (line : List Char) : ∃ bytes,
    (Encoding.utf16 (some .little)).encode line = .ok bytes ∧ bytes.length / 2 = length line := by
  have hlength : (line.flatMap pairBytes).length = 2 * length line := by
    induction line with
    | nil => rfl
    | cons c line ih =>
        rw [List.flatMap_cons, List.length_append, ih, length_pairBytes, length, Nat.mul_add]
  refine ⟨_, Encoding.encodeEach_of_bytes fun c _ => bytesOf?_eq_pairBytes c, ?_⟩
  rw [hlength, Nat.mul_div_cancel_left _ Nat.two_pos]

/-! ### The column of an index -/

/-- The column of an index comes before the columns of all later ones. -/
theorem length_take_lt (hij : i < j) (hj : j ≤ line.length) :
    length (line.take i) < length (line.take j) := by
  induction line generalizing i j with
  | nil => exact absurd (Nat.lt_of_lt_of_le hij hj) (Nat.not_lt_zero i)
  | cons c line ih =>
      cases j with
      | zero => exact absurd hij (Nat.not_lt_zero i)
      | succ j =>
          rw [List.take_succ_cons, length]
          cases i with
          | zero =>
              rw [List.take_zero, length]
              exact Nat.add_pos_left (unitsOf_pos c) _
          | succ i =>
              rw [List.take_succ_cons, length]
              exact Nat.add_lt_add_left
                (ih (Nat.lt_of_succ_lt_succ hij) (Nat.le_of_succ_le_succ hj)) _

theorem length_take_le (line : List Char) (i : Nat) : length (line.take i) ≤ length line :=
  calc
    length (line.take i) ≤ length (line.take i) + length (line.drop i) := Nat.le_add_right _ _
    _ = length line := by rw [← length_append, List.take_append_drop]

theorem ofIndex_eq_ok_iff {index : Int} {n : Nat} :
    ofIndex line index = .ok n ↔
      ∃ i : Nat, index = i ∧ i ≤ line.length ∧ length (line.take i) = n := by
  unfold ofIndex
  constructor
  · intro h
    split at h
    · cases h
    · next hbounds =>
      cases h
      exact ⟨index.toNat, by omega, by omega, rfl⟩
  · rintro ⟨i, rfl, hi, rfl⟩
    rw [if_neg (by omega), Int.toNat_natCast]

/-! ### The index at a column -/

/-- Where a column falls in a line, and the answer for it. -/
inductive Falls (line : List Char) (column : Int) : Except ColumnError Nat → Prop
  | boundary {i : Nat} (within : i ≤ line.length) (eq : column = length (line.take i)) :
      Falls line column (.ok i)
  | negative (neg : column < 0) : Falls line column (.error (.negative column))
  | inside {before after : List Char} {c : Char} (line_eq : line = before ++ c :: after)
      (pair : unitsOf c = 2) (eq : column = length before + 1) :
      Falls line column (.error (.split column))
  | beyond (lt : length line < column) : Falls line column (.error (.beyond column (length line)))

/-- A column within a character is at no place before or after it. -/
theorem ne_length_take {before after : List Char} {n : Nat} (hlow : length before < n)
    (hhigh : n < length before + unitsOf c) (i : Nat) :
    n ≠ length ((before ++ c :: after).take i) := by
  rcases Nat.lt_or_ge before.length i with hi | hi
  · obtain ⟨k, rfl⟩ := Nat.exists_eq_add_of_lt hi
    have hlong : before.length + k + 1 = before.length + (k + 1) := Nat.add_assoc _ _ _
    rw [hlong, List.take_length_add_append, List.take_succ_cons, length_append, length]
    omega
  · rw [List.take_append_of_le_length hi]
    have := length_take_le before i
    omega

/-- A column falls in one way only. -/
theorem Falls.unique {r q : Except ColumnError Nat} (h : Falls line column r)
    (k : Falls line column q) : r = q := by
  have hinside : ∀ {before after : List Char} {c : Char}, line = before ++ c :: after →
      unitsOf c = 2 → column = length before + 1 → ∀ i, column ≠ length (line.take i) := by
    rintro before after c rfl hpair rfl i heq
    exact ne_length_take (Nat.lt_succ_self _) (by omega) i (Int.ofNat.inj heq)
  have hlength : ∀ {before after : List Char} {c : Char}, line = before ++ c :: after →
      unitsOf c = 2 → length before + 1 < length line := by
    rintro before after c rfl hpair
    rw [length_append, length]
    omega
  cases h with
  | @boundary i hi heq =>
      have hle := length_take_le line i
      cases k with
      | @boundary j hj heq' =>
          have heqs : length (line.take i) = length (line.take j) := by omega
          rcases Nat.lt_trichotomy i j with hij | rfl | hij
          · exact absurd heqs (Nat.ne_of_lt (length_take_lt hij hj))
          · rfl
          · exact absurd heqs (Nat.ne_of_gt (length_take_lt hij hi))
      | negative neg => omega
      | inside line_eq pair eq => exact absurd heq (hinside line_eq pair eq i)
      | beyond lt => omega
  | negative neg =>
      cases k with
      | boundary within eq => omega
      | negative => rfl
      | inside line_eq pair eq => omega
      | beyond lt => omega
  | inside line_eq pair eq =>
      have hlt := hlength line_eq pair
      cases k with
      | @boundary j hj heq => exact absurd heq (hinside line_eq pair eq j)
      | negative neg => omega
      | inside => rfl
      | beyond lt => omega
  | beyond lt =>
      cases k with
      | @boundary j hj heq =>
          have := length_take_le line j
          omega
      | negative neg => omega
      | inside line_eq pair eq =>
          have := hlength line_eq pair
          omega
      | beyond => rfl

/-- A walk over the rest of a line that has not passed the column answers for where it falls. -/
theorem falls_indexFrom {before rest : List Char} {n : Nat} (hle : length before ≤ n) :
    Falls (before ++ rest) n (indexFrom before.length (length before) n rest) := by
  induction rest generalizing before with
  | nil =>
      rw [indexFrom, List.append_nil]
      split
      · next heq =>
        exact .boundary (Nat.le_refl _) (by rw [List.take_length, heq])
      · next hne => exact .beyond (by omega)
  | cons c rest ih =>
      rw [indexFrom]
      split
      · next heq =>
        refine .boundary (by simp) ?_
        rw [List.take_left, heq]
      · next hne =>
        split
        · next hlt =>
          have := unitsOf_le_two c
          exact .inside rfl (by omega) (by omega)
        · next hge =>
          have hnext : length (before ++ [c]) = length before + unitsOf c := length_append before [c]
          have hle' : length (before ++ [c]) ≤ n := by omega
          have h := ih hle'
          rwa [hnext, List.length_append, List.append_assoc] at h

theorem toIndex_eq_iff {r : Except ColumnError Nat} :
    toIndex line column = r ↔ Falls line column r := by
  have hfalls : Falls line column (toIndex line column) := by
    unfold toIndex
    split
    · next neg => exact .negative neg
    · next hpos =>
      have h : Falls line column.toNat (indexFrom 0 0 column.toNat line) :=
        @falls_indexFrom [] line column.toNat (Nat.zero_le _)
      rwa [Int.toNat_of_nonneg (by omega)] at h
  exact ⟨fun h => h ▸ hfalls, hfalls.unique⟩

theorem toIndex_eq_ok_iff : toIndex line column = .ok i ↔ ofIndex line i = .ok column.toNat ∧
    0 ≤ column := by
  rw [toIndex_eq_iff, ofIndex_eq_ok_iff]
  constructor
  · rintro ⟨within, rfl⟩
    exact ⟨⟨i, rfl, within, rfl⟩, Int.natCast_nonneg _⟩
  · rintro ⟨⟨k, hik, within, hlength⟩, hpos⟩
    cases Int.ofNat.inj hik
    exact .boundary within (by omega)

theorem exists_error_iff : (∃ e, toIndex line column = .error e) ↔
    column < 0 ∨ (length line : Int) < column ∨ ∃ before c after, line = before ++ c :: after ∧
      0xFFFF < c.val.toNat ∧ column = length before + 1 := by
  constructor
  · rintro ⟨e, he⟩
    cases toIndex_eq_iff.1 he with
    | negative neg => exact .inl neg
    | beyond lt => exact .inr (.inl lt)
    | @inside before after c line_eq pair eq =>
        refine .inr (.inr ⟨before, c, after, line_eq, ?_, eq⟩)
        unfold unitsOf at pair
        split at pair
        · assumption
        · cases pair
  · rintro (neg | lt | ⟨before, c, after, line_eq, pair, eq⟩)
    · exact ⟨_, toIndex_eq_iff.2 (.negative neg)⟩
    · exact ⟨_, toIndex_eq_iff.2 (.beyond lt)⟩
    · exact ⟨_, toIndex_eq_iff.2 (.inside line_eq (if_pos pair) eq)⟩

theorem exists_ofIndex_iff (line : List Char) (index : Int) :
    (∃ n, ofIndex line index = .ok n) ↔ 0 ≤ index ∧ index ≤ line.length := by
  constructor
  · rintro ⟨n, h⟩
    obtain ⟨i, rfl, hi, _⟩ := ofIndex_eq_ok_iff.1 h
    omega
  · rintro ⟨hlow, hhigh⟩
    exact ⟨_, ofIndex_eq_ok_iff.2 ⟨index.toNat, by omega, by omega, rfl⟩⟩

/-! ### Both ways -/

/-- Indices and columns are two names of the places between characters. Exactly the indices of a
line have columns, counted in units of UTF-16, later ones later columns; the index at the column of
an index is this index, and the column of the index at a column is this column. A column without an
index is that of no index: it is negative, beyond the end of the line or inside of a surrogate
pair. -/
theorem columns_name_boundaries (line : List Char) :
    (∀ index, (∃ n, ofIndex line index = .ok n) ↔ 0 ≤ index ∧ index ≤ line.length) ∧
      (∀ i j m n, ofIndex line i = .ok m → ofIndex line j = .ok n → i < j → m < n) ∧
      (∀ index n, ofIndex line index = .ok n →
        ∃ i : Nat, index = i ∧ toIndex line n = .ok i) ∧
      (∀ column (i : Nat), toIndex line column = .ok i →
        ∃ n : Nat, column = n ∧ ofIndex line i = .ok n) ∧
      (∀ column, (∃ e, toIndex line column = .error e) ↔
        ¬ ∃ index n, ofIndex line index = .ok n ∧ column = n) ∧
      (∀ column, (∃ e, toIndex line column = .error e) ↔
        column < 0 ∨ (length line : Int) < column ∨
          ∃ before c after, line = before ++ c :: after ∧ 0xFFFF < c.val.toNat ∧
            column = length before + 1) ∧
      ∀ index n, ofIndex line index = .ok n → ∃ bytes,
        (Encoding.utf16 (some .little)).encode (line.take index.toNat) = .ok bytes ∧
          bytes.length / 2 = n := by
  have hto : ∀ index n, ofIndex line index = .ok n →
      ∃ i : Nat, index = i ∧ toIndex line n = .ok i := by
    intro index n h
    obtain ⟨i, rfl, _⟩ := ofIndex_eq_ok_iff.1 h
    exact ⟨i, rfl, toIndex_eq_ok_iff.2 ⟨h, Int.natCast_nonneg n⟩⟩
  have hof : ∀ column (i : Nat), toIndex line column = .ok i →
      ∃ n : Nat, column = n ∧ ofIndex line i = .ok n := by
    intro column i h
    obtain ⟨hindex, hpos⟩ := toIndex_eq_ok_iff.1 h
    exact ⟨_, (Int.toNat_of_nonneg hpos).symm, hindex⟩
  refine ⟨exists_ofIndex_iff line, ?_, hto, hof, fun column => ⟨?_, fun hnone => ?_⟩,
    fun column => exists_error_iff, ?_⟩
  · intro i j m n hi hj hij
    obtain ⟨k, rfl, _, rfl⟩ := ofIndex_eq_ok_iff.1 hi
    obtain ⟨l, rfl, hl, rfl⟩ := ofIndex_eq_ok_iff.1 hj
    exact length_take_lt (by omega) hl
  · rintro ⟨e, he⟩ ⟨index, n, h, rfl⟩
    obtain ⟨i, _, hi⟩ := hto index n h
    cases he.symm.trans hi
  · cases hindex : toIndex line column with
    | error e => exact ⟨e, rfl⟩
    | ok i =>
        obtain ⟨n, heq, h⟩ := hof column i hindex
        exact (hnone ⟨i, n, h, heq⟩).elim
  · intro index n h
    obtain ⟨i, rfl, _, rfl⟩ := ofIndex_eq_ok_iff.1 h
    exact encode_utf16 _

/-- A clef is of two units, between which there is no index. -/
theorem columns_name_boundaries_clef :
    (∃ i : Nat, (1 : Int) = i ∧ toIndex ['𝄞'] 2 = .ok i) ∧ ∃ e, toIndex ['𝄞'] 1 = .error e := by
  have hclef : ofIndex ['𝄞'] 1 = .ok 2 := rfl
  obtain ⟨_, _, hto, _, _, herror, _⟩ := columns_name_boundaries ['𝄞']
  exact ⟨hto 1 2 hclef, (herror 1).2 (.inr (.inr ⟨[], '𝄞', [], rfl, by decide, rfl⟩))⟩

end Column

end EditorProtocol
