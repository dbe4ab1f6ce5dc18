import Mathlib.Algebra.Group.Nat.Defs
import Mathlib.Data.List.Infix
import EditorProtocol.Json.Text
import EditorProtocol.Proofs.Number.Numeral
import EditorProtocol.Proofs.Value.Json

/-!
What reading a text of JSON comes to. What is read is made of JSON values only, the rest of the text
is an end of it, and a text whose integers are not too long fails only because it is no JSON.
-/

namespace EditorProtocol

namespace Numeral

/-- A text of decimal digits writes a number with no more digits. -/
theorem value_lt_pow (ds : List Char) (h : ∀ c ∈ ds, isDecimal c = true) :
    value 10 ds < 10 ^ ds.length := by
  suffices hfold : ∀ n, ds.foldl (fun n c => n * 10 + (digit? c).getD 0) n <
      (n + 1) * 10 ^ ds.length by
    have hvalue := hfold 0
    rwa [Nat.zero_add, Nat.one_mul] at hvalue
  intro n
  induction ds generalizing n with
  | nil => simp
  | cons c rest ih =>
      obtain ⟨hc, hrest⟩ := List.forall_mem_cons.1 h
      have hdigit : (digit? c).getD 0 < 10 := by
        rw [isDecimal, isDigitOf] at hc
        split at hc
        · next d hd =>
          rw [hd]
          exact of_decide_eq_true hc
        · cases hc
      calc (c :: rest).foldl (fun n c => n * 10 + (digit? c).getD 0) n
          < (n * 10 + (digit? c).getD 0 + 1) * 10 ^ rest.length := ih hrest _
        _ ≤ ((n + 1) * 10) * 10 ^ rest.length := Nat.mul_le_mul_right _ (by omega)
        _ = (n + 1) * 10 ^ (c :: rest).length := by
          rw [List.length_cons, Nat.pow_succ, Nat.mul_assoc, Nat.mul_comm 10]

theorem natAbs_withSign (negative : Bool) (n : Nat) : (withSign negative n).natAbs = n := by
  cases negative with
  | false => exact Int.natAbs_natCast n
  | true => exact (Int.natAbs_neg _).trans (Int.natAbs_natCast n)

end Numeral

namespace Json

variable {α β : Type} {P : α → Prop} {Q : β → Prop} {s t : List Char}

/-- A run of more decimal digits than any integer may have. -/
def HasLongNumeral (s : List Char) : Prop :=
  ∃ digits, digits <:+: s ∧ (∀ c ∈ digits, Numeral.isDecimal c = true) ∧
    Numeral.maxDigits < digits.length

theorem HasLongNumeral.mono (h : HasLongNumeral t) (hts : t <:+: s) : HasLongNumeral s := by
  obtain ⟨digits, hinfix, hdigits⟩ := h
  exact ⟨digits, hinfix.trans hts, hdigits⟩

/-- What a reader makes of a text: something with a property and an end of the text, or a failure,
which is about a limit only if the text has a number beyond it. -/
def Reads (P : α → Prop) (s : List Char) : Except Failure (Parsed α s) → Prop
  | .ok p => P p.value ∧ p.rest <:+ s
  | .error f => f.isLimit = true → HasLongNumeral s

/-- A failure that is about no limit. -/
theorem Reads.failed {f : Failure} (h : f.isLimit = false) : Reads P s (.error f) :=
  fun hlimit => absurd (h.symm.trans hlimit) Bool.false_ne_true

/-- One reader goes on where another one stopped. -/
theorem Reads.bind {x : Except Failure (Parsed α t)}
    {f : Parsed α t → Except Failure (Parsed β s)} (h : Reads P t x) (hts : t <:+ s)
    (hnext : ∀ p, x = .ok p → P p.value → p.rest <:+ s → Reads Q s (f p)) :
    Reads Q s (x >>= f) := by
  cases x with
  | error e => exact fun hlimit => (h hlimit).mono hts.isInfix
  | ok p => exact hnext p rfl h.1 (h.2.trans hts)

/-- A reader of a later part of the text gives what becomes part of something else. -/
theorem Reads.after {x : Except Failure (Parsed α t)} {f : α → β} (h : Reads P t x) (hts : t <:+ s)
    (hle : t.length ≤ s.length) (hvalue : ∀ a, P a → Q (f a)) :
    Reads Q s (x >>= fun p => pure (p.after f hle)) :=
  h.bind hts fun _ _ hp hrest => ⟨hvalue _ hp, hrest⟩

/-! ### Strings -/

theorem isLimit_unicodeEscape {f : Failure} (h : unicodeEscape s = .error f) :
    f.isLimit = false := by
  unfold unicodeEscape at h
  split at h
  · cases h
    rfl
  · split at h
    · split at h
      · split at h
        · cases h
          rfl
        · split at h <;> cases h
      · cases h
    · cases h

theorem reads_stringBody (start s : List Char) :
    Reads (fun _ => True) s (stringBody start s) := by
  fun_induction stringBody start s with
  | case1 => exact .failed rfl
  | case2 rest => exact ⟨trivial, List.suffix_cons _ _⟩
  | case3 => exact .failed rfl
  | case4 rest ih =>
      cases hescape : unicodeEscape rest with
      | error f => exact .failed (isLimit_unicodeEscape hescape)
      | ok escape =>
          have hsuffix : rest.drop escape.2 <:+ '\\' :: 'u' :: rest :=
            (List.drop_suffix _ _).trans ((List.suffix_cons _ _).trans (List.suffix_cons _ _))
          exact (ih escape.2).after hsuffix _ fun _ _ => trivial
  | case5 => exact .failed rfl
  | case6 c rest _ d _ ih =>
      exact ih.after ((List.suffix_cons _ _).trans (List.suffix_cons _ _)) _ fun _ _ => trivial
  | case7 => exact .failed rfl
  | case8 c rest _ _ _ _ _ ih => exact ih.after (List.suffix_cons _ _) _ fun _ _ => trivial

/-! ### Numbers and names -/

theorem skipBlanks_suffix (s : List Char) : skipBlanks s <:+ s := List.dropWhile_suffix _

/-- What stands behind a character after blanks. -/
theorem suffix_of_skipBlanks {c : Char} {rest : List Char} (h : skipBlanks s = c :: rest) :
    rest <:+ s :=
  (List.suffix_cons c rest).trans (h ▸ skipBlanks_suffix s)

/-- The digits of an integer part stand at the front of the text. -/
theorem integerPart_append (s : List Char) : (integerPart s).1 ++ (integerPart s).2 = s := by
  unfold integerPart
  split
  · rfl
  · exact List.takeWhile_append_dropWhile

theorem isDecimal_integerPart (s : List Char) :
    ∀ c ∈ (integerPart s).1, Numeral.isDecimal c = true := by
  unfold integerPart
  split
  · intro c hc
    cases List.mem_singleton.1 hc
    decide
  · exact List.all_eq_true.1 List.all_takeWhile

theorem fractionPart_suffix (s : List Char) : (fractionPart s).2 <:+ s := by
  unfold fractionPart
  split
  · split
    · exact (List.dropWhile_suffix _).trans ((List.suffix_cons _ _).trans (List.suffix_cons _ _))
    · exact List.suffix_refl _
  · exact List.suffix_refl _

theorem sign_suffix (s : List Char) : (Numeral.sign s).2 <:+ s := by
  unfold Numeral.sign
  split
  · exact List.suffix_cons _ _
  · exact List.suffix_cons _ _
  · exact List.suffix_refl _

theorem exponentPart_suffix (s : List Char) : (exponentPart s).2 <:+ s := by
  unfold exponentPart
  split
  · dsimp only
    split
    · exact (List.dropWhile_suffix _).trans ((sign_suffix _).trans (List.suffix_cons _ _))
    · exact List.suffix_refl _
  · exact List.suffix_refl _

/-- What a text begins with as a single value. -/
structure IsAtom (s : List Char) (p : Parsed Value s) : Prop where
  json : p.value.IsJson
  suffix : p.rest <:+ s
  /-- An integer that is too long is written with as many digits. -/
  long : ∀ d, excess? p.value = some d → HasLongNumeral s

/-- The digits that a number has beyond the limit were read. -/
theorem hasLongNumeral_of_excess {negative : Bool} {d : Nat} (hne : (integerPart s).1 ≠ [])
    (h : excess? (.int (Numeral.withSign negative (Numeral.value 10 (integerPart s).1))) = some d) :
    HasLongNumeral s := by
  rw [excess?, Numeral.isTooLong, Numeral.natAbs_withSign] at h
  split at h
  · next hlong =>
    refine ⟨(integerPart s).1, ?_, isDecimal_integerPart s, ?_⟩
    · exact (List.prefix_iff_exists_append_eq.2 ⟨_, integerPart_append s⟩).isInfix
    · have hdigits := (Nat.length_toDigits_le_iff (b := 10) (k := (integerPart s).1.length)
        (by decide) ?_).2 (Numeral.value_lt_pow _ (isDecimal_integerPart s))
      · exact Nat.lt_of_lt_of_le (of_decide_eq_true hlong) hdigits
      · exact List.length_pos_iff.2 hne
  · cases h

theorem isAtom_unsignedNumber {negative : Bool} {p : Parsed Value s}
    (h : unsignedNumber negative s = some p) : IsAtom s p := by
  unfold unsignedNumber at h
  dsimp only at h
  split at h
  · cases h
  · next hne =>
    have hsuffix : (integerPart s).2 <:+ s := ⟨_, integerPart_append s⟩
    have hrest := (exponentPart_suffix _).trans ((fractionPart_suffix _).trans hsuffix)
    cases h
    by_cases hinteger : ((fractionPart (integerPart s).2).1.isEmpty &&
        (exponentPart (fractionPart (integerPart s).2).2).1.isNone) = true
    · refine ⟨?_, hrest, fun d hd => ?_⟩
      · rw [if_pos hinteger]
        exact .int _
      · rw [if_pos hinteger] at hd
        exact hasLongNumeral_of_excess (fun hnil => hne (List.isEmpty_iff.2 hnil)) hd
    · refine ⟨?_, hrest, fun d hd => ?_⟩
      · rw [if_neg hinteger]
        exact .float _
      · rw [if_neg hinteger] at hd
        cases hd

theorem isAtom_of_literal {l : (Char × List Char) × Value} (h : l ∈ literals) :
    l.2.IsJson ∧ excess? l.2 = none := by
  simp only [literals, List.mem_cons, List.not_mem_nil, or_false] at h
  rcases h with rfl | rfl | rfl | rfl | rfl | rfl
  · exact ⟨.null, rfl⟩
  · exact ⟨.bool true, rfl⟩
  · exact ⟨.bool false, rfl⟩
  · exact ⟨.float _, rfl⟩
  · exact ⟨.float _, rfl⟩
  · exact ⟨.float _, rfl⟩

theorem isAtom_atom {p : Parsed Value s} (h : atom? s = some p) : IsAtom s p := by
  unfold atom? at h
  split at h
  · cases h
  · next c rest =>
    split at h
    · next name v hfind =>
      obtain ⟨hjson, hexcess⟩ := isAtom_of_literal (List.mem_of_find?_eq_some hfind)
      cases h
      refine ⟨hjson, (List.drop_suffix _ _).trans (List.suffix_cons _ _), fun d hd => ?_⟩
      exact absurd (hexcess.symm.trans hd) (by simp)
    · split at h
      · obtain ⟨q, hq, rfl⟩ := Option.map_eq_some_iff.1 h
        obtain ⟨hjson, hsuffix, hlong⟩ := isAtom_unsignedNumber hq
        have hcons := List.suffix_cons c rest
        exact ⟨hjson, hsuffix.trans hcons, fun d hd => (hlong d hd).mono hcons.isInfix⟩
      · exact isAtom_unsignedNumber h

/-! ### Whole texts -/

theorem isJson_insertEntry {entries : List (String × Value)} {name : String} {v : Value}
    (h : ∀ e ∈ entries, e.2.IsJson) (hv : v.IsJson) :
    ∀ e ∈ Value.insertEntry entries name v, e.2.IsJson := by
  induction entries with
  | nil =>
      intro e he
      cases List.mem_singleton.1 he
      exact hv
  | cons entry rest ih =>
      obtain ⟨hentry, hrest⟩ := List.forall_mem_cons.1 h
      obtain ⟨k, w⟩ := entry
      rw [Value.insertEntry]
      split
      · exact List.forall_mem_cons.2 ⟨hv, hrest⟩
      · exact List.forall_mem_cons.2 ⟨hentry, ih hrest⟩

theorem isJson_ofEntries {entries : List (String × Value)} (h : ∀ e ∈ entries, e.2.IsJson) :
    (Value.ofEntries entries).IsJson := by
  suffices hfold : ∀ acc : List (String × Value), (∀ e ∈ acc, e.2.IsJson) →
      ∀ e ∈ entries.foldl (fun acc e => Value.insertEntry acc e.1 e.2) acc, e.2.IsJson from
    .object (hfold [] (by simp))
  induction entries with
  | nil => exact fun acc hacc => hacc
  | cons entry rest ih =>
      obtain ⟨hentry, hrest⟩ := List.forall_mem_cons.1 h
      exact fun acc hacc => ih hrest _ (isJson_insertEntry hacc hentry)

/-- The readers of values, of items and of entries. -/
theorem reads_all :
    (∀ s, Reads Value.IsJson s (value s)) ∧
      (∀ s, Reads (fun xs => ∀ x ∈ xs, x.IsJson) s (items s)) ∧
      ∀ s, Reads (fun es => ∀ e ∈ es, e.2.IsJson) s (members s) := by
  refine value.mutual_induct _ _ _ ?text ?emptyObject ?object ?emptyList ?list ?long ?atom ?none
    ?items ?members ?noName
  case text =>
    intro rest
    rw [value]
    exact (reads_stringBody _ rest).after (List.suffix_cons _ _) _ fun _ _ => .text _
  case emptyObject =>
    intro rest rest' hblanks
    rw [value]
    split
    · next heq => exact ⟨.object (by simp), (suffix_of_skipBlanks heq).trans (List.suffix_cons _ _)⟩
    · next hother => exact absurd hblanks (hother rest')
  case object =>
    intro rest hother ih
    rw [value]
    split
    · next heq => exact absurd heq (hother _)
    · exact ih.after ((skipBlanks_suffix rest).trans (List.suffix_cons _ _)) _
        fun _ => isJson_ofEntries
  case emptyList =>
    intro rest rest' hblanks
    rw [value]
    split
    · next heq => exact ⟨.list (by simp), (suffix_of_skipBlanks heq).trans (List.suffix_cons _ _)⟩
    · next hother => exact absurd hblanks (hother rest')
  case list =>
    intro rest hother ih
    rw [value]
    split
    · next heq => exact absurd heq (hother _)
    · exact ih.after ((skipBlanks_suffix rest).trans (List.suffix_cons _ _)) _ fun _ => .list
  case long =>
    intro s htext hobject hlist p hatom digits hexcess
    rw [value.eq_4 _ htext hobject hlist, hatom]
    dsimp only
    rw [hexcess]
    exact fun _ => (isAtom_atom hatom).long digits hexcess
  case atom =>
    intro s htext hobject hlist p hatom hexcess
    rw [value.eq_4 _ htext hobject hlist, hatom]
    dsimp only
    rw [hexcess]
    exact ⟨(isAtom_atom hatom).json, (isAtom_atom hatom).suffix⟩
  case none =>
    intro s htext hobject hlist hatom
    rw [value.eq_4 _ htext hobject hlist, hatom]
    exact .failed rfl
  case items =>
    intro s ihvalue ihitems
    rw [items]
    refine ihvalue.bind (List.suffix_refl s) fun p _ hp hrest => ?_
    split
    · next heq => exact ⟨List.forall_mem_singleton.2 hp, (suffix_of_skipBlanks heq).trans hrest⟩
    · next rest heq =>
      exact (ihitems p rest heq).after
        ((skipBlanks_suffix rest).trans ((suffix_of_skipBlanks heq).trans hrest)) _
        fun _ hxs => List.forall_mem_cons.2 ⟨hp, hxs⟩
    · exact .failed rfl
  case members =>
    intro afterQuote ihvalue ihmembers
    rw [members]
    refine (reads_stringBody _ afterQuote).bind (List.suffix_cons _ _) fun name _ _ hname => ?_
    split
    · next afterColon hcolon =>
      refine (ihvalue name afterColon hcolon).bind
        ((skipBlanks_suffix _).trans ((suffix_of_skipBlanks hcolon).trans hname))
        fun p _ hp hrest => ?_
      dsimp only
      split
      · next heq => exact ⟨List.forall_mem_singleton.2 hp, (suffix_of_skipBlanks heq).trans hrest⟩
      · next rest heq =>
        exact (ihmembers name afterColon hcolon p rest heq).after
          ((skipBlanks_suffix rest).trans ((suffix_of_skipBlanks heq).trans hrest)) _
          fun _ hes => List.forall_mem_cons.2 ⟨hp, hes⟩
      · exact .failed rfl
    · exact .failed rfl
  case noName =>
    intro s hquote
    rw [members.eq_2 _ hquote]
    exact .failed rfl

/-- A text that is read is a value of JSON. -/
theorem isJson_of_parseChars {v : Value} (h : parseChars s = .ok v) : v.IsJson := by
  have hvalue := reads_all.1 (skipBlanks s)
  rw [parseChars] at h
  split at h
  · cases h
  · cases hread : value (skipBlanks s) with
    | error f =>
        rw [hread] at h
        cases h
    | ok p =>
        rw [hread] at h hvalue
        change (if (skipBlanks p.rest).isEmpty then Except.ok p.value else _) = _ at h
        split at h
        · cases h
          exact hvalue.1
        · cases h

/-- A text that fails for a limit has a number beyond it. -/
theorem hasLongNumeral_of_parseChars {f : Failure} (h : parseChars s = .error f)
    (hlimit : f.isLimit = true) : HasLongNumeral s := by
  have hvalue := reads_all.1 (skipBlanks s)
  rw [parseChars] at h
  split at h
  · cases h
    cases hlimit
  · cases hread : value (skipBlanks s) with
    | error e =>
        rw [hread] at h hvalue
        cases h
        exact (hvalue hlimit).mono (skipBlanks_suffix s).isInfix
    | ok p =>
        rw [hread] at h
        change (if (skipBlanks p.rest).isEmpty then Except.ok p.value else _) = _ at h
        split at h
        · cases h
        · cases h
          cases hlimit

end Json

end EditorProtocol
