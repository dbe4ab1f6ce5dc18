import EditorProtocol.Proofs.Shape.Acyclic
import EditorProtocol.Proofs.Shape.Field
import EditorProtocol.Shape.Overlap

/-!
The rules by which the overlap analysis tells that two shapes share no value, without regard to the
pairs of shapes that it has met. A derivation by these rules has a rank: two records are apart for
reasons of an earlier rank, other shapes for reasons of the same rank in smaller shapes. A pair that
is apart from some rank on is needed again neither below this rank nor for smaller shapes at it, so
taking pairs that were met before to overlap hides nothing: the analysis answers that two shapes
share no value just if they are apart by the rules. It fails only for a record that is reached and
whose fields have no shapes.
-/

namespace EditorProtocol

variable {F : Family} {a b : Shape} {seen : List (Shape × Shape)}

/-! ### Shapes by their builds -/

/-- What a wire value is built of. -/
inductive Build where
  | scalar
  | array
  | object
deriving DecidableEq

namespace Shape

/-- The build of all values of a shape, if they have one in common; null does not count. -/
def build? : Shape → Option Build
  | .primitive _ => some .scalar
  | .enumeration _ => some .scalar
  | .sequence _ => some .array
  | .record _ => some .object
  | _ => none

/-- A shape that the analysis compares with the alternatives of a union. -/
structure Plain (s : Shape) : Prop where
  not_any : s ≠ .any
  not_nullable : ∀ inner, s ≠ .nullable inner

/-- A shape that the analysis compares with what a nullable shape has besides null. -/
structure Withheld (s : Shape) : Prop where
  not_any : s ≠ .any
  not_nullable : ∀ inner, s ≠ .nullable inner
  not_null : s ≠ .null

/-- Whether two shapes are told apart as they are: scalars that do not coincide, or values of
different builds. -/
def isForeign : Shape → Shape → Bool
  | .primitive p, .primitive q => !p.kind.compatible q.kind
  | .primitive p, .enumeration e => !e.codes.overlapPrimitive p
  | .enumeration e, .primitive p => !e.codes.overlapPrimitive p
  | .enumeration d, .enumeration e => !d.codes.overlap e.codes
  | a, b => a.build?.any fun i => b.build?.any (· != i)

/-- Shapes that are told apart as they are have builds. -/
theorem exists_builds (h : a.isForeign b = true) :
    (∃ i, a.build? = some i) ∧ ∃ j, b.build? = some j := by
  unfold isForeign at h
  split at h
  case h_5 =>
    obtain ⟨i, hi, h⟩ := (Option.any_eq_true _ _).1 h
    obtain ⟨j, hj, _⟩ := (Option.any_eq_true _ _).1 h
    exact ⟨⟨i, hi⟩, j, hj⟩
  all_goals exact ⟨⟨_, rfl⟩, _, rfl⟩

/-! Nothing of this depends on the members of enumerations. -/

theorem isForeign_untyped : a.untyped.isForeign b.untyped = a.isForeign b := by
  cases a <;> cases b <;> rfl

theorem Plain.untyped (h : a.Plain) : a.untyped.Plain := by
  cases a with
  | any => exact (h.not_any rfl).elim
  | nullable inner => exact (h.not_nullable inner rfl).elim
  | _ => exact ⟨nofun, nofun⟩

theorem Withheld.untyped (h : a.Withheld) : a.untyped.Withheld := by
  cases a with
  | any => exact (h.not_any rfl).elim
  | nullable inner => exact (h.not_nullable inner rfl).elim
  | primitive p => exact h
  | _ => exact ⟨nofun, nofun, nofun⟩

theorem untyped_ne_union (h : ∀ others, a ≠ .union others) :
    ∀ others, a.untyped ≠ .union others := by
  cases a with
  | union alternatives => exact (h alternatives rfl).elim
  | _ => exact nofun

theorem forall_untypedAll {P : Shape → Prop} {shapes : List Shape} :
    (∀ s ∈ untypedAll shapes, P s) ↔ ∀ s ∈ shapes, P s.untyped := by
  rw [Family.untypedAll_eq_map, List.forall_mem_map]

theorem sizeOf_untyped_lt {alternatives : List Shape} {s : Shape} (h : s ∈ alternatives) :
    sizeOf s.untyped < sizeOf (union alternatives).untyped := by
  rw [untyped]
  exact sizeOf_lt_of_mem (Family.untypedAll_eq_map alternatives ▸ List.mem_map_of_mem h)

end Shape

/-! ### The rules -/

namespace Field

variable {R : Shape → Shape → Prop} {f : Field} {rest fs gs : List Field}

/-- A field of a record and the one at the same key of another are related, and one of them is
needed. -/
def Setting (R : Shape → Shape → Prop) (fs gs : List Field) : Prop :=
  ∃ f ∈ fs, ∃ g, find? gs f.wire = some g ∧ (f.optional && g.optional) = false ∧
    R f.shape g.shape

/-- A field that is needed in the first of two records and that the second does not declare. -/
def Exclusive (fs gs : List Field) : Prop :=
  ∃ f ∈ fs, f.optional = false ∧ find? gs f.wire = none

theorem Setting.cons (f : Field) (h : Setting R rest gs) : Setting R (f :: rest) gs := by
  obtain ⟨g, hg, h⟩ := h
  exact ⟨g, List.mem_cons_of_mem f hg, h⟩

theorem Exclusive.cons (f : Field) (h : Exclusive rest gs) : Exclusive (f :: rest) gs := by
  obtain ⟨g, hg, h⟩ := h
  exact ⟨g, List.mem_cons_of_mem f hg, h⟩

end Field

namespace Family

/-- The pairs of shapes that the rules of the analysis set apart, with at most a number of pairs of
records inside one another. The rules are tried in this order: nullable shapes, unions, records. -/
inductive DisjointBy (F : Family) : Nat → Shape → Shape → Prop
  | foreign {n : Nat} {a b : Shape} (h : a.isForeign b = true) : DisjointBy F n a b
  | nullableLeft {n : Nat} {inner b : Shape} (withheld : b.Withheld)
      (rest : DisjointBy F n inner b) : DisjointBy F n (.nullable inner) b
  | nullableRight {n : Nat} {a inner : Shape} (withheld : a.Withheld)
      (rest : DisjointBy F n inner a) : DisjointBy F n a (.nullable inner)
  | unionRight {n : Nat} {a : Shape} {alternatives : List Shape} (plain : a.Plain)
      (each : ∀ s ∈ alternatives, DisjointBy F n s a) : DisjointBy F n a (.union alternatives)
  | unionLeft {n : Nat} {alternatives : List Shape} {b : Shape} (plain : b.Plain)
      (single : ∀ others, b ≠ .union others) (each : ∀ s ∈ alternatives, DisjointBy F n s b) :
      DisjointBy F n (.union alternatives) b
  | field {n : Nat} {r s : ModelRef} {fs gs : List Field} {f g : Field} (ne : r ≠ s)
      (left : F.fields r = .ok fs) (right : F.fields s = .ok gs) (mem : f ∈ fs)
      (shared : Field.find? gs f.wire = some g) (needed : (f.optional && g.optional) = false)
      (rest : DisjointBy F n f.shape g.shape) : DisjointBy F (n + 1) (.record r) (.record s)
  | fieldBack {n : Nat} {r s : ModelRef} {fs gs : List Field} {f g : Field} (ne : r ≠ s)
      (left : F.fields r = .ok fs) (right : F.fields s = .ok gs) (mem : g ∈ gs)
      (shared : Field.find? fs g.wire = some f) (needed : (g.optional && f.optional) = false)
      (rest : DisjointBy F n g.shape f.shape) : DisjointBy F (n + 1) (.record r) (.record s)
  | exclusive {n : Nat} {r s : ModelRef} {fs gs : List Field} (ne : r ≠ s)
      (left : F.fields r = .ok fs) (right : F.fields s = .ok gs)
      (lacks_right : Field.Exclusive fs gs) (lacks_left : Field.Exclusive gs fs) :
      DisjointBy F (n + 1) (.record r) (.record s)

/-- Two shapes are apart by the rules of the analysis. -/
def AreDisjoint (F : Family) (a b : Shape) : Prop := ∃ n, F.DisjointBy n a b

namespace DisjointBy

variable {n k : Nat}

theorem mono (h : F.DisjointBy n a b) (hnk : n ≤ k) : F.DisjointBy k a b := by
  induction h generalizing k with
  | foreign h => exact .foreign h
  | nullableLeft withheld _ ih => exact .nullableLeft withheld (ih hnk)
  | nullableRight withheld _ ih => exact .nullableRight withheld (ih hnk)
  | unionRight plain _ ih => exact .unionRight plain fun s hs => ih s hs hnk
  | unionLeft plain single _ ih => exact .unionLeft plain single fun s hs => ih s hs hnk
  | field ne left right mem shared needed _ ih =>
      obtain ⟨k, rfl⟩ := Nat.exists_eq_add_of_le' (Nat.lt_of_lt_of_le (Nat.succ_pos _) hnk)
      exact .field ne left right mem shared needed (ih (Nat.le_of_succ_le_succ hnk))
  | fieldBack ne left right mem shared needed _ ih =>
      obtain ⟨k, rfl⟩ := Nat.exists_eq_add_of_le' (Nat.lt_of_lt_of_le (Nat.succ_pos _) hnk)
      exact .fieldBack ne left right mem shared needed (ih (Nat.le_of_succ_le_succ hnk))
  | exclusive ne left right lacks_right lacks_left =>
      obtain ⟨k, rfl⟩ := Nat.exists_eq_add_of_le' (Nat.lt_of_lt_of_le (Nat.succ_pos _) hnk)
      exact .exclusive ne left right lacks_right lacks_left

/-- Why two records are apart, in terms of the ranks before. -/
def Reason (F : Family) (n : Nat) (r s : ModelRef) : Prop :=
  r ≠ s ∧ ∃ fs gs, F.fields r = .ok fs ∧ F.fields s = .ok gs ∧
    (Field.Setting (F.DisjointBy n) fs gs ∨ Field.Setting (F.DisjointBy n) gs fs ∨
      (Field.Exclusive fs gs ∧ Field.Exclusive gs fs))

theorem reason {r s : ModelRef} (h : F.DisjointBy (n + 1) (.record r) (.record s)) :
    Reason F n r s := by
  cases h with
  | foreign h => cases h
  | @field _ _ _ fs gs f g ne left right mem shared needed rest =>
      exact ⟨ne, fs, gs, left, right, .inl ⟨f, mem, g, shared, needed, rest⟩⟩
  | @fieldBack _ _ _ fs gs f g ne left right mem shared needed rest =>
      exact ⟨ne, fs, gs, left, right, .inr (.inl ⟨g, mem, f, shared, needed, rest⟩)⟩
  | @exclusive _ _ _ fs gs ne left right lacks_right lacks_left =>
      exact ⟨ne, fs, gs, left, right, .inr (.inr ⟨lacks_right, lacks_left⟩)⟩

/-- Two shapes that are apart are so from some rank on. -/
theorem exists_first (h : F.DisjointBy n a b) :
    ∃ k ≤ n, F.DisjointBy k a b ∧ ∀ j < k, ¬ F.DisjointBy j a b := by
  induction n with
  | zero => exact ⟨0, Nat.le_refl 0, h, nofun⟩
  | succ n ih =>
      by_cases hn : F.DisjointBy n a b
      · obtain ⟨k, hkn, hk⟩ := ih hn
        exact ⟨k, Nat.le_succ_of_le hkn, hk⟩
      · refine ⟨n + 1, Nat.le_refl _, h, fun j hj hab => hn ?_⟩
        exact hab.mono (Nat.le_of_lt_succ hj)

/-- Two records that are apart are so from some rank on, for reasons of the rank before. -/
theorem first_reason {r s : ModelRef} (h : F.DisjointBy n (.record r) (.record s)) :
    ∃ k < n, ¬ F.DisjointBy k (.record r) (.record s) ∧ Reason F k r s := by
  obtain ⟨k, hkn, hk, hfirst⟩ := h.exists_first
  cases k with
  | zero =>
      cases hk with
      | foreign h => cases h
  | succ k => exact ⟨k, hkn, hfirst k (Nat.lt_succ_self k), hk.reason⟩

end DisjointBy

/-- Shapes all of which are apart from one are so from some rank on. -/
theorem exists_common_disjoint {shapes : List Shape} (h : ∀ s ∈ shapes, F.AreDisjoint s b) :
    ∃ n, ∀ s ∈ shapes, F.DisjointBy n s b :=
  exists_common_rank (fun _ _ _ h hnk => h.mono hnk) h

/-- Records are apart for a reason found in their fields. -/
theorem areDisjoint_records {r s : ModelRef} {fs gs : List Field} (ne : r ≠ s)
    (hr : F.fields r = .ok fs) (hs : F.fields s = .ok gs)
    (h : Field.Setting F.AreDisjoint fs gs ∨ Field.Setting F.AreDisjoint gs fs ∨
      (Field.Exclusive fs gs ∧ Field.Exclusive gs fs)) :
    F.AreDisjoint (.record r) (.record s) := by
  rcases h with ⟨f, mem, g, shared, needed, n, h⟩ | ⟨g, mem, f, shared, needed, n, h⟩ | ⟨h, h'⟩
  · exact ⟨n + 1, .field ne hr hs mem shared needed h⟩
  · exact ⟨n + 1, .fieldBack ne hr hs mem shared needed h⟩
  · exact ⟨1, .exclusive ne hr hs h h'⟩

/-! ### One step of the analysis -/

theorem overlapFrom_met (h : (a.untyped, b.untyped) ∈ seen) :
    F.overlapFrom seen a b = .ok true := by
  unfold overlapFrom
  exact if_pos h

theorem overlapFrom_nullable_left {inner : Shape}
    (hnew : ((Shape.nullable inner).untyped, b.untyped) ∉ seen) (h : b.Withheld) :
    F.overlapFrom seen (.nullable inner) b =
      F.overlapFrom ((Shape.nullable inner).addPair b seen) inner b := by
  rw [overlapFrom, if_neg hnew, if_neg h.not_null]
  · exact h.not_any
  · exact h.not_nullable

theorem overlapFrom_nullable_right {inner : Shape}
    (hnew : (a.untyped, (Shape.nullable inner).untyped) ∉ seen) (h : a.Withheld) :
    F.overlapFrom seen a (.nullable inner) =
      F.overlapFrom (a.addPair (.nullable inner) seen) inner a := by
  rw [overlapFrom, if_neg hnew, if_neg h.not_null]
  · exact h.not_any
  · exact h.not_nullable

theorem overlapFrom_union_right {alternatives : List Shape}
    (hnew : (a.untyped, (Shape.union alternatives).untyped) ∉ seen) (h : a.Plain) :
    F.overlapFrom seen a (.union alternatives) =
      F.anyOverlap (a.addPair (.union alternatives) seen) alternatives a := by
  rw [overlapFrom, if_neg hnew]
  · exact h.not_any
  · exact h.not_nullable

theorem overlapFrom_union_left {alternatives : List Shape}
    (hnew : ((Shape.union alternatives).untyped, b.untyped) ∉ seen) (h : b.Plain)
    (single : ∀ others, b ≠ .union others) :
    F.overlapFrom seen (.union alternatives) b =
      F.anyOverlap ((Shape.union alternatives).addPair b seen) alternatives b := by
  rw [overlapFrom, if_neg hnew]
  · exact h.not_any
  · exact h.not_nullable
  · exact single

section Fields

variable {f g : Field} {rest gs : List Field}

theorem distinguish_missing (h : Field.find? gs f.wire = none) :
    F.distinguish seen (f :: rest) gs = do
      let (apart, exclusive) ← F.distinguish seen rest gs
      return (apart, exclusive || !f.optional) := by
  rw [distinguish, h]

theorem distinguish_optionals (h : Field.find? gs f.wire = some g)
    (optional : (f.optional && g.optional) = true) :
    F.distinguish seen (f :: rest) gs = F.distinguish seen rest gs := by
  rw [distinguish, h]
  exact if_pos optional

theorem distinguish_needed (h : Field.find? gs f.wire = some g)
    (needed : ¬ (f.optional && g.optional) = true) :
    F.distinguish seen (f :: rest) gs = do
      if ← F.overlapFrom seen f.shape g.shape then F.distinguish seen rest gs
      else return (true, false) := by
  rw [distinguish, h]
  exact if_neg needed

end Fields

/-- The analysis of two records that it has not met yet. -/
theorem overlapFrom_records {r s : ModelRef} {m n : Model} (hne : r ≠ s)
    (hnew : ((Shape.record r).untyped, (Shape.record s).untyped) ∉ seen)
    (hm : F.find? r = some m) (hn : F.find? s = some n) :
    F.overlapFrom seen (.record r) (.record s) =
      match m.fields.mapM (·.field), n.fields.mapM (·.field) with
      | .error e, _ => .error e
      | _, .error e => .error e
      | .ok fs, .ok gs => do
        let (apart, exclusive) ← F.distinguish ((Shape.record r).addPair (.record s) seen) fs gs
        let (apart', exclusive') ← F.distinguish ((Shape.record r).addPair (.record s) seen) gs fs
        return !(apart || apart') && !(exclusive && exclusive') := by
  rw [overlapFrom, if_neg hnew, if_neg hne]
  split
  · next m' n' hm' hn' =>
    cases hm'.symm.trans hm
    cases hn'.symm.trans hn
    rfl
  · next hnone => exact (hnone m n hm hn).elim

/-! ### Answers that shapes are apart -/

/-- What the analysis sets apart is apart by the rules, whichever pairs it has met. -/
theorem areDisjoint_of_overlapFrom :
    (∀ seen a b, F.overlapFrom seen a b = .ok false → F.AreDisjoint a b) ∧
      (∀ seen fs gs, ∀ apart exclusive, F.distinguish seen fs gs = .ok (apart, exclusive) →
        (apart = true → Field.Setting F.AreDisjoint fs gs) ∧
          (exclusive = true → Field.Exclusive fs gs)) ∧
      ∀ seen alternatives b, F.anyOverlap seen alternatives b = .ok false →
        ∀ s ∈ alternatives, F.AreDisjoint s b := by
  refine overlapFrom.mutual_induct F _ _ _ ?met ?anyLeft ?anyRight ?nullables ?nullRight
    ?nullableLeft ?nullLeft ?nullableRight ?unionRight ?unionLeft ?sequences ?sameRecord
    ?failedLeft ?failedRight ?records ?unknown ?primitives ?listed ?listing ?codes ?other
    ?noField ?missing ?optionals ?needed ?noAlternative ?alternative
  -- Rules that answer that the shapes overlap.
  case met =>
    intro seen a b hmet h
    cases (overlapFrom_met hmet).symm.trans h
  case anyLeft | anyRight | nullables | nullRight | nullLeft | sequences | sameRecord | unknown =>
    intros
    simp_all [overlapFrom]
  case failedLeft =>
    intro seen r s hne m n hm hn e he hnew h
    rw [overlapFrom_records hne hnew hm hn, he] at h
    cases h
  case failedRight =>
    intro seen r s hne m n hm hn e he hfs hnew h
    rw [overlapFrom_records hne hnew hm hn, he] at h
    cases hfields : m.fields.mapM (·.field) with
    | error e' => exact (hfs e' hfields).elim
    | ok fs =>
        rw [hfields] at h
        cases h
  case nullableLeft =>
    intro seen inner b hany hnullable hnull hnew ih h
    rw [overlapFrom_nullable_left hnew ⟨hany, hnullable, hnull⟩] at h
    obtain ⟨n, hn⟩ := ih h
    exact ⟨n, .nullableLeft ⟨hany, hnullable, hnull⟩ hn⟩
  case nullableRight =>
    intro seen a inner hany hnullable hnull hnew ih h
    rw [overlapFrom_nullable_right hnew ⟨hany, hnullable, hnull⟩] at h
    obtain ⟨n, hn⟩ := ih h
    exact ⟨n, .nullableRight ⟨hany, hnullable, hnull⟩ hn⟩
  case unionRight =>
    intro seen a alternatives hany hnullable hnew ih h
    rw [overlapFrom_union_right hnew ⟨hany, hnullable⟩] at h
    obtain ⟨n, hn⟩ := exists_common_disjoint (ih h)
    exact ⟨n, .unionRight ⟨hany, hnullable⟩ hn⟩
  case unionLeft =>
    intro seen alternatives b hany hnullable hunion hnew ih h
    rw [overlapFrom_union_left hnew ⟨hany, hnullable⟩ hunion] at h
    obtain ⟨n, hn⟩ := exists_common_disjoint (ih h)
    exact ⟨n, .unionLeft ⟨hany, hnullable⟩ hunion hn⟩
  case primitives | listed | listing | codes =>
    intros
    next hnew h =>
    rw [overlapFrom, if_neg hnew] at h
    exact ⟨0, .foreign (by rw [Shape.isForeign, Except.ok.inj h]; rfl)⟩
  case records =>
    intro seen r s hne m n hm hn fs gs hgs hfs hnew ih ih' h
    rw [overlapFrom_records hne hnew hm hn, hfs, hgs] at h
    obtain ⟨⟨apart, exclusive⟩, hd, h⟩ := bind_eq_ok.1 h
    obtain ⟨⟨apart', exclusive'⟩, hd', h⟩ := bind_eq_ok.1 h
    obtain ⟨hset, hexclusive⟩ := ih apart exclusive hd
    obtain ⟨hset', hexclusive'⟩ := ih' apart' exclusive' hd'
    refine areDisjoint_records hne (fields_of_find hm hfs) (fields_of_find hn hgs) ?_
    have hcases : apart = true ∨ apart' = true ∨ (exclusive = true ∧ exclusive' = true) := by
      have := Except.ok.inj h
      cases apart <;> cases apart' <;> cases exclusive <;> cases exclusive' <;> simp_all
    exact hcases.imp hset (Or.imp hset' fun h => ⟨hexclusive h.1, hexclusive' h.2⟩)
  case other =>
    intro seen a b
    intros
    refine ⟨0, .foreign ?_⟩
    cases a <;> cases b <;> first | rfl | simp_all
  case noField =>
    intro seen gs apart exclusive h
    rw [distinguish] at h
    cases h
    exact ⟨nofun, nofun⟩
  case missing =>
    intro seen gs f rest hfind ih apart exclusive h
    rw [distinguish_missing hfind] at h
    obtain ⟨⟨apart', exclusive'⟩, hd, h⟩ := bind_eq_ok.1 h
    obtain ⟨hset, hexclusive⟩ := ih apart' exclusive' hd
    cases h
    refine ⟨fun h => (hset h).cons f, fun h => ?_⟩
    rcases Bool.or_eq_true_iff.1 h with h | h
    · exact (hexclusive h).cons f
    · exact ⟨f, List.mem_cons_self, by simpa using h, hfind⟩
  case optionals =>
    intro seen gs f rest g hfind hoptional ih apart exclusive h
    rw [distinguish_optionals hfind hoptional] at h
    obtain ⟨hset, hexclusive⟩ := ih apart exclusive h
    exact ⟨fun h => (hset h).cons f, fun h => (hexclusive h).cons f⟩
  case needed =>
    intro seen gs f rest g hfind hneeded ih ihrest apart exclusive h
    rw [distinguish_needed hfind hneeded] at h
    obtain ⟨overlap, ho, h⟩ := bind_eq_ok.1 h
    cases overlap with
    | true =>
        obtain ⟨hset, hexclusive⟩ := ihrest apart exclusive h
        exact ⟨fun h => (hset h).cons f, fun h => (hexclusive h).cons f⟩
    | false =>
        cases h
        refine ⟨fun _ => ⟨f, List.mem_cons_self, g, hfind, ?_, ih ho⟩, nofun⟩
        simpa using hneeded
  case noAlternative =>
    exact fun seen b _ s hs => (List.not_mem_nil hs).elim
  case alternative =>
    intro seen b a rest ih ihrest h
    rw [anyOverlap] at h
    obtain ⟨overlap, ho, h⟩ := bind_eq_ok.1 h
    cases overlap with
    | true => cases h
    | false => exact List.forall_mem_cons.2 ⟨ih ho, ihrest h⟩

/-! ### Answers that shapes overlap -/

namespace DisjointBy

variable {n : Nat}

theorem not_any_left : ¬ F.DisjointBy n .any b := by
  intro h
  cases h with
  | foreign h =>
      obtain ⟨⟨i, hi⟩, _⟩ := Shape.exists_builds h
      cases hi
  | nullableRight withheld => exact withheld.not_any rfl
  | unionRight plain => exact plain.not_any rfl

theorem not_any_right : ¬ F.DisjointBy n a .any := by
  intro h
  cases h with
  | foreign h =>
      obtain ⟨_, j, hj⟩ := Shape.exists_builds h
      cases hj
  | nullableLeft withheld => exact withheld.not_any rfl
  | unionLeft plain => exact plain.not_any rfl

theorem nullable_left_inv {inner : Shape} (h : F.DisjointBy n (.nullable inner) b) :
    b.Withheld ∧ F.DisjointBy n inner b := by
  cases h with
  | foreign h =>
      obtain ⟨⟨i, hi⟩, _⟩ := Shape.exists_builds h
      cases hi
  | nullableLeft withheld rest => exact ⟨withheld, rest⟩
  | nullableRight withheld => exact (withheld.not_nullable _ rfl).elim
  | unionRight plain => exact (plain.not_nullable _ rfl).elim

theorem nullable_right_inv {inner : Shape} (h : F.DisjointBy n a (.nullable inner)) :
    a.Withheld ∧ F.DisjointBy n inner a := by
  cases h with
  | foreign h =>
      obtain ⟨_, j, hj⟩ := Shape.exists_builds h
      cases hj
  | nullableLeft withheld => exact (withheld.not_nullable _ rfl).elim
  | nullableRight withheld rest => exact ⟨withheld, rest⟩
  | unionLeft plain => exact (plain.not_nullable _ rfl).elim

theorem union_right_inv {alternatives : List Shape} (plain : a.Plain)
    (h : F.DisjointBy n a (.union alternatives)) : ∀ s ∈ alternatives, F.DisjointBy n s a := by
  cases h with
  | foreign h =>
      obtain ⟨_, j, hj⟩ := Shape.exists_builds h
      cases hj
  | nullableLeft => exact (plain.not_nullable _ rfl).elim
  | unionRight _ each => exact each
  | unionLeft _ single => exact (single _ rfl).elim

theorem union_left_inv {alternatives : List Shape} (plain : b.Plain)
    (single : ∀ others, b ≠ .union others) (h : F.DisjointBy n (.union alternatives) b) :
    ∀ s ∈ alternatives, F.DisjointBy n s b := by
  cases h with
  | foreign h =>
      obtain ⟨⟨i, hi⟩, _⟩ := Shape.exists_builds h
      cases hi
  | nullableRight => exact (plain.not_nullable _ rfl).elim
  | unionRight => exact (single _ rfl).elim
  | unionLeft _ _ each => exact each

/-- Scalars and arrays are apart only as they are. -/
theorem foreign_inv {i j : Build} (h : F.DisjointBy n a b) (ha : a.build? = some i)
    (hb : b.build? = some j) (hi : i ≠ .object) : a.isForeign b = true := by
  cases h with
  | foreign h => exact h
  | nullableLeft => cases ha
  | nullableRight => cases hb
  | unionRight => cases hb
  | unionLeft => cases ha
  | field | fieldBack | exclusive =>
      cases ha
      exact (hi rfl).elim

/-- What the members of enumerations are does not set shapes apart. -/
theorem untyped (h : F.DisjointBy n a b) : F.DisjointBy n a.untyped b.untyped := by
  induction h with
  | foreign h => exact .foreign (Shape.isForeign_untyped.trans h)
  | nullableLeft withheld _ ih => exact .nullableLeft withheld.untyped ih
  | nullableRight withheld _ ih => exact .nullableRight withheld.untyped ih
  | unionRight plain _ ih => exact .unionRight plain.untyped (Shape.forall_untypedAll.2 ih)
  | unionLeft plain single _ ih =>
      exact .unionLeft plain.untyped (Shape.untyped_ne_union single) (Shape.forall_untypedAll.2 ih)
  | field ne left right mem shared needed rest =>
      exact .field ne left right mem shared needed rest
  | fieldBack ne left right mem shared needed rest =>
      exact .fieldBack ne left right mem shared needed rest
  | exclusive ne left right lacks_right lacks_left =>
      exact .exclusive ne left right lacks_right lacks_left

end DisjointBy

section Met

variable {n k size : Nat}

/-- None of the pairs that were met is apart at a rank. -/
def MetAbove (F : Family) (seen : List (Shape × Shape)) (n : Nat) : Prop :=
  ∀ a b, (a, b) ∈ seen → ¬ F.DisjointBy n a b

/-- Of the pairs that were met none is apart before a rank, and those that are apart from this rank
on are larger than a size. -/
structure MetAfter (F : Family) (seen : List (Shape × Shape)) (n size : Nat) : Prop where
  later : ∀ a b, (a, b) ∈ seen → ∀ k < n, ¬ F.DisjointBy k a b
  larger : ∀ a b, (a, b) ∈ seen → F.DisjointBy n a b → size < sizeOf a + sizeOf b

theorem MetAbove.cons (h : F.MetAbove seen n) (hab : ¬ F.DisjointBy n a b) :
    F.MetAbove ((a, b) :: seen) n := by
  intro x y hmem
  rcases List.mem_cons.1 hmem with heq | hmem
  · cases heq
    exact hab
  · exact h x y hmem

theorem MetAbove.after (h : F.MetAbove seen n) (size : Nat) : F.MetAfter seen n size where
  later a b hmem _ hk hab := h a b hmem (hab.mono (Nat.le_of_lt hk))
  larger a b hmem hab := (h a b hmem hab).elim

theorem MetAfter.above (h : F.MetAfter seen n size) (hkn : k < n) : F.MetAbove seen k :=
  fun a b hmem => h.later a b hmem k hkn

/-- A pair that is apart was not met if those that were met are later or larger. -/
theorem MetAfter.not_mem (h : F.MetAfter seen n (sizeOf a + sizeOf b)) (hab : F.DisjointBy n a b) :
    (a, b) ∉ seen :=
  fun hmem => Nat.lt_irrefl _ (h.larger a b hmem hab)

/-- A pair that is apart is met at the first rank at which it is, before smaller pairs at the same
rank. -/
theorem MetAfter.descend (h : F.MetAfter seen n (sizeOf a + sizeOf b))
    (hab : F.DisjointBy n a b) :
    ∃ k, F.DisjointBy k a b ∧
      ∀ size < sizeOf a + sizeOf b, F.MetAfter ((a, b) :: seen) k size := by
  obtain ⟨k, hkn, hk, hfirst⟩ := hab.exists_first
  refine ⟨k, hk, fun size hsize => ⟨?_, ?_⟩⟩
  · intro x y hmem j hj
    rcases List.mem_cons.1 hmem with heq | hmem
    · cases heq
      exact hfirst j hj
    · exact h.later x y hmem j (Nat.lt_of_lt_of_le hj hkn)
  · intro x y hmem hxy
    rcases List.mem_cons.1 hmem with heq | hmem
    · cases heq
      exact hsize
    · rcases Nat.lt_or_eq_of_le hkn with hlt | rfl
      · exact (h.later x y hmem k hlt hxy).elim
      · exact Nat.lt_trans hsize (h.larger x y hmem hxy)

end Met

/-- Where the pairs that were met are later or larger, the analysis does not take shapes to overlap
that are apart. -/
theorem ne_true_of_disjointBy :
    (∀ seen a b, ∀ n, F.DisjointBy n a.untyped b.untyped →
        F.MetAfter seen n (sizeOf a.untyped + sizeOf b.untyped) →
          F.overlapFrom seen a b ≠ .ok true) ∧
      (∀ seen fs gs, ∀ n apart exclusive, F.MetAbove seen n →
        F.distinguish seen fs gs = .ok (apart, exclusive) →
          (Field.Setting (F.DisjointBy n) fs gs → apart = true) ∧
            (apart = false → Field.Exclusive fs gs → exclusive = true)) ∧
      ∀ seen alternatives b, ∀ n,
        (∀ s ∈ alternatives, F.DisjointBy n s.untyped b.untyped ∧
          F.MetAfter seen n (sizeOf s.untyped + sizeOf b.untyped)) →
            F.anyOverlap seen alternatives b ≠ .ok true := by
  refine overlapFrom.mutual_induct F _ _ _ ?met ?anyLeft ?anyRight ?nullables ?nullRight
    ?nullableLeft ?nullLeft ?nullableRight ?unionRight ?unionLeft ?sequences ?sameRecord
    ?failedLeft ?failedRight ?records ?unknown ?primitives ?listed ?listing ?codes ?other
    ?noField ?missing ?optionals ?needed ?noAlternative ?alternative
  case met => exact fun seen a b hmet n h hafter => (hafter.not_mem h hmet).elim
  case anyLeft => exact fun seen b _ n h _ => (DisjointBy.not_any_left h).elim
  case anyRight => exact fun seen a _ _ n h _ => (DisjointBy.not_any_right h).elim
  case nullables => exact fun seen x y _ n h _ => (h.nullable_left_inv.1.not_nullable _ rfl).elim
  case nullRight => exact fun seen inner _ _ _ n h _ => (h.nullable_left_inv.1.not_null rfl).elim
  case nullableLeft =>
    intro seen inner b hany hnullable hnull hnew ih n h hafter
    rw [overlapFrom_nullable_left hnew ⟨hany, hnullable, hnull⟩]
    obtain ⟨k, hk, hbelow⟩ := hafter.descend h
    refine ih k hk.nullable_left_inv.2 (hbelow _ ?_)
    simp [Shape.untyped]
  case nullLeft => exact fun seen inner _ _ _ n h _ => (h.nullable_right_inv.1.not_null rfl).elim
  case nullableRight =>
    intro seen a inner hany hnullable hnull hnew ih n h hafter
    rw [overlapFrom_nullable_right hnew ⟨hany, hnullable, hnull⟩]
    obtain ⟨k, hk, hbelow⟩ := hafter.descend h
    refine ih k hk.nullable_right_inv.2 (hbelow _ ?_)
    simp only [Shape.untyped, Shape.nullable.sizeOf_spec]
    omega
  case unionRight =>
    intro seen a alternatives hany hnullable hnew ih n h hafter
    rw [overlapFrom_union_right hnew ⟨hany, hnullable⟩]
    obtain ⟨k, hk, hbelow⟩ := hafter.descend h
    have heach := hk.union_right_inv (Shape.Plain.untyped ⟨hany, hnullable⟩)
    refine ih k fun s hs => ⟨Shape.forall_untypedAll.1 heach s hs, hbelow _ ?_⟩
    have := Shape.sizeOf_untyped_lt hs
    omega
  case unionLeft =>
    intro seen alternatives b hany hnullable hunion hnew ih n h hafter
    rw [overlapFrom_union_left hnew ⟨hany, hnullable⟩ hunion]
    obtain ⟨k, hk, hbelow⟩ := hafter.descend h
    have heach := hk.union_left_inv (Shape.Plain.untyped ⟨hany, hnullable⟩)
      (Shape.untyped_ne_union hunion)
    refine ih k fun s hs => ⟨Shape.forall_untypedAll.1 heach s hs, hbelow _ ?_⟩
    have := Shape.sizeOf_untyped_lt hs
    omega
  case sequences =>
    intro seen x y _ n h _
    cases h.foreign_inv rfl rfl (by decide)
  case sameRecord =>
    intro seen r _ n h _
    obtain ⟨_, _, _, hne, _⟩ := h.first_reason
    exact (hne rfl).elim
  case failedLeft =>
    intro seen r s hne m n hm hn e he hnew k _ _
    rw [overlapFrom_records hne hnew hm hn, he]
    intro h
    cases h
  case failedRight =>
    intro seen r s hne m n hm hn e he hfs hnew k _ _
    rw [overlapFrom_records hne hnew hm hn, he]
    cases hfields : m.fields.mapM (·.field) with
    | error e' => exact (hfs e' hfields).elim
    | ok fs =>
        intro h
        cases h
  case records =>
    intro seen r s hne m n hm hn fs gs hgs hfs hnew ih ih' l h hafter hoverlap
    rw [overlapFrom_records hne hnew hm hn, hfs, hgs] at hoverlap
    obtain ⟨⟨apart, exclusive⟩, hd, hoverlap⟩ := bind_eq_ok.1 hoverlap
    obtain ⟨⟨apart', exclusive'⟩, hd', hoverlap⟩ := bind_eq_ok.1 hoverlap
    obtain ⟨k, hkl, hfirst, _, fs', gs', hfs', hgs', hreason⟩ := h.first_reason
    cases hfs'.symm.trans (fields_of_find hm hfs)
    cases hgs'.symm.trans (fields_of_find hn hgs)
    have hbelow := (hafter.above hkl).cons hfirst
    obtain ⟨hset, hexclusive⟩ := ih k apart exclusive hbelow hd
    obtain ⟨hset', hexclusive'⟩ := ih' k apart' exclusive' hbelow hd'
    have hanswer := Except.ok.inj hoverlap
    rw [Bool.and_eq_true, Bool.not_eq_true', Bool.or_eq_false_iff] at hanswer
    obtain ⟨⟨rfl, rfl⟩, hshared⟩ := hanswer
    rcases hreason with h | h | ⟨h, h'⟩
    · cases hset h
    · cases hset' h
    · rw [hexclusive rfl h, hexclusive' rfl h'] at hshared
      cases hshared
  case unknown =>
    intro seen r s hne hunknown _ n h _
    obtain ⟨k, _, _, _, fs, gs, hfs, hgs, hreason⟩ := h.first_reason
    cases hr : F.find? r with
    | none =>
        rw [fields, hr] at hfs
        cases hfs
        rcases hreason with ⟨f, hf, _⟩ | ⟨g, _, f, hf, _⟩ | ⟨⟨f, hf, _⟩, _⟩
        · cases hf
        · cases hf
        · cases hf
    | some m =>
        cases hs : F.find? s with
        | none =>
            rw [fields, hs] at hgs
            cases hgs
            rcases hreason with ⟨f, _, g, hg, _⟩ | ⟨g, hg, _⟩ | ⟨_, g, hg, _⟩
            · cases hg
            · cases hg
            · cases hg
        | some n' => exact (hunknown m n' hr hs).elim
  case primitives | listed | listing | codes =>
    intros
    next hnew _ h _ =>
    have hforeign := h.foreign_inv rfl rfl (by decide)
    rw [Shape.isForeign_untyped, Shape.isForeign, Bool.not_eq_true'] at hforeign
    rw [overlapFrom, if_neg hnew, hforeign]
    intro h
    cases h
  case other =>
    intro seen a b
    intros
    rw [overlapFrom, if_neg ‹(a.untyped, b.untyped) ∉ seen›]
    · intro h
      cases h
    all_goals assumption
  case noField =>
    intro seen gs n apart exclusive _ _
    constructor
    · rintro ⟨f, hf, _⟩
      cases hf
    · rintro _ ⟨f, hf, _⟩
      cases hf
  case missing =>
    intro seen gs f rest hfind ih n apart exclusive habove h
    rw [distinguish_missing hfind] at h
    obtain ⟨⟨apart', exclusive'⟩, hd, h⟩ := bind_eq_ok.1 h
    obtain ⟨hset, hexclusive⟩ := ih n apart' exclusive' habove hd
    cases h
    refine ⟨?_, ?_⟩
    · rintro ⟨f', hf', g, hg, hrest⟩
      rcases List.mem_cons.1 hf' with rfl | hf'
      · cases hfind.symm.trans hg
      · exact hset ⟨f', hf', g, hg, hrest⟩
    · rintro hapart ⟨f', hf', hneeded, hlacks⟩
      rw [Bool.or_eq_true]
      rcases List.mem_cons.1 hf' with rfl | hf'
      · exact .inr (by rw [hneeded]; rfl)
      · exact .inl (hexclusive hapart ⟨f', hf', hneeded, hlacks⟩)
  case optionals =>
    intro seen gs f rest g hfind hoptional ih n apart exclusive habove h
    rw [distinguish_optionals hfind hoptional] at h
    obtain ⟨hset, hexclusive⟩ := ih n apart exclusive habove h
    refine ⟨?_, ?_⟩
    · rintro ⟨f', hf', g', hg', hneeded, hrest⟩
      rcases List.mem_cons.1 hf' with rfl | hf'
      · cases hfind.symm.trans hg'
        cases hoptional.symm.trans hneeded
      · exact hset ⟨f', hf', g', hg', hneeded, hrest⟩
    · rintro hapart ⟨f', hf', hneeded, hlacks⟩
      rcases List.mem_cons.1 hf' with rfl | hf'
      · cases hfind.symm.trans hlacks
      · exact hexclusive hapart ⟨f', hf', hneeded, hlacks⟩
  case needed =>
    intro seen gs f rest g hfind hneeded ih ihrest n apart exclusive habove h
    rw [distinguish_needed hfind hneeded] at h
    obtain ⟨overlap, ho, h⟩ := bind_eq_ok.1 h
    cases overlap with
    | false =>
        cases h
        exact ⟨fun _ => rfl, fun h => by cases h⟩
    | true =>
        obtain ⟨hset, hexclusive⟩ := ihrest n apart exclusive habove h
        refine ⟨?_, ?_⟩
        · rintro ⟨f', hf', g', hg', hneeded', hrest⟩
          rcases List.mem_cons.1 hf' with rfl | hf'
          · cases hfind.symm.trans hg'
            exact (ih n hrest.untyped (habove.after _) ho).elim
          · exact hset ⟨f', hf', g', hg', hneeded', hrest⟩
        · rintro hapart ⟨f', hf', hneeded', hlacks⟩
          rcases List.mem_cons.1 hf' with rfl | hf'
          · cases hfind.symm.trans hlacks
          · exact hexclusive hapart ⟨f', hf', hneeded', hlacks⟩
  case noAlternative =>
    intro seen b n _
    rw [anyOverlap]
    intro h
    cases h
  case alternative =>
    intro seen b a rest ih ihrest n h hoverlap
    obtain ⟨⟨hhead, hafter⟩, hrest⟩ := List.forall_mem_cons.1 h
    rw [anyOverlap] at hoverlap
    obtain ⟨overlap, ho, hoverlap⟩ := bind_eq_ok.1 hoverlap
    cases overlap with
    | true => exact ih n hhead hafter ho
    | false => exact ihrest n hrest hoverlap

/-- An answer of the analysis is the one that the rules give: the pairs that were met change
nothing. -/
theorem mayOverlap_iff {overlap : Bool} (h : F.mayOverlap a b = .ok overlap) :
    overlap = false ↔ F.AreDisjoint a b := by
  constructor
  · rintro rfl
    exact areDisjoint_of_overlapFrom.1 [] a b h
  · rintro ⟨n, hn⟩
    cases overlap with
    | false => rfl
    | true =>
        have hmet : F.MetAbove [] n := fun _ _ hmem => nomatch hmem
        exact (ne_true_of_disjointBy.1 [] a b n hn.untyped (hmet.after _) h).elim

/-! ### Failures -/

/-- A search for a shared value fails only for a record that one of the shapes reaches and whose
fields have no shapes. -/
theorem undefined_of_overlapFrom (F : Family) (e : DefinitionError) :
    (∀ seen a b, F.overlapFrom seen a b = .error e →
        F.ReachesUndefined a e ∨ F.ReachesUndefined b e) ∧
      (∀ seen fs gs, F.distinguish seen fs gs = .error e →
        (∃ f ∈ fs, F.ReachesUndefined f.shape e) ∨ ∃ g ∈ gs, F.ReachesUndefined g.shape e) ∧
      ∀ seen alternatives b, F.anyOverlap seen alternatives b = .error e →
        (∃ s ∈ alternatives, F.ReachesUndefined s e) ∨ F.ReachesUndefined b e := by
  refine overlapFrom.mutual_induct F _ _ _ ?met ?anyLeft ?anyRight ?nullables ?nullRight
    ?nullableLeft ?nullLeft ?nullableRight ?unionRight ?unionLeft ?sequences ?sameRecord
    ?failedLeft ?failedRight ?records ?unknown ?primitives ?listed ?listing ?codes ?other
    ?noField ?missing ?optionals ?needed ?noAlternative ?alternative
  case nullableLeft =>
    intro seen inner b hany hnullable hnull hnew ih h
    rw [overlapFrom_nullable_left hnew ⟨hany, hnullable, hnull⟩] at h
    exact (ih h).imp_left (·.of_reaches (.part .refl List.mem_cons_self))
  case nullableRight =>
    intro seen a inner hany hnullable hnull hnew ih h
    rw [overlapFrom_nullable_right hnew ⟨hany, hnullable, hnull⟩] at h
    exact (ih h).symm.imp_right (·.of_reaches (.part .refl List.mem_cons_self))
  case unionRight =>
    intro seen a alternatives hany hnullable hnew ih h
    rw [overlapFrom_union_right hnew ⟨hany, hnullable⟩] at h
    exact (ih h).symm.imp_right fun ⟨s, hs, hundefined⟩ =>
      hundefined.of_reaches (.part .refl hs)
  case unionLeft =>
    intro seen alternatives b hany hnullable hunion hnew ih h
    rw [overlapFrom_union_left hnew ⟨hany, hnullable⟩ hunion] at h
    exact (ih h).imp_left fun ⟨s, hs, hundefined⟩ => hundefined.of_reaches (.part .refl hs)
  case failedLeft =>
    intro seen r s hne m n hm hn e' he hnew h
    rw [overlapFrom_records hne hnew hm hn, he] at h
    cases h
    exact .inl ⟨r, .refl, fields_error_of_find hm he⟩
  case failedRight =>
    intro seen r s hne m n hm hn e' he hfs hnew h
    rw [overlapFrom_records hne hnew hm hn, he] at h
    cases hfields : m.fields.mapM (·.field) with
    | error e'' => exact (hfs e'' hfields).elim
    | ok fs =>
        rw [hfields] at h
        cases h
        exact .inr ⟨s, .refl, fields_error_of_find hn he⟩
  case records =>
    intro seen r s hne m n hm hn fs gs hgs hfs hnew ih ih' h
    have hleft : (∃ f ∈ fs, F.ReachesUndefined f.shape e) → F.ReachesUndefined (.record r) e :=
      fun ⟨f, hf, hundefined⟩ => hundefined.of_reaches (.field .refl (fields_of_find hm hfs) hf)
    have hright : (∃ g ∈ gs, F.ReachesUndefined g.shape e) → F.ReachesUndefined (.record s) e :=
      fun ⟨g, hg, hundefined⟩ => hundefined.of_reaches (.field .refl (fields_of_find hn hgs) hg)
    rw [overlapFrom_records hne hnew hm hn, hfs, hgs] at h
    rcases bind_error_inv h with h | ⟨_, _, h⟩
    · exact (ih h).imp hleft hright
    · rcases bind_error_inv h with h | ⟨_, _, ⟨⟩⟩
      exact (ih' h).symm.imp hleft hright
  case missing =>
    intro seen gs f rest hfind ih h
    rw [distinguish_missing hfind] at h
    rcases bind_error_inv h with h | ⟨_, _, ⟨⟩⟩
    exact (ih h).imp_left fun ⟨g, hg, hundefined⟩ => ⟨g, List.mem_cons_of_mem f hg, hundefined⟩
  case optionals =>
    intro seen gs f rest g hfind hoptional ih h
    rw [distinguish_optionals hfind hoptional] at h
    exact (ih h).imp_left fun ⟨g, hg, hundefined⟩ => ⟨g, List.mem_cons_of_mem f hg, hundefined⟩
  case needed =>
    intro seen gs f rest g hfind hneeded ih ihrest h
    rw [distinguish_needed hfind hneeded] at h
    rcases bind_error_inv h with h | ⟨overlap, _, h⟩
    · exact (ih h).imp (fun hundefined => ⟨f, List.mem_cons_self, hundefined⟩)
        fun hundefined => ⟨g, (Field.find?_eq_some hfind).1, hundefined⟩
    · cases overlap with
      | false => cases h
      | true =>
          exact (ihrest h).imp_left fun ⟨g, hg, hundefined⟩ =>
            ⟨g, List.mem_cons_of_mem f hg, hundefined⟩
  case alternative =>
    intro seen b a rest ih ihrest h
    rw [anyOverlap] at h
    rcases bind_error_inv h with h | ⟨overlap, _, h⟩
    · exact (ih h).imp_left fun hundefined => ⟨a, List.mem_cons_self, hundefined⟩
    · cases overlap with
      | true => cases h
      | false =>
          exact (ihrest h).imp_left fun ⟨s, hs, hundefined⟩ =>
            ⟨s, List.mem_cons_of_mem a hs, hundefined⟩
  case met =>
    intro seen a b hmet h
    cases (overlapFrom_met hmet).symm.trans h
  -- The other rules answer at once.
  all_goals
    intros
    simp_all [overlapFrom, distinguish, anyOverlap]

theorem undefined_of_mayOverlap {e : DefinitionError} (h : F.mayOverlap a b = .error e) :
    F.ReachesUndefined a e ∨ F.ReachesUndefined b e :=
  (undefined_of_overlapFrom F e).1 [] a b h

/-- The analysis answers where the fields of all records that are reached have shapes. -/
theorem exists_mayOverlap (h : ∀ e, ¬ F.ReachesUndefined a e ∧ ¬ F.ReachesUndefined b e) :
    ∃ overlap, F.mayOverlap a b = .ok overlap := by
  cases hoverlap : F.mayOverlap a b with
  | ok overlap => exact ⟨overlap, rfl⟩
  | error e => exact ((undefined_of_mayOverlap hoverlap).elim (h e).1 (h e).2).elim

end Family

end EditorProtocol
