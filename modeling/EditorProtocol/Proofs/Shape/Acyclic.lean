import EditorProtocol.Proofs.Shape.Finite

/-!
The check for finite values decides. Finite values are built in ranks: a record has a value of one
rank more than all the values that its required fields need. A record whose values begin at some
rank is not needed again below this rank, so passing over the records that are being visited rejects
nothing that has a finite value. Where the check fails for another reason, some record that is
reached has fields of no shape.
-/

namespace EditorProtocol

namespace Family

variable {F : Family} {s t : Shape}

/-! ### Ranks -/

/-- The shapes that have a finite value with at most a number of records inside one another. -/
inductive HasRank (F : Family) : Nat → Shape → Prop
  | primitive (n : Nat) (p : Primitive) : HasRank F n (.primitive p)
  | enumeration (n : Nat) (e : EnumShape) : HasRank F n (.enumeration e)
  | any (n : Nat) : HasRank F n .any
  | sequence (n : Nat) (element : Shape) : HasRank F n (.sequence element)
  | nullable (n : Nat) (inner : Shape) : HasRank F n (.nullable inner)
  | union {n : Nat} {alternatives : List Shape} {s : Shape} (mem : s ∈ alternatives)
      (h : HasRank F n s) : HasRank F n (.union alternatives)
  | record {n : Nat} {ref : ModelRef} {fields : List Field} (fields_eq : F.fields ref = .ok fields)
      (required : ∀ f ∈ fields, f.optional = false → HasRank F n f.shape) :
      HasRank F (n + 1) (.record ref)

namespace HasRank

variable {n k : Nat}

theorem mono (h : F.HasRank n s) (hnk : n ≤ k) : F.HasRank k s := by
  induction h generalizing k with
  | primitive _ p => exact .primitive k p
  | enumeration _ e => exact .enumeration k e
  | any => exact .any k
  | sequence _ element => exact .sequence k element
  | nullable _ inner => exact .nullable k inner
  | union mem _ ih => exact .union mem (ih hnk)
  | record fields_eq _ ih =>
      obtain ⟨k, rfl⟩ := Nat.exists_eq_add_of_le' (Nat.lt_of_lt_of_le (Nat.succ_pos _) hnk)
      exact .record fields_eq fun f hf hrequired =>
        ih f hf hrequired (Nat.le_of_succ_le_succ hnk)

theorem union_inv {alternatives : List Shape} (h : F.HasRank n (.union alternatives)) :
    ∃ s ∈ alternatives, F.HasRank n s := by
  cases h with
  | union mem h => exact ⟨_, mem, h⟩

/-- A record has a value of some rank that comes after the ranks of its required fields, and no
value of an earlier rank. -/
theorem record_inv {ref : ModelRef} (h : F.HasRank n (.record ref)) :
    ∃ k < n, ∃ fields, F.fields ref = .ok fields ∧ ¬ F.HasRank k (.record ref) ∧
      ∀ f ∈ fields, f.optional = false → F.HasRank k f.shape := by
  -- The first rank at which the record has a value is that of a record, one more than some rank.
  induction n with
  | zero => cases h
  | succ n ih =>
      by_cases hn : F.HasRank n (.record ref)
      · obtain ⟨k, hk, rest⟩ := ih hn
        exact ⟨k, Nat.lt_succ_of_lt hk, rest⟩
      · cases h with
        | record fields_eq required =>
            exact ⟨n, Nat.lt_succ_self n, _, fields_eq, hn, required⟩

end HasRank

/-- What holds of each member of a list from some rank on holds of all of them from some rank on. -/
theorem exists_common_rank {α : Type} {P : Nat → α → Prop} {xs : List α}
    (mono : ∀ n k x, P n x → n ≤ k → P k x) (h : ∀ x ∈ xs, ∃ n, P n x) :
    ∃ n, ∀ x ∈ xs, P n x := by
  induction xs with
  | nil => exact ⟨0, List.forall_mem_nil _⟩
  | cons x rest ih =>
      obtain ⟨⟨k, hk⟩, hrest⟩ := List.forall_mem_cons.1 h
      obtain ⟨n, hn⟩ := ih hrest
      refine ⟨max n k, List.forall_mem_cons.2 ⟨mono k _ x hk (Nat.le_max_right n k), ?_⟩⟩
      exact fun y hy => mono n _ y (hn y hy) (Nat.le_max_left n k)

/-- A finite value has a rank. -/
theorem HasFinite.exists_rank (h : F.HasFinite s) : ∃ n, F.HasRank n s := by
  induction h with
  | primitive p => exact ⟨0, .primitive 0 p⟩
  | enumeration e => exact ⟨0, .enumeration 0 e⟩
  | any => exact ⟨0, .any 0⟩
  | sequence element => exact ⟨0, .sequence 0 element⟩
  | nullable inner => exact ⟨0, .nullable 0 inner⟩
  | union mem _ ih =>
      obtain ⟨n, hn⟩ := ih
      exact ⟨n, .union mem hn⟩
  | @record _ fields fields_eq _ ih =>
      have hfield : ∀ f ∈ fields, ∃ n, f.optional = false → F.HasRank n f.shape := by
        intro f hf
        by_cases hrequired : f.optional = false
        · obtain ⟨n, hn⟩ := ih f hf hrequired
          exact ⟨n, fun _ => hn⟩
        · exact ⟨0, fun h => absurd h hrequired⟩
      obtain ⟨n, hn⟩ := exists_common_rank (fun _ _ _ h hnk hf => (h hf).mono hnk) hfield
      exact ⟨n + 1, .record fields_eq hn⟩

/-! ### Nothing finite is rejected -/

/-- None of the records being visited has a value of a rank. -/
def Above (F : Family) (visiting : List ModelRef) (n : Nat) : Prop :=
  ∀ ref ∈ visiting, ¬ F.HasRank n (.record ref)

theorem Above.cons {visiting : List ModelRef} {n k : Nat} {ref : ModelRef}
    (h : F.Above visiting n) (hkn : k ≤ n) (href : ¬ F.HasRank k (.record ref)) :
    F.Above (ref :: visiting) k :=
  List.forall_mem_cons.2 ⟨href, fun r hr hrank => h r hr (hrank.mono hkn)⟩

/-- A search among records that have no value of some rank does not reject what has one. -/
theorem ne_false_of_rank (F : Family) :
    (∀ visiting s, ∀ n, F.HasRank n s → F.Above visiting n → F.isFinite visiting s ≠ .ok false) ∧
      (∀ visiting fs, ∀ n, (∀ f ∈ fs, f.optional = false → F.HasRank n f.shape) →
        F.Above visiting n → F.allFinite visiting fs ≠ .ok false) ∧
      ∀ visiting ss, ∀ n, (∃ s ∈ ss, F.HasRank n s) → F.Above visiting n →
        F.anyFinite visiting ss ≠ .ok false := by
  refine isFinite.mutual_induct F _ _ _ ?union ?visited ?unknown ?undefined ?record ?other
    ?noField ?optional ?required ?noAlternative ?alternative
  case union =>
    intro visiting alternatives ih n hrank habove
    rw [isFinite]
    exact ih n hrank.union_inv habove
  case visited =>
    intro visiting ref hvisited n hrank habove
    exact (habove ref hvisited hrank).elim
  case unknown =>
    intro visiting ref hnew hnone n _ _
    rw [isFinite_unknown hnew hnone]
    intro h
    cases h
  case undefined =>
    intro visiting ref hnew m hm e he n _ _
    rw [isFinite_record hnew hm, he]
    intro h
    cases h
  case record =>
    intro visiting ref hnew m hm fields hfields ih n hrank habove
    rw [isFinite_record hnew hm, hfields]
    obtain ⟨k, hkn, fields', hfields', href, hrequired⟩ := hrank.record_inv
    cases hfields'.symm.trans (fields_of_find hm hfields)
    exact ih k hrequired (habove.cons (Nat.le_of_lt hkn) href)
  case other =>
    intro visiting s hunion hrecord n _ _
    rw [isFinite]
    · intro h
      cases h
    · exact hunion
    · exact hrecord
  case noField =>
    intro visiting n _ _
    rw [allFinite]
    intro h
    cases h
  case optional =>
    intro visiting f rest hoptional ih n hrank habove
    rw [allFinite, if_pos hoptional]
    exact ih n (List.forall_mem_cons.1 hrank).2 habove
  case required =>
    intro visiting f rest hrequired ihshape ihrest n hrank habove h
    rw [allFinite, if_neg hrequired] at h
    obtain ⟨hhead, hrest⟩ := List.forall_mem_cons.1 hrank
    obtain ⟨finite, hfinite, h⟩ := bind_eq_ok.1 h
    cases finite with
    | true => exact ihrest n hrest habove h
    | false => exact ihshape n (hhead (Bool.eq_false_iff.2 hrequired)) habove hfinite
  case noAlternative =>
    rintro visiting n ⟨s, hs, _⟩
    exact (List.not_mem_nil hs).elim
  case alternative =>
    rintro visiting s rest ihshape ihrest n ⟨t, ht, hrank⟩ habove h
    rw [anyFinite] at h
    obtain ⟨finite, hfinite, h⟩ := bind_eq_ok.1 h
    cases finite with
    | true => cases h
    | false =>
        rcases List.mem_cons.1 ht with rfl | ht
        · exact ihshape n hrank habove hfinite
        · exact ihrest n ⟨t, ht, hrank⟩ habove h

/-- An answer of the search is the right one: the records that were passed over as being visited
change nothing. -/
theorem isFinite_iff {finite : Bool} (h : F.isFinite [] s = .ok finite) :
    finite = true ↔ F.HasFinite s := by
  constructor
  · rintro rfl
    exact (hasFinite_all F).1 [] s h
  · intro hs
    obtain ⟨n, hn⟩ := hs.exists_rank
    cases finite with
    | true => rfl
    | false => exact ((ne_false_of_rank F).1 [] s n hn (List.forall_mem_nil _) h).elim

/-! ### Fields without a shape -/

/-- A search fails only for a record that is reached and whose fields have no shapes. -/
theorem undefined_of_isFinite (F : Family) (e : DefinitionError) :
    (∀ visiting s, F.isFinite visiting s = .error e → F.ReachesUndefined s e) ∧
      (∀ visiting fs, F.allFinite visiting fs = .error e →
        ∃ f ∈ fs, F.ReachesUndefined f.shape e) ∧
      ∀ visiting ss, F.anyFinite visiting ss = .error e → ∃ s ∈ ss, F.ReachesUndefined s e := by
  refine isFinite.mutual_induct F _ _ _ ?union ?visited ?unknown ?undefined ?record ?other
    ?noField ?optional ?required ?noAlternative ?alternative
  case union =>
    intro visiting alternatives ih h
    rw [isFinite] at h
    obtain ⟨s, hs, hundefined⟩ := ih h
    exact hundefined.of_reaches (.part .refl hs)
  case visited =>
    intro visiting ref hvisited h
    rw [isFinite, dif_pos hvisited] at h
    cases h
  case unknown =>
    intro visiting ref hnew hnone h
    rw [isFinite_unknown hnew hnone] at h
    cases h
  case undefined =>
    intro visiting ref hnew m hm e' he h
    rw [isFinite_record hnew hm, he] at h
    cases h
    exact ⟨ref, .refl, fields_error_of_find hm he⟩
  case record =>
    intro visiting ref hnew m hm fields hfields ih h
    rw [isFinite_record hnew hm, hfields] at h
    obtain ⟨f, hf, hundefined⟩ := ih h
    exact hundefined.of_reaches (.field .refl (fields_of_find hm hfields) hf)
  case other =>
    intro visiting s hunion hrecord h
    rw [isFinite] at h
    · cases h
    · exact hunion
    · exact hrecord
  case noField =>
    intro visiting h
    rw [allFinite] at h
    cases h
  case optional =>
    intro visiting f rest hoptional ih h
    rw [allFinite, if_pos hoptional] at h
    obtain ⟨g, hg, hundefined⟩ := ih h
    exact ⟨g, List.mem_cons_of_mem f hg, hundefined⟩
  case required =>
    intro visiting f rest hrequired ihshape ihrest h
    rw [allFinite, if_neg hrequired] at h
    rcases bind_error_inv h with h | ⟨finite, _, h⟩
    · exact ⟨f, List.mem_cons_self, ihshape h⟩
    · cases finite with
      | false => cases h
      | true =>
          obtain ⟨g, hg, hundefined⟩ := ihrest h
          exact ⟨g, List.mem_cons_of_mem f hg, hundefined⟩
  case noAlternative =>
    intro visiting h
    rw [anyFinite] at h
    cases h
  case alternative =>
    intro visiting s rest ihshape ihrest h
    rw [anyFinite] at h
    rcases bind_error_inv h with h | ⟨finite, _, h⟩
    · exact ⟨s, List.mem_cons_self, ihshape h⟩
    · cases finite with
      | true => cases h
      | false =>
          obtain ⟨t, ht, hundefined⟩ := ihrest h
          exact ⟨t, List.mem_cons_of_mem s ht, hundefined⟩

/-- A record whose fields have no shapes has no finite value. -/
theorem not_hasFinite_of_undefined {ref : ModelRef} {e : DefinitionError}
    (h : F.fields ref = .error e) : ¬ F.HasFinite (.record ref) := by
  intro hfinite
  cases hfinite with
  | record fields_eq => cases fields_eq.symm.trans h

/-! ### What the check decides -/

/-- A refusal names the first record without a finite value, or comes from a search that failed. -/
theorem checkRecords_error {shapes : List Shape} {e : DefinitionError}
    (h : F.checkRecords shapes = .error e) : ∃ ref, Shape.record ref ∈ shapes ∧
      (F.isFinite [] (.record ref) = .ok false ∧ e = .infinite ref.name ∨
        F.isFinite [] (.record ref) = .error e) := by
  induction shapes with
  | nil => cases h
  | cons s rest ih =>
      cases s with
      | record ref =>
          rw [checkRecords] at h
          rcases bind_error_inv h with h | ⟨finite, hfinite, h⟩
          · exact ⟨ref, List.mem_cons_self, .inr h⟩
          · cases finite with
            | true =>
                obtain ⟨r, hr, hcause⟩ := ih h
                exact ⟨r, List.mem_cons_of_mem _ hr, hcause⟩
            | false =>
                cases h
                exact ⟨ref, List.mem_cons_self, .inl ⟨hfinite, rfl⟩⟩
      | _ =>
          obtain ⟨r, hr, hcause⟩ := ih h
          exact ⟨r, List.mem_cons_of_mem _ hr, hcause⟩

/-- The check refuses a shape for a record that is reached: one that has no finite value, by its
name, or one whose fields have no shapes. -/
theorem checkAcyclic_error {e : DefinitionError} (h : F.checkAcyclic s = .error e) :
    (∃ ref, F.Reaches s (.record ref) ∧ ¬ F.HasFinite (.record ref) ∧ e = .infinite ref.name) ∨
      F.ReachesUndefined s e := by
  unfold checkAcyclic at h
  rcases bind_error_inv h with h | ⟨_, _, h⟩
  · obtain ⟨ref, hmem, ⟨hfinite, rfl⟩ | herror⟩ := checkRecords_error h
    · refine .inl ⟨ref, reaches_of_walk hmem, fun hrecord => ?_, rfl⟩
      cases (isFinite_iff hfinite).2 hrecord
    · exact .inr (((undefined_of_isFinite F e).1 [] _ herror).of_reaches (reaches_of_walk hmem))
  · cases hfailure : (F.walk s).failure with
    | none =>
        rw [hfailure] at h
        cases h
    | some e' =>
        rw [hfailure] at h
        cases h
        exact .inr (undefined_of_walk hfailure)

/-- The check decides whether all records that are reached have finite values: it refuses a shape if
and only if one of them has none. The search that it makes answers for every shape whether it has a
finite value. Both fail otherwise only for a record whose fields have no shapes. -/
theorem acyclic_iff_finite (F : Family) (s : Shape) :
    ((∃ e, F.checkAcyclic s = .error e) ↔
        ∃ ref, F.Reaches s (.record ref) ∧ ¬ F.HasFinite (.record ref)) ∧
      (∀ e, F.checkAcyclic s = .error e →
        (∃ ref, F.Reaches s (.record ref) ∧ ¬ F.HasFinite (.record ref) ∧
            e = .infinite ref.name) ∨
          F.ReachesUndefined s e) ∧
      ((∃ finite, F.isFinite [] s = .ok finite ∧ (finite = true ↔ F.HasFinite s)) ∨
        ∃ e, F.isFinite [] s = .error e ∧ F.ReachesUndefined s e) := by
  refine ⟨⟨?_, ?_⟩, fun e => checkAcyclic_error, ?_⟩
  · rintro ⟨e, he⟩
    rcases checkAcyclic_error he with ⟨ref, hreaches, hinfinite, _⟩ | ⟨ref, hreaches, hundefined⟩
    · exact ⟨ref, hreaches, hinfinite⟩
    · exact ⟨ref, hreaches, not_hasFinite_of_undefined hundefined⟩
  · rintro ⟨ref, hreaches, hinfinite⟩
    cases hcheck : F.checkAcyclic s with
    | error e => exact ⟨e, rfl⟩
    | ok _ => exact (hinfinite (hasFinite_of_checkAcyclic hcheck hreaches)).elim
  · cases hfinite : F.isFinite [] s with
    | ok finite => exact .inl ⟨finite, rfl, isFinite_iff hfinite⟩
    | error e => exact .inr ⟨e, rfl, (undefined_of_isFinite F e).1 [] s hfinite⟩

/-- A model whose records need one more of their own. -/
def endless : Model := .named "Node" [.required "next" (.model (ModelRef.named "Node"))]

theorem endless_infinite : ¬ (Family.mk [endless]).HasFinite (.record endless.ref) := by
  intro h
  have hfields : (Family.mk [endless]).fields endless.ref =
      .ok [⟨"next", "next", .record endless.ref, false⟩] := rfl
  generalize hs : Shape.record endless.ref = s at h
  induction h with
  | record fields_eq _ ih =>
      cases hs
      cases hfields.symm.trans fields_eq
      exact ih _ List.mem_cons_self rfl rfl
  | _ => cases hs

/-- The model is refused. -/
theorem acyclic_iff_finite_endless :
    ∃ e, (Family.mk [endless]).checkAcyclic (.record endless.ref) = .error e :=
  (acyclic_iff_finite _ _).1.2 ⟨endless.ref, .refl, endless_infinite⟩

end Family

end EditorProtocol
