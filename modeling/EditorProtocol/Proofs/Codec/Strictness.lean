import Mathlib.Data.List.Permutation
import EditorProtocol.Catalog.Enumerations
import EditorProtocol.Proofs.Codec.Silence
import EditorProtocol.Proofs.Shape.Reachable

/-!
Values that match a shape, decoded without strictness. Strict decoding hands its strictness down,
so it refuses an alternative of a union in which a part matches several alternatives in turn; the
other kind only leaves a warning there and may use that alternative instead of the one that
matched. Nowhere else do the two part, so a shape without unions under the alternatives of its
unions decodes every value that matches it to what it matched as.
-/

namespace EditorProtocol

variable {F : Family} {exact : Bool} {w v : Value} {s t : Shape}

/-! ### Shapes without unions -/

theorem decodeItems_silent {element : Shape} {xs : List Value}
    (h : ∀ x ∈ xs, (decode F exact x element).warnings = []) (i : Nat) :
    (decodeItems F exact i xs element).warnings = [] := by
  induction xs generalizing i with
  | nil =>
      rw [decodeItems]
      rfl
  | cons x rest ih =>
      rw [decodeItems]
      refine Traced.silent_bind_iff.2 ⟨h x (.head _), fun v _ => ?_⟩
      refine Traced.silent_bind_iff.2 ⟨?_, fun _ _ => rfl⟩
      exact ih (fun y hy => h y (.tail x hy)) (i + 1)

theorem decodeFields_silent {ref : ModelRef} {fields : List Field}
    (h : ∀ f ∈ fields, ∀ item, w.at? f.wire = some item →
      (decode F exact item f.shape).warnings = []) :
    (decodeFields F exact w ref fields).warnings = [] := by
  induction fields with
  | nil =>
      rw [decodeFields]
      rfl
  | cons f rest ih =>
      have hrest := ih fun g hg => h g (.tail f hg)
      rw [decodeFields_cons]
      cases hat : w.at? f.wire with
      | none =>
          dsimp only
          split
          · exact hrest
          · rfl
      | some item =>
          dsimp only
          split
          · split
            · exact hrest
            · rfl
          · refine Traced.silent_bind_iff.2 ⟨h f (.head _) item hat, fun v _ => ?_⟩
            exact Traced.silent_bind_iff.2 ⟨hrest, fun _ _ => rfl⟩

/-- Where no union is reached, no warning is left behind. -/
theorem silent_of_no_union (w : Value) (s : Shape)
    (h : ∀ alternatives, ¬F.Reaches s (.union alternatives)) :
    (decode F exact w s).warnings = [] := by
  have hpart : ∀ t, F.Reaches s t → ∀ alternatives, ¬F.Reaches t (.union alternatives) :=
    fun t ht alternatives hunion => h alternatives (ht.trans hunion)
  cases s with
  | primitive p =>
      rw [decode]
      rfl
  | enumeration e =>
      rw [decode]
      rfl
  | any =>
      rw [decode]
      rfl
  | nullable inner =>
      rw [decode]
      split
      · rfl
      · exact silent_of_no_union w inner (hpart inner (.part .refl (.head _)))
  | sequence element =>
      have helement := hpart element (.part .refl (.head _))
      cases w with
      | list xs =>
          have hitem : ∀ x ∈ xs, (decode F exact x element).warnings = [] :=
            fun x hx => silent_of_no_union x element helement
          rw [decode]
          exact Traced.silent_bind_iff.2 ⟨decodeItems_silent hitem 0, fun _ _ => rfl⟩
      | _ =>
          rw [decode]
          · rfl
          · rintro xs ⟨⟩
  | union alternatives => exact absurd .refl (h alternatives)
  | record ref =>
      have hentry : ∀ fields, F.fields ref = .ok fields → ∀ f ∈ fields, ∀ item,
          w.at? f.wire = some item → (decode F exact item f.shape).warnings = [] :=
        fun fields hfields f hf item hat =>
          silent_of_no_union item f.shape (hpart f.shape (.field .refl hfields hf))
      rw [decode]
      split
      · rfl
      · split
        · rfl
        · next m hm =>
          split
          · rfl
          · next fields hfields =>
            refine Traced.silent_bind_iff.2 ⟨decodeFields_silent ?_, fun _ _ => rfl⟩
            exact hentry fields (Family.fields_of_find hm hfields)
termination_by (sizeOf w, sizeOf s)
decreasing_by
  all_goals subst_vars
  · exact Prod.Lex.left _ _ (Value.sizeOf_lt_of_at? hat)
  · exact Prod.Lex.left _ _ (Value.sizeOf_lt_of_mem hx)
  · exact Prod.Lex.right _ (by simp +arith)

/-! ### Ways that part -/

/-- Somewhere on the way to what a value matches, strict decoding refuses an alternative of a union
that the other kind does not refuse: an earlier one is decoded, or any fails with a fault. -/
inductive Sidesteps (F : Family) : Value → Shape → Prop
  | earlier {w u v : Value} {s t : Shape} {before after : List Shape}
      (matched : (decode F true w s).outcome = .ok v) (mem : t ∈ before)
      (strict : Refused (decode F true w t).outcome)
      (decoded : (decode F false w t).outcome = .ok u) :
      Sidesteps F w (.union (before ++ s :: after))
  | fault {w : Value} {t : Shape} {alternatives : List Shape} {f : Fault} (mem : t ∈ alternatives)
      (strict : Refused (decode F true w t).outcome) (isFault : ∀ m, f ≠ .mismatch m)
      (failed : (decode F false w t).outcome = .error f) : Sidesteps F w (.union alternatives)
  | alternative {w v : Value} {s : Shape} {alternatives : List Shape} (mem : s ∈ alternatives)
      (matched : (decode F true w s).outcome = .ok v) (inside : Sidesteps F w s) :
      Sidesteps F w (.union alternatives)
  | nullable {w : Value} {inner : Shape} (inside : Sidesteps F w inner) :
      Sidesteps F w (.nullable inner)
  | item {xs : List Value} {x : Value} {element : Shape} (mem : x ∈ xs)
      (inside : Sidesteps F x element) : Sidesteps F (.list xs) (.sequence element)
  | field {w item : Value} {ref : ModelRef} {fields : List Field} {f : Field}
      (fields_eq : F.fields ref = .ok fields) (mem : f ∈ fields)
      (entry : w.at? f.wire = some item) (inside : Sidesteps F item f.shape) :
      Sidesteps F w (.record ref)

/-- A union under an alternative of a union. -/
def Family.Nests (F : Family) (s : Shape) : Prop :=
  ∃ alternatives t inner, F.Reaches s (.union alternatives) ∧ t ∈ alternatives ∧
    F.Reaches t (.union inner)

theorem Family.Nests.of_reaches (h : F.Nests t) (k : F.Reaches s t) : F.Nests s := by
  obtain ⟨alternatives, u, inner, hunion, hu, hinner⟩ := h
  exact ⟨alternatives, u, inner, k.trans hunion, hu, hinner⟩

/-- An alternative that is refused strictly only has a union under it. -/
theorem Family.nests_of_refused {alternatives : List Shape} (mem : t ∈ alternatives)
    (strict : Refused (decode F true w t).outcome)
    (other : ¬Refused (decode F false w t).outcome) : F.Nests (.union alternatives) := by
  by_contra hnests
  have hsilent : (decode F false w t).warnings = [] :=
    silent_of_no_union w t fun inner hinner => hnests ⟨alternatives, t, inner, .refl, mem, hinner⟩
  rw [decode_steady F w t hsilent] at strict
  exact other strict

theorem Sidesteps.nests (h : Sidesteps F w s) : F.Nests s := by
  induction h with
  | earlier matched mem strict decoded =>
      refine Family.nests_of_refused (List.mem_append_left _ mem) strict fun hrefused => ?_
      exact hrefused.ne_ok _ decoded
  | fault mem strict isFault failed =>
      refine Family.nests_of_refused mem strict ?_
      rintro ⟨m, hm⟩
      exact isFault m (Except.error.inj (failed.symm.trans hm))
  | alternative mem _ _ ih => exact ih.of_reaches (.part .refl mem)
  | nullable _ ih => exact ih.of_reaches (.part .refl (.head _))
  | item _ _ ih => exact ih.of_reaches (.part .refl (.head _))
  | field fields_eq mem _ _ ih => exact ih.of_reaches (.field .refl fields_eq mem)

/-! ### Values that match -/

/-- What a value matches as, it is decoded to, unless the ways part. -/
def Pinned (F : Family) (w : Value) (s : Shape) : Prop :=
  ∀ v, (decode F true w s).outcome = .ok v →
    (decode F false w s).outcome = .ok v ∨ Sidesteps F w s

/-- Exactly one alternative of a union matches a value that matches the union. -/
theorem decode_union_strict {alternatives : List Shape}
    (h : (decode F true w (.union alternatives)).outcome = .ok v) :
    ∃ before s after, alternatives = before ++ s :: after ∧
      (decode F true w s).outcome = .ok v ∧
        ∀ t ∈ before ++ after, Refused (decode F true w t).outcome := by
  rcases decode_union_cases F true w alternatives with hdecided | ⟨_, _, f, _, _, hunion⟩
  · obtain ⟨tries, htries, hsplit⟩ := tryAlternatives_ok hdecided
    obtain ⟨s, hmatches⟩ : ∃ s, matchesOf F true w alternatives = [(s, v)] := by
      rw [decode, Traced.outcome_bind, htries, ok_bind] at h
      rw [← hsplit]
      unfold chooseAlternative at h
      split at h
      · cases h
      · next s u failed hsplits =>
        cases h
        exact ⟨s, congrArg Prod.fst hsplits⟩
      · cases h
    obtain ⟨before, t, after, hshapes, hbefore, ht, hafter⟩ :=
      List.filterMap_eq_cons_iff.1 hmatches
    obtain ⟨u, hu, heq⟩ := Option.map_eq_some_iff.1 ht
    cases heq
    -- The others match nothing, and none of them fails otherwise.
    have hrefused : ∀ r ∈ alternatives,
        (decode F true w r).outcome.toOption.map (r, ·) = none →
          Refused (decode F true w r).outcome := by
      intro r hr hnone
      refine (hdecided r hr).resolve_left ?_
      rintro ⟨x, hx⟩
      rw [hx] at hnone
      cases hnone
    subst hshapes
    refine ⟨before, s, after, rfl, ?_, fun r hr => ?_⟩
    · cases hdecode : (decode F true w s).outcome with
      | ok x =>
          rw [hdecode] at hu
          cases hu
          rfl
      | error f =>
          rw [hdecode] at hu
          cases hu
    · rcases List.mem_append.1 hr with hr | hr
      · exact hrefused r (List.mem_append_left _ hr) (hbefore r hr)
      · exact hrefused r (List.mem_append_right _ (.tail s hr))
          (List.filterMap_eq_nil_iff.1 hafter r hr)
  · cases hunion.symm.trans h

/-- What the one matching alternative of a union pins, the union does. -/
theorem pinned_union {alternatives : List Shape} (h : ∀ s ∈ alternatives, Pinned F w s) :
    Pinned F w (.union alternatives) := by
  intro v hv
  obtain ⟨before, s, after, rfl, hs, hothers⟩ := decode_union_strict hv
  have hmem : s ∈ before ++ s :: after := List.mem_append_right _ (.head _)
  by_cases hfault : ∃ t ∈ before ++ after, ∃ f, (∀ m, f ≠ .mismatch m) ∧
      (decode F false w t).outcome = .error f
  · obtain ⟨t, ht, f, hf, hfailed⟩ := hfault
    refine .inr (.fault ?_ (hothers t ht) hf hfailed)
    exact (List.mem_append.1 ht).elim (List.mem_append_left _)
      fun ht => List.mem_append_right _ (.tail s ht)
  have hdecided : ∀ t ∈ before ++ after, Decided (decode F false w t).outcome := by
    intro t ht
    cases hdecode : (decode F false w t).outcome with
    | ok u => exact decided_ok u
    | error f =>
        cases f with
        | mismatch m => exact .inr ⟨m, rfl⟩
        | _ => exact absurd ⟨t, ht, _, fun m hm => (by cases hm), hdecode⟩ hfault
  by_cases hearlier : ∃ t ∈ before, ∃ u, (decode F false w t).outcome = .ok u
  · obtain ⟨t, ht, u, hu⟩ := hearlier
    exact .inr (.earlier hs ht (hothers t (List.mem_append_left _ ht)) hu)
  rcases h s hmem v hs with hpinned | hinside
  · refine .inl (decode_union_first ?_ hpinned ?_)
    · intro t ht
      exact (hdecided t (List.mem_append_left _ ht)).resolve_left
        fun hok => hearlier ⟨t, ht, hok⟩
    · exact fun t ht => hdecided t (List.mem_append_right _ ht)
  · exact .inr (.alternative hmem hs hinside)

theorem pinned_items {element : Shape} {xs vs : List Value}
    (h : ∀ x ∈ xs, Pinned F x element)
    (hstrict : List.Forall₂ (fun x v => (decode F true x element).outcome = .ok v) xs vs) :
    List.Forall₂ (fun x v => (decode F false x element).outcome = .ok v) xs vs ∨
      ∃ x ∈ xs, Sidesteps F x element := by
  induction hstrict with
  | nil => exact .inl .nil
  | @cons x v rest us hx _ ih =>
      rcases h x (.head _) v hx with hpinned | hinside
      · rcases ih fun y hy => h y (.tail x hy) with hrest | ⟨y, hy, hinside⟩
        · exact .inl (.cons hpinned hrest)
        · exact .inr ⟨y, .tail x hy, hinside⟩
      · exact .inr ⟨x, .head _, hinside⟩

theorem pinned_sequence {element : Shape} {xs : List Value}
    (h : ∀ x ∈ xs, Pinned F x element) : Pinned F (.list xs) (.sequence element) := by
  intro v hv
  obtain ⟨_, vs, heq, rfl, hitems⟩ := decode_sequence_inv hv
  cases heq
  refine (pinned_items h hitems).imp (fun hvs => ?_) fun ⟨x, hx, hinside⟩ => .item hx hinside
  rw [decode, Traced.outcome_bind, decodeItems_ok_iff.2 hvs]
  rfl

/-- The fields of an object are decoded to what they match as, if the values in them are. -/
theorem decodeFields_pinned {ref : ModelRef} {fields : List Field}
    {values : List (String × Value)}
    (hitem : ∀ f ∈ fields, ∀ item, w.at? f.wire = some item → ∀ v,
      (decode F true item f.shape).outcome = .ok v → (decode F false item f.shape).outcome = .ok v)
    (h : (decodeFields F true w ref fields).outcome = .ok values) :
    (decodeFields F false w ref fields).outcome = .ok values := by
  rw [decodeFields_ok_iff] at h ⊢
  obtain ⟨hdecoded, rfl⟩ := h
  -- A field has the same value in both ways: it is absent in both, or its item decides.
  have hfield : ∀ f ∈ fields, f.IsDecoded F false w ∧ f.value? F true w = f.value? F false w := by
    intro f hf
    have hmatched := hdecoded f hf
    unfold Field.IsDecoded at hmatched ⊢
    unfold Field.value?
    cases hat : f.item? w with
    | none =>
        rw [hat] at hmatched
        exact ⟨hmatched, rfl⟩
    | some item =>
        rw [hat] at hmatched
        obtain ⟨hnull, v, hv⟩ := hmatched
        have hkept := hitem f hf item (Field.item?_some_iff.1 hat).1 v hv
        refine ⟨⟨hnull, v, hkept⟩, ?_⟩
        rw [Option.bind_some, Option.bind_some, hv, hkept]
  refine ⟨fun f hf => (hfield f hf).1, List.filterMap_congr fun f hf => ?_⟩
  rw [(hfield f hf).2]

theorem pinned_record {ref : ModelRef}
    (h : ∀ key item, w.at? key = some item → ∀ t, Pinned F item t) :
    Pinned F w (.record ref) := by
  intro v hv
  have hobject := isObject_of_decode hv
  cases hfind : F.find? ref with
  | none =>
      rw [decode, hobject, hfind] at hv
      refine .inl ?_
      rw [decode, hobject, hfind]
      exact hv
  | some m =>
      cases hfields : m.fields.mapM (·.field) with
      | error e =>
          rw [decode, hobject, hfind] at hv
          simp only [hfields] at hv
          cases hv
      | ok fields =>
          rw [decode_record_fields hfind hfields hobject] at hv ⊢
          obtain ⟨values, hvalues, hassemble⟩ := bind_eq_ok.1 hv
          by_cases hinside : ∃ f ∈ fields, ∃ item, w.at? f.wire = some item ∧
              Sidesteps F item f.shape
          · obtain ⟨f, hf, item, hat, hinside⟩ := hinside
            exact .inr (.field (Family.fields_of_find hfind hfields) hf hat hinside)
          · refine .inl ?_
            rw [decodeFields_pinned (fun f hf item hat u hu => ?_) hvalues]
            · exact hassemble
            · exact (h f.wire item hat f.shape u hu).resolve_right
                fun hside => hinside ⟨f, hf, item, hat, hside⟩

theorem decode_pinned (F : Family) (w : Value) (s : Shape) : Pinned F w s := by
  -- The wire value gets smaller at items and entries; at null and in unions only the shape does.
  cases s with
  | primitive p => exact fun v hv => .inl (by rw [decode] at hv ⊢; exact hv)
  | enumeration e => exact fun v hv => .inl (by rw [decode] at hv ⊢; exact hv)
  | any => exact fun v hv => .inl (by rw [decode] at hv ⊢; exact hv)
  | nullable inner =>
      have hinner := decode_pinned F w inner
      intro v hv
      rw [decode] at hv ⊢
      split
      · next hnull =>
        rw [if_pos hnull] at hv
        exact .inl hv
      · next hnull =>
        rw [if_neg hnull] at hv
        exact (hinner v hv).imp_right .nullable
  | sequence element =>
      cases w with
      | list xs => exact pinned_sequence fun x hx => decode_pinned F x element
      | _ =>
          intro v hv
          obtain ⟨xs, _, heq, _⟩ := decode_sequence_inv hv
          cases heq
  | union alternatives => exact pinned_union fun s hs => decode_pinned F w s
  | record ref => exact pinned_record fun key item hat t => decode_pinned F item t
termination_by (sizeOf w, sizeOf s)
decreasing_by
  · exact Prod.Lex.left _ _ (Value.sizeOf_lt_of_at? hat)
  · exact Prod.Lex.right _ (Shape.sizeOf_lt_of_mem hs)
  · exact Prod.Lex.left _ _ (Value.sizeOf_lt_of_mem hx)
  · exact Prod.Lex.right _ (by simp +arith)

/-- What strict decoding makes of a value, the other kind makes of it, too, unless strict decoding
passed over an alternative of a union that the other kind does not refuse. A warning tells of that,
and it needs a union under an alternative of a union. -/
theorem matched_value_kept (F : Family) {w v : Value} {s : Shape}
    (h : (decode F true w s).outcome = .ok v) :
    isMatch F w s = .ok true ∧
      ((decode F false w s).outcome = .ok v ∨
        (Sidesteps F w s ∧ (decode F false w s).warnings ≠ [] ∧ F.Nests s)) := by
  refine ⟨isMatch_true_iff.2 ⟨v, h⟩, ?_⟩
  by_cases hkept : (decode F false w s).outcome = .ok v
  · exact .inl hkept
  · have hside := (decode_pinned F w s v h).resolve_left hkept
    refine .inr ⟨hside, fun hsilent => ?_, hside.nests⟩
    rw [decode_steady F w s hsilent] at h
    exact hkept h

/-- An array of severities or integers, or one of integers. -/
def severities : Shape :=
  .union [.sequence (.union [.enumeration ⟨"DiagnosticSeverity", .integers [1, 2, 3, 4],
    ["1", "2", "3", "4"], Catalog.diagnosticSeverity.members⟩, .ofKind .integer]),
    .sequence (.ofKind .integer)]

/-- Strict decoding passes over the array of severities or integers, as an integer may be both. -/
theorem matched_value_kept_severities :
    (decode ⟨[]⟩ true (.list [.int 1]) severities).outcome = .ok (.list [.int 1]) ∧
      isMatch ⟨[]⟩ (.list [.int 1]) severities = .ok true ∧
      Sidesteps ⟨[]⟩ (.list [.int 1]) severities ∧
      (decode ⟨[]⟩ false (.list [.int 1]) severities).warnings ≠ [] ∧
      Family.Nests ⟨[]⟩ severities := by
  have hstrict : (decode ⟨[]⟩ true (.list [.int 1]) severities).outcome =
      .ok (.list [.int 1]) := by cbv
  have hother : (decode ⟨[]⟩ false (.list [.int 1]) severities).outcome =
      .ok (.list [.member ⟨"DiagnosticSeverity", .integer, "ERROR", .int 1⟩]) := by cbv
  obtain ⟨hmatch, hkept⟩ := matched_value_kept ⟨[]⟩ hstrict
  refine ⟨hstrict, hmatch, hkept.resolve_left fun h => ?_⟩
  rw [hother] at h
  cases h

/-- An array of integers matches only as such, and is decoded as one of severities. -/
theorem matched_value_replaced :
    (TypeExpr.union [.sequence (.union [Catalog.diagnosticSeverity.type, .integer] false),
      .sequence .integer] false).shape = .ok severities ∧
    isMatch ⟨[]⟩ (.list [.int 1]) severities = .ok true ∧
    (decode ⟨[]⟩ true (.list [.int 1]) severities).outcome = .ok (.list [.int 1]) ∧
    (decode ⟨[]⟩ false (.list [.int 1]) severities).outcome =
      .ok (.list [.member ⟨"DiagnosticSeverity", .integer, "ERROR", .int 1⟩]) := by
  refine ⟨?shape, ?isMatch, ?strict, ?other⟩
  case shape => cbv
  case isMatch => cbv
  case strict => cbv
  case other => cbv

end EditorProtocol
