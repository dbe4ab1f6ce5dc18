import EditorProtocol.Proofs.Codec.Decoding
import EditorProtocol.Proofs.Codec.Faults
import EditorProtocol.Proofs.Shape.Reachable

/-!
What the faults of decoding are due to. A value of any kind is decoded or refused under any shape,
or else there is a part of it with an integer that is too large for a float, a part under a record
whose fields have no shapes, or one whose decoded fields make the rules of a model fail. Arrays,
unions and records add no faults of their own.
-/

namespace EditorProtocol

variable {F : Family} {exact : Bool} {ref : ModelRef} {w : Value} {s : Shape}

/-! ### Outcomes -/

section Attributed

variable {α β : Type} {P Q : Fault → Prop}

/-- A value or a mismatch came out, or a fault of which something holds. -/
def Attributed (P : Fault → Prop) (r : Except Fault α) : Prop :=
  Decided r ∨ ∃ f, r = .error f ∧ P f

theorem Decided.attributed {r : Except Fault α} (h : Decided r) : Attributed P r := .inl h

theorem attributed_ok (a : α) : Attributed P (.ok a : Except Fault α) := (decided_ok a).attributed

theorem attributed_refuse (s : Shape) (v : Value) (reason : Reason) :
    Attributed P (refuse s v reason : Except Fault α) := (decided_refuse s v reason).attributed

namespace Attributed

theorem imp {r : Except Fault α} (h : Attributed P r) (himp : ∀ f, P f → Q f) : Attributed Q r :=
  Or.imp_right (fun ⟨f, hr, hf⟩ => ⟨f, hr, himp f hf⟩) h

theorem bind {r : Except Fault α} {f : α → Except Fault β} (h : Attributed P r)
    (hf : ∀ a, r = .ok a → Attributed P (f a)) : Attributed P (r >>= f) := by
  rcases h with (⟨a, rfl⟩ | hrefused) | ⟨fault, rfl, hfault⟩
  · exact hf a rfl
  · exact (hrefused.bind f).decided.attributed
  · exact .inr ⟨fault, rfl, hfault⟩

theorem underSegment {r : Except Fault α} (h : Attributed P r) (segment : Segment) :
    Attributed P (EditorProtocol.underSegment segment r) := by
  rcases h with h | ⟨f, rfl, hf⟩
  · exact (h.underSegment segment).attributed
  · cases f with
    | mismatch m => exact .inl (.inr ⟨m.under [segment], rfl⟩)
    | _ => exact .inr ⟨_, rfl, hf⟩

/-- A fault that is no mismatch is one of which something holds. -/
theorem holds {r : Except Fault α} {f : Fault} (h : Attributed P r) (hr : r = .error f)
    (hf : ∀ m, f ≠ .mismatch m) : P f := by
  subst hr
  rcases h with (⟨a, ⟨⟩⟩ | ⟨m, hm⟩) | ⟨g, heq, hg⟩
  · exact absurd (Except.error.inj hm) (hf m)
  · cases heq
    exact hg

end Attributed

end Attributed

/-! ### Causes -/

/-- A fault that decoding runs into at a part of a value. -/
inductive FaultAt (F : Family) (exact : Bool) : Value → Shape → Fault → Prop
  | overflow {w : Value} {p : Primitive} {n : Int} (kind : p.kind = .float)
      (integer : w.integer? = some n) (large : Double.ofInt? n = none) :
      FaultAt F exact w (.primitive p) .overflow
  | definition {w : Value} {ref : ModelRef} {e : DefinitionError} (object : w.isObject = true)
      (fields_eq : F.fields ref = .error e) : FaultAt F exact w (.record ref) (.definition e)
  | validation {w : Value} {ref : ModelRef} {m : Model} {fields : List Field}
      {values : List (String × Value)} {f : Fault} (model : F.find? ref = some m)
      (fields_eq : F.fields ref = .ok fields)
      (decoded : (decodeFields F exact w ref fields).outcome = .ok values)
      (made : m.make F values = .error (.fault f)) : FaultAt F exact w (.record ref) f
  | nullable {w : Value} {inner : Shape} {f : Fault} (inside : FaultAt F exact w inner f) :
      FaultAt F exact w (.nullable inner) f
  | item {xs : List Value} {x : Value} {element : Shape} {f : Fault} (mem : x ∈ xs)
      (inside : FaultAt F exact x element f) : FaultAt F exact (.list xs) (.sequence element) f
  | alternative {w : Value} {alternatives : List Shape} {s : Shape} {f : Fault}
      (listed : s ∈ alternatives) (inside : FaultAt F exact w s f) :
      FaultAt F exact w (.union alternatives) f
  | field {w item : Value} {ref : ModelRef} {fields : List Field} {g : Field} {f : Fault}
      (fields_eq : F.fields ref = .ok fields) (mem : g ∈ fields) (found : w.at? g.wire = some item)
      (inside : FaultAt F exact item g.shape f) : FaultAt F exact w (.record ref) f

/-- Decoding fails by an overflow, by a record without a shape, or by a fault of bounds and
orders. -/
theorem FaultAt.kinds {f : Fault} (h : FaultAt F exact w s f) :
    f = .overflow ∨ (∃ e, f = .definition e) ∨ f.isStray = true := by
  induction h with
  | overflow => exact .inl rfl
  | @definition _ _ e => exact .inr (.inl ⟨e, rfl⟩)
  | @validation _ _ m _ values f _ _ _ made => exact .inr (.inr (m.make_strays F values f made))
  | nullable _ ih => exact ih
  | item _ _ ih => exact ih
  | alternative _ _ ih => exact ih
  | field _ _ _ _ ih => exact ih

/-! ### Parts -/

/-- Only an integer that no float is near to is neither accepted nor refused. -/
theorem Primitive.accept_attributed (p : Primitive) (v : Value) :
    Attributed (fun f => f = .overflow ∧ p.kind = .float ∧
      ∃ n, v.integer? = some n ∧ Double.ofInt? n = none) (p.accept v) := by
  by_cases hfloat : p.kind = .float
  · unfold accept
    rw [hfloat]
    dsimp only
    split
    · exact attributed_ok _
    · next n _ hn =>
      split
      · exact attributed_ok _
      · next hlarge => exact .inr ⟨.overflow, rfl, rfl, rfl, n, hn, hlarge⟩
    · exact attributed_refuse _ _ _
  · exact (p.accept_decided hfloat v).attributed

section Parts

variable {P : Fault → Prop}

theorem decodeItems_attributed {element : Shape} {xs : List Value}
    (h : ∀ x ∈ xs, Attributed P (decode F exact x element).outcome) (i : Nat) :
    Attributed P (decodeItems F exact i xs element).outcome := by
  induction xs generalizing i with
  | nil =>
      rw [decodeItems]
      exact attributed_ok []
  | cons x rest ih =>
      rw [decodeItems, Traced.outcome_bind, Traced.outcome_under]
      refine ((h x (.head _)).underSegment (.index i)).bind fun u _ => ?_
      rw [Traced.outcome_bind]
      exact (ih (fun y hy => h y (.tail x hy)) (i + 1)).bind fun us _ => attributed_ok (u :: us)

theorem decodeFields_attributed {fields : List Field}
    (h : ∀ f ∈ fields, ∀ item, w.at? f.wire = some item →
      Attributed P (decode F exact item f.shape).outcome) :
    Attributed P (decodeFields F exact w ref fields).outcome := by
  induction fields with
  | nil =>
      rw [decodeFields]
      exact attributed_ok []
  | cons f rest ih =>
      have hrest := ih fun g hg => h g (.tail f hg)
      cases hitem : f.item? w with
      | none =>
          cases hoptional : f.optional with
          | true =>
              rw [decodeFields_absent hitem hoptional]
              exact hrest
          | false => exact (decodeFields_missing hitem hoptional).decided.attributed
      | some item =>
          by_cases hnull : item.isNull = true → f.nullable = true
          · rw [decodeFields_present hitem hnull]
            have hf := h f (.head _) item (Field.item?_some_iff.1 hitem).1
            exact (hf.underSegment _).bind fun v _ => hrest.bind fun vs _ => attributed_ok _
          · rw [Classical.not_imp, Bool.not_eq_true] at hnull
            exact (decodeFields_null hitem hnull.1 hnull.2).decided.attributed

theorem decode_union_attributed {alternatives : List Shape}
    (h : ∀ s ∈ alternatives, Attributed P (decode F exact w s).outcome) :
    Attributed P (decode F exact w (.union alternatives)).outcome := by
  rcases decode_union_cases F exact w alternatives with hdecided | ⟨s, hs, f, hf, hfault, hunion⟩
  · exact (decode_union hdecided).1.attributed
  · exact .inr ⟨f, hunion, (h s hs).holds hfault hf⟩

end Parts

/-- Putting a record together adds the faults of its model. -/
theorem Model.assemble_attributed {m : Model} {fields : List Field}
    {values : List (String × Value)} (hm : F.find? ref = some m)
    (hfields : F.fields ref = .ok fields)
    (hvalues : (decodeFields F exact w ref fields).outcome = .ok values) :
    Attributed (FaultAt F exact w (.record ref)) (m.assemble F w values) := by
  unfold assemble
  split
  · exact attributed_ok _
  · exact attributed_refuse _ _ _
  · next f hmake => exact .inr ⟨f, rfl, .validation hm hfields hvalues hmake⟩

/-! ### Whole values -/

/-- Decoding gives a value or a mismatch, or a fault that a part of the value has a cause for. -/
theorem decode_attributed (F : Family) (exact : Bool) (w : Value) (s : Shape) :
    Attributed (FaultAt F exact w s) (decode F exact w s).outcome := by
  -- The wire value gets smaller at items and entries; at null and in unions only the shape does.
  cases s with
  | primitive p =>
      rw [decode]
      refine (p.accept_attributed w).imp ?_
      rintro _ ⟨rfl, kind, n, integer, large⟩
      exact .overflow kind integer large
  | enumeration e =>
      rw [decode]
      exact (e.decode_decided w).attributed
  | any =>
      rw [decode]
      exact ((Value.checkJson_decided w).bind fun _ _ => decided_ok w).attributed
  | nullable inner =>
      rw [decode]
      split
      · exact attributed_ok _
      · exact (decode_attributed F exact w inner).imp fun _ => .nullable
  | sequence element =>
      cases w with
      | list xs =>
          rw [decode, Traced.outcome_bind]
          refine (decodeItems_attributed (fun x hx => ?_) 0).bind fun vs _ => attributed_ok _
          exact (decode_attributed F exact x element).imp fun _ => .item hx
      | _ =>
          rw [decode]
          · exact attributed_refuse _ _ _
          · rintro xs ⟨⟩
  | union alternatives =>
      exact decode_union_attributed fun s hs =>
        (decode_attributed F exact w s).imp fun _ => .alternative hs
  | record ref =>
      cases hobject : w.isObject with
      | false => exact (decode_record_strange hobject).decided.attributed
      | true =>
          cases hfind : F.find? ref with
          | none =>
              rw [decode, hobject, hfind]
              exact attributed_ok _
          | some m =>
              cases hfields : m.fields.mapM (·.field) with
              | error e =>
                  rw [decode, hobject, hfind]
                  simp only [hfields]
                  have hundefined : F.fields ref = .error e := by
                    rw [Family.fields, hfind]
                    exact hfields
                  exact .inr ⟨_, rfl, .definition hobject hundefined⟩
              | ok fields =>
                  have hdeclared := Family.fields_of_find hfind hfields
                  rw [decode_record_fields hfind hfields hobject]
                  refine (decodeFields_attributed fun f hf item hat => ?_).bind
                    fun values hvalues => Model.assemble_attributed hfind hdeclared hvalues
                  exact (decode_attributed F exact item f.shape).imp fun _ =>
                    .field hdeclared hf hat
termination_by (sizeOf w, sizeOf s)
decreasing_by
  · exact Prod.Lex.left _ _ (Value.sizeOf_lt_of_at? hat)
  · exact Prod.Lex.right _ (Shape.sizeOf_lt_of_mem hs)
  · exact Prod.Lex.left _ _ (Value.sizeOf_lt_of_mem hx)
  · exact Prod.Lex.right _ (by simp +arith)

end EditorProtocol
