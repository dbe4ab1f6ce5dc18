import EditorProtocol.Proofs.Codec.Outcome
import EditorProtocol.Proofs.Shape.Reachable
import EditorProtocol.Shape.Finite

/-!
Shapes that have finite values, as the least set that scalars, arrays and nullable shapes are in, a
union with some alternative, and a record with all the fields that it requires. An acceptable shape
is walked over to the end, so that every record that it reaches has a finite value.
-/

namespace EditorProtocol

namespace Family

variable {F : Family} {s t : Shape}

/-! ### Finite values -/

/-- The shapes that have a finite value. -/
inductive HasFinite (F : Family) : Shape → Prop
  | primitive (p : Primitive) : HasFinite F (.primitive p)
  | enumeration (e : EnumShape) : HasFinite F (.enumeration e)
  | any : HasFinite F .any
  | sequence (element : Shape) : HasFinite F (.sequence element)
  | nullable (inner : Shape) : HasFinite F (.nullable inner)
  | union {alternatives : List Shape} {s : Shape} (mem : s ∈ alternatives) (h : HasFinite F s) :
      HasFinite F (.union alternatives)
  | record {ref : ModelRef} {fields : List Field} (fields_eq : F.fields ref = .ok fields)
      (required : ∀ f ∈ fields, f.optional = false → HasFinite F f.shape) :
      HasFinite F (.record ref)

/-- The search in a record that is not being visited. -/
theorem isFinite_record {visiting : List ModelRef} {ref : ModelRef} {m : Model}
    (hnew : ref ∉ visiting) (hm : F.find? ref = some m) :
    F.isFinite visiting (.record ref) =
      match m.fields.mapM (·.field) with
      | .error e => .error e
      | .ok fields => F.allFinite (ref :: visiting) fields := by
  rw [isFinite, dif_neg hnew]
  split
  · next hnone => cases hnone.symm.trans hm
  · next m' hm' =>
    cases hm'.symm.trans hm
    rfl

theorem isFinite_unknown {visiting : List ModelRef} {ref : ModelRef} (hnew : ref ∉ visiting)
    (hnone : F.find? ref = none) : F.isFinite visiting (.record ref) = .ok true := by
  rw [isFinite, dif_neg hnew]
  split
  · rfl
  · next m hm => cases hm.symm.trans hnone

/-- A shape for which a finite value is found has one, whichever records are being visited. -/
theorem hasFinite_all (F : Family) :
    (∀ visiting s, F.isFinite visiting s = .ok true → F.HasFinite s) ∧
      (∀ visiting fs, F.allFinite visiting fs = .ok true →
        ∀ f ∈ fs, f.optional = false → F.HasFinite f.shape) ∧
      ∀ visiting ss, F.anyFinite visiting ss = .ok true → ∃ s ∈ ss, F.HasFinite s := by
  refine isFinite.mutual_induct F _ _ _ ?union ?visited ?unknown ?undefined ?record ?other
    ?noField ?optional ?required ?noAlternative ?alternative
  case union =>
    intro visiting alternatives ih h
    rw [isFinite] at h
    obtain ⟨s, hmem, hs⟩ := ih h
    exact .union hmem hs
  case visited =>
    intro visiting ref hvisited h
    rw [isFinite, dif_pos hvisited] at h
    cases h
  case unknown =>
    intro visiting ref hnew hnone h
    have hfields : F.fields ref = .ok [] := by
      rw [fields, hnone]
    exact .record hfields fun f hf => (List.not_mem_nil hf).elim
  case undefined =>
    intro visiting ref hnew m hm e he h
    rw [isFinite_record hnew hm, he] at h
    cases h
  case record =>
    intro visiting ref hnew m hm fields hfields ih h
    rw [isFinite_record hnew hm, hfields] at h
    exact .record (fields_of_find hm hfields) (ih h)
  case other =>
    intro visiting s hunion hrecord _
    cases s with
    | union alternatives => exact (hunion alternatives rfl).elim
    | record ref => exact (hrecord ref rfl).elim
    | primitive p => exact .primitive p
    | enumeration e => exact .enumeration e
    | any => exact .any
    | sequence element => exact .sequence element
    | nullable inner => exact .nullable inner
  case noField => exact fun _ _ f hf => (List.not_mem_nil hf).elim
  case optional =>
    intro visiting f rest hoptional ih h
    rw [allFinite, if_pos hoptional] at h
    refine List.forall_mem_cons.2 ⟨fun hrequired => ?_, ih h⟩
    rw [hoptional] at hrequired
    cases hrequired
  case required =>
    intro visiting f rest hrequired ihshape ihrest h
    rw [allFinite, if_neg hrequired] at h
    obtain ⟨finite, hfinite, h⟩ := bind_eq_ok.1 h
    cases finite with
    | false => cases h
    | true => exact List.forall_mem_cons.2 ⟨fun _ => ihshape hfinite, ihrest h⟩
  case noAlternative =>
    intro visiting h
    rw [anyFinite] at h
    cases h
  case alternative =>
    intro visiting s rest ihshape ihrest h
    rw [anyFinite] at h
    obtain ⟨finite, hfinite, h⟩ := bind_eq_ok.1 h
    cases finite with
    | true => exact ⟨s, List.mem_cons_self, ihshape hfinite⟩
    | false =>
        obtain ⟨t, hmem, ht⟩ := ihrest h
        exact ⟨t, List.mem_cons_of_mem s hmem, ht⟩

/-! ### Acceptable shapes -/

/-- Among records that are accepted every one has a finite value. -/
theorem hasFinite_of_checkRecords {shapes : List Shape} (h : F.checkRecords shapes = .ok ())
    {ref : ModelRef} (hmem : Shape.record ref ∈ shapes) : F.HasFinite (.record ref) := by
  induction shapes with
  | nil => cases hmem
  | cons s rest ih =>
      cases s with
      | record r =>
          rw [checkRecords] at h
          obtain ⟨finite, hfinite, h⟩ := bind_eq_ok.1 h
          cases finite with
          | false => cases h
          | true =>
              rcases List.mem_cons.1 hmem with heq | hmem
              · cases heq
                exact (hasFinite_all F).1 _ _ hfinite
              · exact ih h hmem
      | _ =>
          rcases List.mem_cons.1 hmem with heq | hmem
          · cases heq
          · exact ih h hmem

/-- Every record that is reached from an acceptable shape has a finite value. -/
theorem hasFinite_of_checkAcyclic (h : F.checkAcyclic s = .ok ()) {ref : ModelRef}
    (hreaches : F.Reaches s (.record ref)) : F.HasFinite (.record ref) := by
  unfold checkAcyclic at h
  obtain ⟨_, hrecords, h⟩ := bind_eq_ok.1 h
  refine hasFinite_of_checkRecords hrecords (met_record_of_reaches ?_ hreaches)
  cases hfailure : (F.walk s).failure with
  | none => rfl
  | some e =>
      rw [hfailure] at h
      cases h

end Family

end EditorProtocol
