import EditorProtocol.Proofs.Codec.Conformance
import EditorProtocol.Proofs.Codec.Outcome

/-!
Primitives and enumerations. Without floats, accepting a JSON value gives that value or refuses it;
where an enumeration has members, every one of its codes decodes to the member that it is the code
of.
-/

namespace EditorProtocol

variable {F : Family} {v u : Value}

/-! ### Primitives -/

namespace Primitive

variable {p : Primitive}

/-- A value of another form is refused. -/
theorem accept_refused {k : WireKind} (hp : (Shape.primitive p).wireKind? = some k)
    (hv : v.wireKind? ≠ some k) : Refused (p.accept v) := by
  unfold accept
  rw [Shape.wireKind?] at hp
  cases hkind : p.kind with
  | null =>
      rw [hkind] at hp
      cases hp
      cases v with
      | null => exact absurd rfl hv
      | _ => exact refused_refuse _ _ _
  | string =>
      rw [hkind] at hp
      cases hp
      cases htext : v.text? with
      | none => exact refused_refuse _ _ _
      | some s => exact absurd (Value.wireKind?_of_text? htext) hv
  | boolean =>
      rw [hkind] at hp
      cases hp
      cases v with
      | bool => exact absurd rfl hv
      | _ => exact refused_refuse _ _ _
  | integer =>
      rw [hkind] at hp
      cases hp
      cases hinteger : v.integer? with
      | none => exact refused_refuse _ _ _
      | some n => exact absurd (Value.wireKind?_of_integer? hinteger) hv
  | float =>
      rw [hkind] at hp
      cases hp

theorem accept_decided (hfloat : p.kind ≠ .float) (v : Value) : Decided (p.accept v) := by
  unfold accept
  cases hkind : p.kind with
  | null =>
      dsimp only
      split
      · exact decided_ok _
      · exact decided_refuse _ _ _
  | string =>
      dsimp only
      split
      · exact decided_ok _
      · exact decided_refuse _ _ _
  | boolean =>
      dsimp only
      split
      · exact decided_ok _
      · exact decided_refuse _ _ _
  | integer =>
      dsimp only
      split
      · split
        · exact decided_refuse _ _ _
        · split
          · exact decided_refuse _ _ _
          · exact decided_ok _
      · exact decided_refuse _ _ _
  | float => exact absurd hkind hfloat

/-- What comes out of a primitive for what goes in: codes of members stand for the members, and
integers for the floats nearest to them. -/
inductive Accepts (p : Primitive) : Value → Value → Prop
  | null (kind : p.kind = .null) : Accepts p .null .null
  | text (kind : p.kind = .string) {v : Value} {s : String} (text : v.text? = some s) :
      Accepts p v (.text s)
  | boolean (kind : p.kind = .boolean) (b : Bool) : Accepts p (.bool b) (.bool b)
  | integer (kind : p.kind = .integer) {v : Value} {n : Int} (integer : v.integer? = some n)
      (low : ∀ k, p.minimum = some k → k ≤ n) (high : ∀ k, p.maximum = some k → n ≤ k) :
      Accepts p v (.int n)
  | float (kind : p.kind = .float) (x : Double) : Accepts p (.float x) (.float x)
  | nearest (kind : p.kind = .float) {v : Value} {n : Int} {x : Double}
      (integer : v.integer? = some n) (near : Double.ofInt? n = some x) : Accepts p v (.float x)

theorem accepts_of_accept (h : p.accept v = .ok u) : p.Accepts v u := by
  unfold accept at h
  cases hkind : p.kind with
  | null =>
      rw [hkind] at h
      dsimp only at h
      split at h
      · next hnull =>
        cases h
        cases Value.isNull_iff.1 hnull
        exact .null hkind
      · cases h
  | string =>
      rw [hkind] at h
      dsimp only at h
      split at h
      · next s htext =>
        cases h
        exact .text hkind htext
      · cases h
  | boolean =>
      rw [hkind] at h
      dsimp only at h
      split at h
      · next b =>
        cases h
        exact .boolean hkind b
      · cases h
  | integer =>
      rw [hkind] at h
      dsimp only at h
      split at h
      · next n hinteger =>
        split at h
        · cases h
        · next hlow =>
          split at h
          · cases h
          · next hhigh =>
            cases h
            refine .integer hkind hinteger (fun k hk => ?_) fun k hk => ?_
            · rw [hk, Option.any_some, decide_eq_true_iff] at hlow
              exact Int.not_lt.1 hlow
            · rw [hk, Option.any_some, decide_eq_true_iff] at hhigh
              exact Int.not_lt.1 hhigh
      · cases h
  | float =>
      rw [hkind] at h
      dsimp only at h
      split at h
      · next _ x =>
        cases h
        exact .float hkind x
      · next n _ hinteger =>
        split at h
        · next x hx =>
          cases h
          exact .nearest hkind hinteger hx
        · cases h
      · cases h

/-- What comes out of a primitive conforms to it. -/
theorem accept_conforms (h : p.accept v = .ok u) : Conforms F (.primitive p) u := by
  cases accepts_of_accept h with
  | null kind => exact .null kind
  | text kind => exact .text kind _
  | boolean kind b => exact .boolean kind b
  | integer kind _ low high => exact .integer kind _ low high
  | float kind x => exact .float kind x
  | nearest kind => exact .float kind _

theorem accept_json (h : p.accept v = .ok u) : u.IsJson := by
  cases accepts_of_accept h <;> constructor

/-- Without floats, what comes out of a primitive is the JSON value that went in. -/
theorem accept_inv (hfloat : p.kind ≠ .float) (h : p.accept v = .ok u) :
    Conforms F (.primitive p) u ∧ u.IsJson ∧ (v.IsJson → u = v) := by
  refine ⟨accept_conforms h, accept_json h, fun hv => ?_⟩
  cases accepts_of_accept h with
  | null => rfl
  | text _ htext =>
      cases hv <;> cases htext
      rfl
  | boolean => rfl
  | integer _ hinteger =>
      cases hv <;> cases hinteger
      rfl
  | float => rfl
  | nearest kind => exact absurd kind hfloat

/-- A conforming value is accepted as it is. -/
theorem accept_of_conforms (h : Conforms F (.primitive p) v) : p.accept v = .ok v := by
  cases h with
  | null kind =>
      unfold accept
      rw [kind]
      rfl
  | text kind s =>
      unfold accept
      rw [kind]
      rfl
  | boolean kind b =>
      unfold accept
      rw [kind]
  | float kind x =>
      unfold accept
      rw [kind]
  | integer kind n low high =>
      have hlow : (p.minimum.any fun k => decide (n < k)) = false := by
        cases hmin : p.minimum with
        | none => rfl
        | some k => simpa using low k hmin
      have hhigh : (p.maximum.any fun k => decide (k < n)) = false := by
        cases hmax : p.maximum with
        | none => rfl
        | some k => simpa using high k hmax
      unfold accept
      rw [kind]
      simp only [Value.integer?, hlow, hhigh]
      rfl

end Primitive

/-! ### Codes -/

namespace Codes

variable {codes : Codes} {c : Scalar}

/-- Codes are numbers or texts. -/
theorem scalar_inv (hc : c ∈ codes.scalars) : (∃ n, c = .int n) ∨ ∃ s, c = .text s := by
  cases codes with
  | integers ns =>
      obtain ⟨n, _, rfl⟩ := List.mem_map.1 hc
      exact .inl ⟨n, rfl⟩
  | texts ss =>
      obtain ⟨s, _, rfl⟩ := List.mem_map.1 hc
      exact .inr ⟨s, rfl⟩

theorem admits_scalar (hc : c ∈ codes.scalars) :
    codes.admits (.ofScalar c) = true ∧ (Value.ofScalar c).IsJson := by
  cases codes with
  | integers ns =>
      obtain ⟨n, hn, rfl⟩ := List.mem_map.1 hc
      exact ⟨List.contains_iff_mem.2 hn, .int n⟩
  | texts ss =>
      obtain ⟨s, hs, rfl⟩ := List.mem_map.1 hc
      exact ⟨List.contains_iff_mem.2 hs, .text s⟩

/-- A JSON value that is admitted is one of the codes. -/
theorem admits_inv (hadmits : codes.admits v = true) (hv : v.IsJson) :
    ∃ c ∈ codes.scalars, v = .ofScalar c := by
  cases codes with
  | integers ns =>
      cases hv with
      | int n => exact ⟨.int n, List.mem_map_of_mem (List.contains_iff_mem.1 hadmits), rfl⟩
      | _ => cases hadmits
  | texts ss =>
      cases hv with
      | text s => exact ⟨.text s, List.mem_map_of_mem (List.contains_iff_mem.1 hadmits), rfl⟩
      | _ => cases hadmits

end Codes

/-! ### Enumerations -/

namespace EnumShape

variable {e : EnumShape}

theorem accept_refused {k : WireKind} (he : (Shape.enumeration e).wireKind? = some k)
    (hv : v.wireKind? ≠ some k) : Refused (e.accept v) := by
  have hkind : e.codes.isOfKind v = false := by
    rw [Shape.wireKind?] at he
    unfold Codes.isOfKind
    cases hcodes : e.codes with
    | integers ns =>
        rw [hcodes] at he
        cases he
        cases hinteger : v.integer? with
        | none => rfl
        | some n => exact absurd (Value.wireKind?_of_integer? hinteger) hv
    | texts ss =>
        rw [hcodes] at he
        cases he
        cases htext : v.text? with
        | none => rfl
        | some s => exact absurd (Value.wireKind?_of_text? htext) hv
  unfold accept
  rw [hkind]
  exact refused_refuse _ _ _

/-- What is admitted has the form of the codes. -/
theorem wireKind?_of_admits {k : WireKind} (he : (Shape.enumeration e).wireKind? = some k)
    (h : e.codes.admits v = true) : v.wireKind? = some k := by
  unfold Codes.admits at h
  rw [Shape.wireKind?] at he
  cases hcodes : e.codes with
  | integers ns =>
      rw [hcodes] at h he
      obtain ⟨n, hn, _⟩ := (Option.any_eq_true _ _).1 h
      exact (Value.wireKind?_of_integer? hn).trans he
  | texts ss =>
      rw [hcodes] at h he
      obtain ⟨x, hx, _⟩ := (Option.any_eq_true _ _).1 h
      exact (Value.wireKind?_of_text? hx).trans he

theorem accept_decided (e : EnumShape) (v : Value) : Decided (e.accept v) := by
  unfold accept
  split
  · exact decided_refuse _ _ _
  · split
    · exact decided_ok _
    · exact decided_refuse _ _ _

theorem accept_ok_iff : e.accept v = .ok u ↔ u = v ∧ e.codes.admits v = true := by
  have hkind : e.codes.admits v = true → e.codes.isOfKind v = true := by
    unfold Codes.admits Codes.isOfKind
    cases e.codes with
    | integers ns => cases v.integer? <;> simp
    | texts ss => cases v.text? <;> simp
  unfold accept
  cases hadmits : e.codes.admits v with
  | true =>
      rw [hkind hadmits]
      simp [eq_comm]
  | false =>
      cases e.codes.isOfKind v <;> simp [refuse]

theorem decode_decided (e : EnumShape) (v : Value) : Decided (e.decode v) :=
  (e.accept_decided v).bind fun _ _ => decided_ok _

/-- In a faithful enumeration with members, the codes are the codes of the members. -/
theorem isFaithful_inv (he : e.isFaithful = true) (hne : e.members ≠ []) :
    e.codes.scalars = e.members.map (·.code) ∧
      ∀ m ∈ e.members, e.memberOf? (.ofScalar m.code) = some m := by
  unfold isFaithful at he
  rw [Bool.or_eq_true, List.isEmpty_iff, or_iff_right hne, Bool.and_eq_true, List.all_eq_true] at he
  obtain ⟨hcodes, hmembers⟩ := he
  refine ⟨?_, fun m hm => beq_iff_eq.1 (hmembers m hm)⟩
  split at hcodes
  · next ns hns =>
    rw [hns]
    exact (beq_iff_eq.1 hcodes).symm
  · next ss hss =>
    rw [hss]
    exact (beq_iff_eq.1 hcodes).symm

/-- The code of a member is admitted. -/
theorem admits_code (he : e.isFaithful = true) {m : EnumMember} (hm : m ∈ e.members) :
    e.codes.admits (.ofScalar m.code) = true ∧ (Value.ofScalar m.code).IsJson := by
  refine Codes.admits_scalar ?_
  rw [(isFaithful_inv he (List.ne_nil_of_mem hm)).1]
  exact List.mem_map_of_mem hm

/-- A JSON value that is admitted is the code of a member, where there are members. -/
theorem exists_member (he : e.isFaithful = true) (hne : e.members ≠ [])
    (hadmits : e.codes.admits v = true) (hv : v.IsJson) :
    ∃ m ∈ e.members, v = .ofScalar m.code := by
  obtain ⟨_, hcode, rfl⟩ := Codes.admits_inv hadmits hv
  rw [(isFaithful_inv he hne).1] at hcode
  obtain ⟨m, hm, rfl⟩ := List.mem_map.1 hcode
  exact ⟨m, hm, rfl⟩

theorem memberOf?_nil (hnil : e.members = []) (v : Value) : e.memberOf? v = none := by
  unfold memberOf?
  rw [hnil]
  rfl

/-- A code decodes to a conforming value that travels as this code. -/
theorem decode_inv (he : e.isFaithful = true) {w : Value} (hw : w.IsJson)
    (h : e.decode w = .ok v) :
    Conforms F (.enumeration e) v ∧ v.settled F = v ∧ e.accept v.unwrapped = .ok w := by
  unfold decode at h
  obtain ⟨u, hu, hv⟩ := bind_eq_ok.1 h
  obtain ⟨rfl, hadmits⟩ := accept_ok_iff.1 hu
  cases hv
  by_cases hnil : e.members = []
  · rw [memberOf?_nil hnil]
    refine ⟨.code hnil hadmits hw, hw.settled, ?_⟩
    rw [Option.map_none, Option.getD_none, hw.unwrapped, hu]
  · obtain ⟨m, hm, rfl⟩ := exists_member he hnil hadmits hw
    rw [(isFaithful_inv he hnil).2 m hm]
    exact ⟨.member hm, rfl, hu⟩

/-- A conforming value travels as a code that decodes to it. -/
theorem accept_of_conforms (he : e.isFaithful = true) (h : Conforms F (.enumeration e) v) :
    ∃ w, e.accept v.unwrapped = .ok w ∧ w.IsJson ∧ e.decode w = .ok v := by
  cases h with
  | @member _ m declared =>
      obtain ⟨hadmits, hjson⟩ := admits_code he declared
      have haccept : e.accept (.ofScalar m.code) = .ok (.ofScalar m.code) :=
        accept_ok_iff.2 ⟨rfl, hadmits⟩
      refine ⟨_, haccept, hjson, ?_⟩
      unfold decode
      rw [haccept, ok_bind, (isFaithful_inv he (List.ne_nil_of_mem declared)).2 m declared]
      rfl
  | code members listed json =>
      have haccept : e.accept v = .ok v := accept_ok_iff.2 ⟨rfl, listed⟩
      refine ⟨v, by rw [json.unwrapped, haccept], json, ?_⟩
      unfold decode
      rw [haccept, ok_bind, memberOf?_nil members]
      rfl

end EnumShape

end EditorProtocol
