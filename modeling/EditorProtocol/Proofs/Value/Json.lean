import EditorProtocol.Proofs.Codec.Outcome
import EditorProtocol.Proofs.Value.Lookup

/-!
Values of JSON, and what a value is on the wire by its outermost form. Parts of a JSON value are
JSON values again, every one of them is admitted where any value is, and none holds a record. What
is admitted there may have members of enumerations in it, and dictionaries with members as keys.
-/

namespace EditorProtocol

/-- The values that a message can be made of: no members, no records, no foreign containers. -/
inductive Value.IsJson : Value → Prop
  | null : IsJson .null
  | bool (b : Bool) : IsJson (.bool b)
  | int (n : Int) : IsJson (.int n)
  | float (x : Double) : IsJson (.float x)
  | text (s : String) : IsJson (.text s)
  | list {xs : List Value} (items : ∀ x ∈ xs, IsJson x) : IsJson (.list xs)
  | object {entries : List (String × Value)} (values : ∀ e ∈ entries, IsJson e.2) :
      IsJson (.object entries)

/-- The values that are admitted where any value is: JSON, in which members that are numbers or
texts stand for their codes, also as keys. -/
inductive Value.IsWire : Value → Prop
  | null : IsWire .null
  | bool (b : Bool) : IsWire (.bool b)
  | int (n : Int) : IsWire (.int n)
  | float (x : Double) : IsWire (.float x)
  | text (s : String) : IsWire (.text s)
  | member {m : EnumMember} (based : m.base ≠ .plain) : IsWire (.member m)
  | list {xs : List Value} (items : ∀ x ∈ xs, IsWire x) : IsWire (.list xs)
  | object {entries : List (String × Value)} (values : ∀ e ∈ entries, IsWire e.2) :
      IsWire (.object entries)
  | table {rows : List (Value × Value)} (keys : ∀ r ∈ rows, r.1.text?.isSome = true)
      (values : ∀ r ∈ rows, IsWire r.2) : IsWire (.table rows)

/-- The forms of JSON values. -/
inductive WireKind where
  | null
  | boolean
  | integer
  | float
  | text
  | array
  | object
deriving DecidableEq, Repr

namespace Value

/-- The form in which a value travels, so far as its outermost part tells. -/
def wireKind? : Value → Option WireKind
  | .null => some .null
  | .bool _ => some .boolean
  | .int _ => some .integer
  | .float _ => some .float
  | .text _ => some .text
  | .list _ => some .array
  | .object _ => some .object
  | .record _ _ => some .object
  | .member ⟨_, _, _, .int _⟩ => some .integer
  | .member ⟨_, _, _, .text _⟩ => some .text
  | _ => none

theorem wireKind?_of_text? {v : Value} {s : String} (h : v.text? = some s) :
    v.wireKind? = some .text := by
  cases v with
  | text => rfl
  | member m =>
      obtain ⟨_, base, _, code⟩ := m
      cases base <;> cases code <;> first | rfl | cases h
  | _ => cases h

theorem wireKind?_of_integer? {v : Value} {n : Int} (h : v.integer? = some n) :
    v.wireKind? = some .integer := by
  cases v with
  | int => rfl
  | member m =>
      obtain ⟨_, base, _, code⟩ := m
      cases base <;> cases code <;> first | rfl | cases h
  | _ => cases h

theorem isNull_iff {v : Value} : v.isNull = true ↔ v = .null := by
  cases v <;> simp [isNull]

theorem sizeOf_lt_of_mem {x : Value} {xs : List Value} (hx : x ∈ xs) :
    sizeOf x < sizeOf (Value.list xs) := by
  have := List.sizeOf_lt_of_mem hx
  simp only [list.sizeOf_spec]
  omega

theorem sizeOf_lt_of_entry {e : String × Value} {entries : List (String × Value)}
    (he : e ∈ entries) : sizeOf e.2 < sizeOf (Value.object entries) := by
  have := List.sizeOf_lt_of_mem he
  obtain ⟨k, u⟩ := e
  simp only [object.sizeOf_spec, Prod.mk.sizeOf_spec] at *
  omega

/-! ### Admitted values -/

theorem checkJsonItems_iff {i : Nat} {xs : List Value} :
    checkJsonItems i xs = .ok () ↔ ∀ x ∈ xs, checkJson x = .ok () := by
  induction xs generalizing i with
  | nil => exact ⟨fun _ => nofun, fun _ => rfl⟩
  | cons x rest ih =>
      rw [checkJsonItems, bind_unit_eq_ok, underSegment_eq_ok, ih, List.forall_mem_cons]

theorem checkJsonEntries_iff {es : List (String × Value)} :
    checkJsonEntries es = .ok () ↔ ∀ e ∈ es, checkJson e.2 = .ok () := by
  induction es with
  | nil => exact ⟨fun _ => nofun, fun _ => rfl⟩
  | cons e rest ih =>
      rw [checkJsonEntries, bind_unit_eq_ok, underSegment_eq_ok, ih, List.forall_mem_cons]

theorem checkJsonRows_iff {whole : Value} {rows : List (Value × Value)} :
    checkJsonRows whole rows = .ok () ↔
      (∀ r ∈ rows, r.1.text?.isSome = true) ∧ ∀ r ∈ rows, checkJson r.2 = .ok () := by
  induction rows with
  | nil => exact ⟨fun _ => ⟨nofun, nofun⟩, fun _ => rfl⟩
  | cons r rest ih =>
      obtain ⟨k, v⟩ := r
      rw [checkJsonRows, List.forall_mem_cons, List.forall_mem_cons]
      cases k.text? with
      | none => simp [refuse, bind_unit_eq_ok]
      | some key => simp [bind_unit_eq_ok, underSegment_eq_ok, ih, and_left_comm]

/-- A value is admitted where any value is if it has nothing else in it. -/
theorem checkJson_iff {v : Value} : checkJson v = .ok () ↔ v.IsWire := by
  constructor
  · intro h
    cases v with
    | null => exact .null
    | bool b => exact .bool b
    | int n => exact .int n
    | float x => exact .float x
    | text s => exact .text s
    | member m =>
        rw [checkJson] at h
        split at h
        · cases h
        · next hbase => exact .member hbase
    | list xs => exact .list fun x hx => checkJson_iff.1 (checkJsonItems_iff.1 h x hx)
    | object es => exact .object fun e he => checkJson_iff.1 (checkJsonEntries_iff.1 h e he)
    | table rows =>
        obtain ⟨hkeys, hvalues⟩ := checkJsonRows_iff.1 h
        exact .table hkeys fun r hr => checkJson_iff.1 (hvalues r hr)
    | bytes bs => cases h
    | tuple xs => cases h
    | set xs => cases h
    | record model slots => cases h
  · intro h
    induction h with
    | member based => rw [checkJson, if_neg based]
    | list _ ih => exact checkJsonItems_iff.2 ih
    | object _ ih => exact checkJsonEntries_iff.2 ih
    | table keys _ ih => exact checkJsonRows_iff.2 ⟨keys, ih⟩
    | _ => rfl
termination_by sizeOf v
decreasing_by
  all_goals subst_vars
  · exact sizeOf_lt_of_mem hx
  · exact sizeOf_lt_of_entry he
  · have := List.sizeOf_lt_of_mem hr
    obtain ⟨k, u⟩ := r
    simp only [table.sizeOf_spec, Prod.mk.sizeOf_spec] at *
    omega

mutual

/-- Whatever is given, it is admitted or refused. -/
theorem checkJson_decided (v : Value) : Decided (checkJson v) := by
  cases v with
  | list xs => exact checkJsonItems_decided xs 0
  | object es => exact checkJsonEntries_decided es
  | table rows => exact checkJsonRows_decided rows (.table rows)
  | member m =>
      rw [checkJson]
      split
      · exact decided_refuse _ _ _
      · exact decided_ok ()
  | bytes bs => exact decided_refuse _ _ _
  | tuple xs => exact decided_refuse _ _ _
  | set xs => exact decided_refuse _ _ _
  | record model slots => exact decided_refuse _ _ _
  | _ => exact decided_ok ()

theorem checkJsonItems_decided (xs : List Value) (i : Nat) : Decided (checkJsonItems i xs) := by
  cases xs with
  | nil => exact decided_ok ()
  | cons x rest =>
      exact ((checkJson_decided x).underSegment _).bind fun _ _ =>
        checkJsonItems_decided rest (i + 1)

theorem checkJsonEntries_decided (es : List (String × Value)) :
    Decided (checkJsonEntries es) := by
  cases es with
  | nil => exact decided_ok ()
  | cons e rest =>
      exact ((checkJson_decided e.2).underSegment _).bind fun _ _ => checkJsonEntries_decided rest

theorem checkJsonRows_decided (rows : List (Value × Value)) (whole : Value) :
    Decided (checkJsonRows whole rows) := by
  cases rows with
  | nil => exact decided_ok ()
  | cons r rest =>
      have hfirst := checkJson_decided r.2
      have hrest := checkJsonRows_decided rest whole
      rw [checkJsonRows]
      split
      · exact (decided_refuse _ _ _).bind fun _ _ => hrest
      · exact (hfirst.underSegment _).bind fun _ _ => hrest

end

/-- An entry of an admitted value is one, too. -/
theorem IsWire.at? {w item : Value} {key : String} (hw : IsWire w) (h : w.at? key = some item) :
    IsWire item := by
  cases hw with
  | object values => exact values _ (mem_of_lookup h)
  | table _ values =>
      obtain ⟨k, hmem⟩ := mem_of_lookupText h
      exact values _ hmem
  | _ => cases h

namespace IsJson

/-- An entry of a JSON value is one, too. -/
theorem at? {w item : Value} {key : String} (hw : IsJson w) (h : w.at? key = some item) :
    IsJson item := by
  cases hw with
  | object values => exact values _ (mem_of_lookup h)
  | _ => cases h

/-- There are no members in JSON. -/
theorem unwrapped {w : Value} (hw : IsJson w) : w.unwrapped = w := by
  cases hw <;> rfl

theorem isWire {w : Value} (hw : IsJson w) : IsWire w := by
  induction hw with
  | null => exact .null
  | bool b => exact .bool b
  | int n => exact .int n
  | float x => exact .float x
  | text s => exact .text s
  | list _ ih => exact .list ih
  | object _ ih => exact .object ih

/-- JSON values are admitted where any value is. -/
theorem checkJson {w : Value} (hw : IsJson w) : EditorProtocol.checkJson w = .ok () :=
  checkJson_iff.2 hw.isWire

/-- What JSON values are made of is never in its typed form. -/
theorem isTyped {w : Value} (hw : IsJson w) : w.isTyped = false := by
  induction hw with
  | list items ih =>
      rename_i xs
      show anyTyped xs = false
      clear items
      induction xs with
      | nil => rfl
      | cons x xs ihx =>
          rw [anyTyped, ih x List.mem_cons_self]
          exact ihx fun y hy => ih y (List.mem_cons_of_mem x hy)
  | _ => rfl

end IsJson

end Value

end EditorProtocol
