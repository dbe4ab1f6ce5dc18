import EditorProtocol.Proofs.Codec.Faults
import EditorProtocol.Proofs.Method.Registry

/-!
Where mismatches are. The path of a mismatch can be followed from the whole value, it ends at the
value that was found, and what was expected there is what the whole shape assigns to the path. A
path is put together from its end while decoding returns, so each result is looked at together with
the value and the shape that it is a result for.
-/

namespace EditorProtocol

/-! ### Paths -/

namespace Value

/-- The entry of a dictionary, or the item of an array, that a segment of a path names. -/
def part? (w : Value) : Segment → Option Value
  | .key name => w.at? name
  | .index i =>
    match w with
    | .list xs => if 0 ≤ i then xs[i.toNat]? else none
    | _ => none

/-- The value at the end of a path. -/
def follow? (w : Value) : List Segment → Option Value
  | [] => some w
  | segment :: path =>
    match w.part? segment with
    | some item => item.follow? path
    | none => none

/-- No dictionary in a value has a key twice. -/
inductive HasDistinctKeys : Value → Prop
  | list {xs : List Value} (items : ∀ x ∈ xs, HasDistinctKeys x) : HasDistinctKeys (.list xs)
  | object {entries : List (String × Value)} (keys : (entries.map (·.1)).Nodup)
      (values : ∀ e ∈ entries, HasDistinctKeys e.2) : HasDistinctKeys (.object entries)
  | table {rows : List (Value × Value)} (keys : (rows.filterMap (·.1.text?)).Nodup)
      (values : ∀ r ∈ rows, HasDistinctKeys r.2) : HasDistinctKeys (.table rows)
  | other {v : Value} (array : ∀ xs, v ≠ .list xs) (object : v.isObject = false) :
      HasDistinctKeys v

theorem follow?_cons {w item : Value} {segment : Segment} (h : w.part? segment = some item)
    (path : List Segment) : w.follow? (segment :: path) = item.follow? path := by
  rw [follow?, h]

@[simp] theorem part?_list (xs : List Value) (i : Nat) :
    (Value.list xs).part? (.index i) = xs[i]? := by
  simp [part?]

/-- The items of an array from a place on. -/
def HasItemsFrom (w : Value) (i : Nat) (xs : List Value) : Prop :=
  ∀ j x, xs[j]? = some x → w.part? (.index (i + j : Nat)) = some x

namespace HasItemsFrom

variable {w x : Value} {xs : List Value} {i : Nat}

theorem list (xs : List Value) : (Value.list xs).HasItemsFrom 0 xs := by
  intro j x hx
  simpa using hx

theorem head (h : w.HasItemsFrom i (x :: xs)) : w.part? (.index i) = some x :=
  h 0 x rfl

theorem tail (h : w.HasItemsFrom i (x :: xs)) : w.HasItemsFrom (i + 1) xs := by
  intro j y hy
  rw [Nat.add_right_comm]
  exact h (j + 1) y hy

end HasItemsFrom

namespace HasDistinctKeys

variable {w : Value}

theorem item {xs : List Value} {x : Value} (h : (Value.list xs).HasDistinctKeys) (hx : x ∈ xs) :
    x.HasDistinctKeys := by
  cases h with
  | list items => exact items x hx
  | other array => exact absurd rfl (array xs)

theorem entry {key : String} {item : Value} (h : w.HasDistinctKeys)
    (hat : w.at? key = some item) : item.HasDistinctKeys := by
  cases h with
  | list => cases hat
  | object _ values => exact values _ (mem_of_lookup hat)
  | table _ values =>
      obtain ⟨k, hk⟩ := mem_of_lookupText hat
      exact values _ hk
  | other _ object => cases w <;> first | cases hat | cases object

end HasDistinctKeys

end Value

/-- What a shape assigns to a path: the shapes of fields and of elements, and no shape but itself
within a value of any form. A null that is allowed is seen through, and no way leads into the
alternatives of a union. -/
inductive Shape.Assigns (F : Family) : Shape → List Segment → Shape → Prop
  | here {s : Shape} (plain : s.isNullable = false) : Assigns F s [] s
  | nullable {inner t : Shape} {path : List Segment} (rest : Assigns F inner path t) :
      Assigns F (.nullable inner) path t
  | item {element t : Shape} {path : List Segment} (i : Int) (rest : Assigns F element path t) :
      Assigns F (.sequence element) (.index i :: path) t
  | field {ref : ModelRef} {fields : List Field} {f : Field} {t : Shape} {path : List Segment}
      (declared : F.fields ref = .ok fields) (listed : f ∈ fields)
      (rest : Assigns F f.shape path t) : Assigns F (.record ref) (.key f.wire :: path) t
  | inside (segment : Segment) (path : List Segment) : Assigns F .any (segment :: path) .any

/-- No record shape has two fields of one key. -/
def Family.HasDistinctWires (F : Family) : Prop :=
  ∀ ref fields, F.fields ref = .ok fields → (fields.map (·.wire)).Nodup

theorem Family.Regular.distinctWires {F : Family} (hF : F.Regular) : F.HasDistinctWires := by
  intro ref fields hfields
  cases hm : F.find? ref with
  | none =>
      rw [Family.fields, hm] at hfields
      cases hfields
      exact List.nodup_nil
  | some m =>
      cases (hF.fields hm).symm.trans hfields
      exact (hF.model hm).1.keyed.fieldWires

/-- Where the fields of a record have different keys, a shape assigns at most one shape to a
path. -/
theorem Shape.Assigns.unique {F : Family} {s t u : Shape} {path : List Segment}
    (hF : F.HasDistinctWires) (ht : s.Assigns F path t) (hu : s.Assigns F path u) : t = u := by
  induction ht with
  | here hs =>
      cases hu with
      | here => rfl
      | nullable => cases hs
  | nullable _ ih =>
      cases hu with
      | here hs => cases hs
      | nullable rest => exact ih rest
  | item i _ ih =>
      cases hu with
      | item _ rest => exact ih rest
  | @field ref fields f t path declared listed _ ih =>
      generalize hkey : Segment.key f.wire :: path = way at hu
      cases hu with
      | here => cases hkey
      | @field _ fields' g _ _ declared' listed' rest =>
          obtain ⟨hwire, rfl⟩ := List.cons.inj hkey
          cases declared.symm.trans declared'
          have hsame : g = f := List.inj_on_of_nodup_map (hF ref fields declared)
            listed' listed (Segment.key.inj hwire).symm
          exact ih (hsame ▸ rest)
  | inside segment path =>
      cases hu with
      | inside => rfl

/-! ### Results -/

variable {F : Family} {exact : Bool} {w : Value} {s : Shape}

/-- A mismatch in a result is where it says, and expects what the shape assigns to that place. -/
def Located {α : Type} (F : Family) (w : Value) (s : Shape) (r : Except Fault α) : Prop :=
  ∀ m, r = .error (.mismatch m) →
    w.follow? m.path = some m.actual ∧ s.Assigns F m.path m.expected

namespace Located

variable {α β : Type}

theorem ok (a : α) : Located F w s (.ok a) := by
  rintro m ⟨⟩

theorem refuse (hs : s.isNullable = false) (reason : Reason) :
    Located F w s (refuse s w reason : Except Fault α) := by
  rintro m ⟨⟩
  exact ⟨rfl, .here hs⟩

theorem bind {r : Except Fault α} {f : α → Except Fault β} (h : Located F w s r)
    (hf : ∀ a, r = .ok a → Located F w s (f a)) : Located F w s (r >>= f) := by
  cases r with
  | ok a => exact hf a rfl
  | error fault =>
      rintro m ⟨⟩
      exact h m rfl

/-- What is located in a part of a value is located in the value. -/
theorem underSegment {segment : Segment} {item : Value} {t : Shape} {r : Except Fault α}
    (hpart : w.part? segment = some item)
    (hassigns : ∀ path u, t.Assigns F path u → s.Assigns F (segment :: path) u)
    (h : Located F item t r) : Located F w s (underSegment segment r) := by
  rintro m hm
  obtain ⟨f, hr, hf⟩ := mapError_error_iff.1 hm
  cases f with
  | mismatch n =>
      cases hf
      obtain ⟨hfollow, hexpected⟩ := h n hr
      exact ⟨(Value.follow?_cons hpart n.path).trans hfollow, hassigns _ _ hexpected⟩
  | _ => cases hf

end Located

/-! ### Values of any form -/

theorem Shape.Assigns.into_any {segment : Segment} (path : List Segment) (u : Shape)
    (h : Shape.any.Assigns F path u) : Shape.any.Assigns F (segment :: path) u := by
  cases h with
  | here => exact .inside segment []
  | inside => exact .inside segment _

theorem checkJsonItems_located {xs : List Value} {i : Nat}
    (hitem : ∀ x ∈ xs, Located F x .any (checkJson x))
    (hpart : w.HasItemsFrom i xs) : Located F w .any (checkJsonItems i xs) := by
  induction xs generalizing i with
  | nil => exact .ok ()
  | cons x rest ih =>
      rw [checkJsonItems]
      refine (Located.underSegment hpart.head Shape.Assigns.into_any
        (hitem x (.head _))).bind fun _ _ => ?_
      exact ih (fun y hy => hitem y (.tail x hy)) hpart.tail

theorem checkJsonEntries_located {entries : List (String × Value)}
    (hitem : ∀ e ∈ entries, Located F e.2 .any (checkJson e.2))
    (hpart : ∀ e ∈ entries, w.at? e.1 = some e.2) :
    Located F w .any (checkJsonEntries entries) := by
  induction entries with
  | nil => exact .ok ()
  | cons e rest ih =>
      rw [checkJsonEntries]
      have hfirst : w.part? (.key e.1) = some e.2 := hpart e (.head _)
      refine (Located.underSegment hfirst Shape.Assigns.into_any
        (hitem e (.head _))).bind fun _ _ => ?_
      exact ih (fun d hd => hitem d (.tail e hd)) fun d hd => hpart d (.tail e hd)

theorem checkJsonRows_located {rows : List (Value × Value)}
    (hitem : ∀ r ∈ rows, Located F r.2 .any (checkJson r.2))
    (hpart : ∀ r ∈ rows, ∀ key, r.1.text? = some key → w.at? key = some r.2) :
    Located F w .any (checkJsonRows w rows) := by
  induction rows with
  | nil => exact .ok ()
  | cons r rest ih =>
      have hrest := ih (fun d hd => hitem d (.tail r hd)) fun d hd => hpart d (.tail r hd)
      rw [checkJsonRows]
      split
      · exact (Located.refuse rfl _).bind fun _ _ => hrest
      · next key hkey =>
        have hfirst : w.part? (.key key) = some r.2 := hpart r (.head _) key hkey
        exact (Located.underSegment hfirst Shape.Assigns.into_any (hitem r (.head _))).bind
          fun _ _ => hrest

theorem checkJson_located (hw : w.HasDistinctKeys) : Located F w .any (checkJson w) := by
  induction hw with
  | list _ ih =>
      rw [checkJson]
      exact checkJsonItems_located ih (.list _)
  | object keys _ ih =>
      rw [checkJson]
      exact checkJsonEntries_located ih fun e he => Value.lookup_of_mem keys he
  | table keys _ ih =>
      rw [checkJson]
      exact checkJsonRows_located ih fun r hr key hkey => Value.lookupText_of_mem keys hr hkey
  | @other v array object =>
      cases v with
      | list xs => exact absurd rfl (array xs)
      | object => cases object
      | table => cases object
      | member m =>
          rw [checkJson]
          split
          · exact .refuse rfl _
          · exact .ok ()
      | _ =>
          simp only [checkJson]
          first
            | exact .ok ()
            | exact .refuse rfl _

/-! ### Scalars -/

theorem Primitive.accept_located (p : Primitive) :
    Located F w (.primitive p) (p.accept w) := by
  unfold accept
  repeat' split
  all_goals first
    | exact .ok _
    | exact .refuse rfl _
    | rintro m ⟨⟩

theorem EnumShape.accept_located (e : EnumShape) :
    Located F w (.enumeration e) (e.accept w) := by
  unfold accept
  split
  · exact .refuse rfl _
  · split
    · exact .ok w
    · exact .refuse rfl _

/-! ### Parts of arrays and objects -/

theorem decodeItems_located {element : Shape} {xs : List Value} {i : Nat}
    (hitem : ∀ x ∈ xs, Located F x element (decode F exact x element).outcome)
    (hpart : w.HasItemsFrom i xs) :
    Located F w (.sequence element) (decodeItems F exact i xs element).outcome := by
  induction xs generalizing i with
  | nil =>
      rw [decodeItems]
      exact .ok []
  | cons x rest ih =>
      have hfirst := Located.underSegment hpart.head (fun _ _ => .item _) (hitem x (.head _))
      have hrest := ih (fun y hy => hitem y (.tail x hy)) hpart.tail
      rw [decodeItems, Traced.outcome_bind, Traced.outcome_under]
      refine hfirst.bind fun v _ => ?_
      rw [Traced.outcome_bind]
      exact hrest.bind fun vs _ => .ok _

theorem decodeFields_located {ref : ModelRef} {declared fields : List Field}
    (hdeclared : F.fields ref = .ok declared) (hfields : ∀ f ∈ fields, f ∈ declared)
    (hitem : ∀ f ∈ fields, ∀ item, w.at? f.wire = some item →
      Located F item f.shape (decode F exact item f.shape).outcome) :
    Located F w (.record ref) (decodeFields F exact w ref fields).outcome := by
  induction fields with
  | nil =>
      rw [decodeFields]
      exact .ok []
  | cons f rest ih =>
      have hrest := ih (fun g hg => hfields g (.tail f hg)) fun g hg => hitem g (.tail f hg)
      have hassigns : ∀ path u, f.shape.Assigns F path u →
          (Shape.record ref).Assigns F (.key f.wire :: path) u :=
        fun _ _ => .field hdeclared (hfields f (.head _))
      rw [decodeFields_cons]
      split
      · split
        · exact hrest
        · exact .refuse rfl _
      · next item hat =>
        have hpart : w.part? (.key f.wire) = some item := hat
        split
        · next hnull =>
          split
          · exact hrest
          · refine Located.underSegment hpart hassigns (.refuse ?_ _)
            simpa [Field.nullable] using (Bool.and_eq_true_iff.1 hnull).2
        · rw [Traced.outcome_bind, Traced.outcome_under]
          have hfirst := Located.underSegment hpart hassigns (hitem f (.head _) item hat)
          refine hfirst.bind fun v _ => ?_
          rw [Traced.outcome_bind]
          exact hrest.bind fun vs _ => .ok _

/-! ### Unions -/

theorem attempt_located {α : Type} (x : Traced Fault α) : Located F w s x.attempt.outcome := by
  unfold Traced.attempt
  split
  · exact .ok _
  · exact .ok _
  · next f hf _ =>
    rintro m ⟨⟩
    exact absurd rfl (hf m)

/-- Whatever becomes of the alternatives, it is no mismatch. -/
theorem tryAlternatives_located (alternatives : List Shape) :
    Located F w s (tryAlternatives F exact w alternatives).outcome := by
  induction alternatives with
  | nil =>
      rw [tryAlternatives]
      exact .ok []
  | cons t rest ih =>
      rw [tryAlternatives, Traced.outcome_bind]
      refine (attempt_located _).bind fun r _ => ?_
      rw [Traced.outcome_bind]
      exact ih.bind fun rs _ => .ok _

theorem chooseAlternative_located (hs : s.isNullable = false)
    (tries : List (Shape × Except Mismatch Value)) :
    Located F w s (chooseAlternative exact w s tries).outcome := by
  unfold chooseAlternative
  split
  · exact .refuse hs _
  · exact .ok _
  · dsimp only
    split
    · exact .refuse hs _
    · exact .ok _

/-! ### Whole values -/

theorem Model.assemble_located {m : Model} (values : List (String × Value)) :
    Located F w (.record m.ref) (m.assemble F w values) := by
  unfold assemble
  split
  · exact .ok _
  · exact .refuse rfl _
  · next f hmake =>
    rintro n ⟨⟩
    cases m.make_strays F values _ hmake

theorem record_located {ref : ModelRef}
    (hitem : ∀ key item, w.at? key = some item → ∀ t,
      Located F item t (decode F exact item t).outcome) :
    Located F w (.record ref) (decode F exact w (.record ref)).outcome := by
  rw [decode]
  split
  · exact .refuse rfl _
  · split
    · exact .ok _
    · next m hm =>
      split
      · rintro n ⟨⟩
      · next fields hfields =>
        have hdeclared : F.fields ref = .ok fields := by
          rw [Family.fields, hm]
          exact hfields
        have hvalues := decodeFields_located hdeclared (fun f hf => hf)
          fun f _ item hat => hitem f.wire item hat f.shape
        rw [Traced.outcome_bind]
        refine hvalues.bind fun values _ => ?_
        rw [← (Family.mem_of_find? hm).2]
        exact m.assemble_located values

theorem decode_located (F : Family) (exact : Bool) {w : Value} (s : Shape)
    (hw : w.HasDistinctKeys) : Located F w s (decode F exact w s).outcome := by
  -- The wire value gets smaller at items and entries, at null only the shape does.
  cases s with
  | primitive p =>
      rw [decode, Traced.outcome_of]
      exact p.accept_located
  | enumeration e =>
      rw [decode, Traced.outcome_of]
      exact e.accept_located.bind fun code _ => .ok _
  | any =>
      rw [decode, Traced.outcome_of]
      exact (checkJson_located hw).bind fun _ _ => .ok w
  | nullable inner =>
      have hinner := decode_located F exact inner hw
      rw [decode]
      split
      · exact .ok _
      · intro m hm
        obtain ⟨hfollow, hassigns⟩ := hinner m hm
        exact ⟨hfollow, .nullable hassigns⟩
  | sequence element =>
      cases w with
      | list xs =>
          have hitem : ∀ x ∈ xs, Located F x element (decode F exact x element).outcome :=
            fun x hx => decode_located F exact element (hw.item hx)
          rw [decode, Traced.outcome_bind]
          exact (decodeItems_located hitem (.list xs)).bind fun vs _ => .ok _
      | _ =>
          simp only [decode]
          exact .refuse rfl _
  | union alternatives =>
      rw [decode, Traced.outcome_bind]
      exact (tryAlternatives_located alternatives).bind fun tries _ =>
        chooseAlternative_located rfl tries
  | record ref =>
      have hentry : ∀ key item, w.at? key = some item → ∀ t,
          Located F item t (decode F exact item t).outcome :=
        fun key item hat t => decode_located F exact t (hw.entry hat)
      exact record_located hentry
termination_by (sizeOf w, sizeOf s)
decreasing_by
  · exact Prod.Lex.left _ _ (Value.sizeOf_lt_of_at? hat)
  all_goals subst_vars
  · exact Prod.Lex.left _ _ (Value.sizeOf_lt_of_mem hx)
  · exact Prod.Lex.right _ (by simp +arith)

/-! ### Responses -/

/-- The mismatch that a refusal tells of. -/
def Refusal.mismatch? : Refusal → Option Mismatch
  | .fault (.mismatch m) => some m
  | .violation m => some m
  | _ => none

namespace Registry

variable {R : Registry} {m : Method} {name : String} {e : Refusal} {n : Mismatch}

theorem getRequest_mismatch? (h : R.getRequest name = .error e) : e.mismatch? = none := by
  unfold getRequest get at h
  cases hfind : R.find? name with
  | none =>
      rw [hfind] at h
      cases h
      rfl
  | some m =>
      rw [hfind, ok_bind] at h
      split at h
      · cases h
      · cases h
        rfl

/-- A mismatch in a part of a response is where the response has it. -/
theorem part_located {key : String} {item : Value} {make : Value → Reply} (hw : w.HasDistinctKeys)
    (hat : w.at? key = some item)
    (h : ((underSegment (.key key) (decode F false item s).outcome).mapError m.refusal >>=
      fun v => .ok (make v)) = .error e) (hn : e.mismatch? = some n) :
    w.follow? n.path = some n.actual := by
  have hpart : w.part? (.key key) = some item := hat
  cases hdecode : (decode F false item s).outcome with
  | ok v =>
      rw [hdecode] at h
      cases h
  | error f =>
      rw [hdecode] at h
      cases h
      cases f with
      | mismatch n' =>
          cases hn
          exact (Value.follow?_cons hpart n'.path).trans
            (decode_located F false s (hw.entry hat) n' hdecode).1
      | _ => cases hn

/-- A refused response is refused for what is at the end of the path that is told. -/
theorem acceptResponse_located (hw : w.HasDistinctKeys)
    (h : (R.acceptResponse F name w).outcome = .error e) (hn : e.mismatch? = some n) :
    w.follow? n.path = some n.actual := by
  unfold acceptResponse at h
  rw [Traced.outcome_bind, Traced.outcome_of] at h
  cases hget : R.getRequest name with
  | error e' =>
      rw [hget] at h
      cases h
      rw [getRequest_mismatch? hget] at hn
      cases hn
  | ok found =>
      rw [hget, ok_bind] at h
      dsimp only at h
      split at h
      · cases h
        cases hn
        rfl
      · split at h
        · next hat _ =>
          rw [Traced.outcome_bind] at h
          exact part_located hw hat h hn
        · next hat =>
          rw [Traced.outcome_bind] at h
          exact part_located hw hat h hn
        · cases h
          cases hn
          rfl

end Registry

/-- The path of a mismatch leads from the whole value to the one that was found, and what was
expected there is what the shape assigns to the path. A response leads to what it is refused for. -/
theorem mismatches_located (F : Family) {w : Value} (hw : w.HasDistinctKeys) :
    (∀ exact s m, (decode F exact w s).outcome = .error (.mismatch m) →
      w.follow? m.path = some m.actual ∧ s.Assigns F m.path m.expected ∧
        (F.HasDistinctWires → ∀ t, s.Assigns F m.path t → t = m.expected)) ∧
      ∀ (R : Registry) name e m, (R.acceptResponse F name w).outcome = .error e →
        e.mismatch? = some m → w.follow? m.path = some m.actual := by
  refine ⟨fun exact s m hm => ?_, fun R name e m h hm => ?_⟩
  · obtain ⟨hfollow, hassigns⟩ := decode_located F exact s hw m hm
    exact ⟨hfollow, hassigns, fun hF t ht => ht.unique hF hassigns⟩
  · exact Registry.acceptResponse_located hw h hm

/-- Bytes within an item of any form are told by the way to them, where any form is expected. -/
theorem mismatches_located_bytes :
    (Value.list [.object [("data", .list [.null, .bytes [0]])]]).follow?
        [.index 0, .key "data", .index 1] = some (.bytes [0]) ∧
      (Shape.sequence .any).Assigns ⟨[]⟩ [.index 0, .key "data", .index 1] .any := by
  have hkeys : (Value.list [.object [("data", .list [.null, .bytes [0]])]]).HasDistinctKeys := by
    refine .list (List.forall_mem_singleton.2 (.object (List.nodup_singleton _) ?_))
    refine List.forall_mem_singleton.2 (.list fun x hx => .other ?_ ?_)
    · rcases hx with _ | ⟨_, _ | ⟨_, ⟨⟩⟩⟩ <;> rintro ys ⟨⟩
    · rcases hx with _ | ⟨_, _ | ⟨_, ⟨⟩⟩⟩ <;> rfl
  have hdecode : (decode ⟨[]⟩ false (.list [.object [("data", .list [.null, .bytes [0]])]])
      (.sequence .any)).outcome = .error (.mismatch
        ⟨.any, .bytes [0], .notJson "bytes", [.index 0, .key "data", .index 1], none⟩) := by
    rw [decode]
    simp only [decodeItems, decode]
    rfl
  obtain ⟨hfollow, hassigns, _⟩ := (mismatches_located ⟨[]⟩ hkeys).1 _ _ _ hdecode
  exact ⟨hfollow, hassigns⟩

end EditorProtocol
