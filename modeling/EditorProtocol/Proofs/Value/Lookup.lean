import EditorProtocol.Value.Basic

/-!
Entries of objects and attributes of records that were made from a list: a key that no two members
of the list share finds what its member gave. Then what a value is made of: the items of lists,
tuples and sets, the values of dictionaries, and the attributes of records, with all that these are
made of.
-/

namespace EditorProtocol.Value

section Entries

variable {α : Type} {key : α → String} {given : α → Option Value}

theorem lookup_filterMap_of_not_mem {xs : List α} {k : String} (hk : k ∉ xs.map key) :
    lookup (xs.filterMap fun x => (given x).map (key x, ·)) k = none := by
  induction xs with
  | nil => rfl
  | cons x xs ih =>
      rw [List.map_cons, List.mem_cons, not_or] at hk
      rw [List.filterMap_cons]
      cases given x with
      | none => exact ih hk.2
      | some v =>
          show (if key x = k then some v else _) = none
          rw [if_neg (Ne.symm hk.1)]
          exact ih hk.2

theorem lookup_filterMap {xs : List α} (nodup : (xs.map key).Nodup) {x : α} (hx : x ∈ xs) :
    lookup (xs.filterMap fun x => (given x).map (key x, ·)) (key x) = given x := by
  induction xs with
  | nil => cases hx
  | cons y ys ih =>
      rw [List.map_cons, List.nodup_cons] at nodup
      rw [List.filterMap_cons]
      rcases List.mem_cons.1 hx with rfl | hx
      · cases hgiven : given x with
        | none => exact lookup_filterMap_of_not_mem nodup.1
        | some v => exact if_pos rfl
      · have hne : key y ≠ key x := fun h => nodup.1 (h ▸ List.mem_map_of_mem hx)
        cases given y with
        | none => exact ih nodup.2 hx
        | some v =>
            show (if key y = key x then some v else _) = given x
            rw [if_neg hne]
            exact ih nodup.2 hx

/-- An entry that is found was given by the member of its key. -/
theorem mem_of_lookup_filterMap {xs : List α} {k : String} {v : Value}
    (h : lookup (xs.filterMap fun x => (given x).map (key x, ·)) k = some v) :
    ∃ x ∈ xs, key x = k ∧ given x = some v := by
  induction xs with
  | nil => cases h
  | cons x xs ih =>
      rw [List.filterMap_cons] at h
      cases hgiven : given x with
      | none =>
          rw [hgiven] at h
          obtain ⟨y, hy, hkey, hv⟩ := ih h
          exact ⟨y, List.mem_cons_of_mem x hy, hkey, hv⟩
      | some u =>
          rw [hgiven] at h
          change (if key x = k then some u else _) = some v at h
          split at h
          · next hkey => exact ⟨x, List.mem_cons_self, hkey, hgiven.trans h⟩
          · obtain ⟨y, hy, hkey, hv⟩ := ih h
            exact ⟨y, List.mem_cons_of_mem x hy, hkey, hv⟩

end Entries

theorem mem_of_lookup {entries : List (String × Value)} {key : String} {v : Value}
    (h : lookup entries key = some v) : (key, v) ∈ entries := by
  induction entries with
  | nil => cases h
  | cons e rest ih =>
      obtain ⟨k, w⟩ := e
      simp only [lookup] at h
      split at h
      · next hkey =>
        cases h
        rw [hkey]
        exact List.mem_cons_self
      · exact List.mem_cons_of_mem _ (ih h)

theorem mem_of_lookupText {rows : List (Value × Value)} {key : String} {v : Value}
    (h : lookupText rows key = some v) : ∃ k, (k, v) ∈ rows := by
  induction rows with
  | nil => cases h
  | cons r rest ih =>
      obtain ⟨k, w⟩ := r
      simp only [lookupText] at h
      split at h
      · cases h
        exact ⟨k, List.mem_cons_self⟩
      · obtain ⟨k', hmem⟩ := ih h
        exact ⟨k', List.mem_cons_of_mem _ hmem⟩

theorem lookup_of_mem {entries : List (String × Value)} (nodup : (entries.map (·.1)).Nodup)
    {e : String × Value} (he : e ∈ entries) : lookup entries e.1 = some e.2 := by
  induction entries with
  | nil => cases he
  | cons first rest ih =>
      rw [List.map_cons, List.nodup_cons] at nodup
      rw [lookup]
      rcases List.mem_cons.1 he with rfl | he
      · rw [if_pos rfl]
      · have hne : first.1 ≠ e.1 := fun h => nodup.1 (h ▸ List.mem_map_of_mem he)
        rw [if_neg hne]
        exact ih nodup.2 he

theorem lookupText_of_mem {rows : List (Value × Value)}
    (nodup : (rows.filterMap (·.1.text?)).Nodup) {r : Value × Value} (hr : r ∈ rows)
    {key : String} (hkey : r.1.text? = some key) : lookupText rows key = some r.2 := by
  induction rows with
  | nil => cases hr
  | cons first rest ih =>
      rw [lookupText]
      rcases List.mem_cons.1 hr with rfl | hr
      · rw [if_pos hkey]
      · have hmem : key ∈ rest.filterMap (·.1.text?) := List.mem_filterMap.2 ⟨r, hr, hkey⟩
        cases hfirst : first.1.text? with
        | none =>
            rw [List.filterMap_cons, hfirst] at nodup
            rw [if_neg (Option.some_ne_none key).symm]
            exact ih nodup hr
        | some other =>
            rw [List.filterMap_cons, hfirst, List.nodup_cons] at nodup
            have hne : some other ≠ some key := fun h => nodup.1 (Option.some.inj h ▸ hmem)
            rw [if_neg hne]
            exact ih nodup.2 hr

/-! ### Attributes -/

theorem mem_of_slot? {slots : List (Slot Value)} {name : String} {s : Slot Value}
    (h : slot? slots name = some s) : s ∈ slots ∧ s.name = name := by
  induction slots with
  | nil => cases h
  | cons t rest ih =>
      simp only [slot?] at h
      split at h
      · next hname =>
        cases h
        exact ⟨List.mem_cons_self, hname⟩
      · obtain ⟨hmem, hname⟩ := ih h
        exact ⟨List.mem_cons_of_mem t hmem, hname⟩

theorem exists_slot? {slots : List (Slot Value)} {name : String}
    (h : ∃ s ∈ slots, s.name = name) : ∃ s, slot? slots name = some s := by
  induction slots with
  | nil =>
      obtain ⟨s, hs, _⟩ := h
      cases hs
  | cons t rest ih =>
      by_cases hname : t.name = name
      · exact ⟨t, if_pos hname⟩
      · obtain ⟨s, hs, hfound⟩ := h
        obtain ⟨u, hu⟩ := ih ⟨s, (List.mem_cons.1 hs).resolve_left fun heq => hname (heq ▸ hfound),
          hfound⟩
        refine ⟨u, ?_⟩
        show (if t.name = name then some t else slot? rest name) = some u
        rw [if_neg hname]
        exact hu

section Attributes

variable {α : Type} {key : α → String}

theorem slot?_filterMap_of_not_mem {xs : List α} {slot : α → Option (Slot Value)} {name : String}
    (names : ∀ x s, slot x = some s → s.name = key x) (hname : name ∉ xs.map key) :
    slot? (xs.filterMap slot) name = none := by
  induction xs with
  | nil => rfl
  | cons x xs ih =>
      rw [List.map_cons, List.mem_cons, not_or] at hname
      rw [List.filterMap_cons]
      cases hslot : slot x with
      | none => exact ih hname.2
      | some s =>
          show (if s.name = name then some s else _) = none
          rw [names x s hslot, if_neg (Ne.symm hname.1)]
          exact ih hname.2

/-- The attribute that a list of slots has for a member that may have given one. -/
theorem slot?_filterMap {xs : List α} {slot : α → Option (Slot Value)}
    (names : ∀ x s, slot x = some s → s.name = key x) (nodup : (xs.map key).Nodup) {x : α}
    (hx : x ∈ xs) : slot? (xs.filterMap slot) (key x) = slot x := by
  induction xs with
  | nil => cases hx
  | cons y ys ih =>
      rw [List.map_cons, List.nodup_cons] at nodup
      rw [List.filterMap_cons]
      rcases List.mem_cons.1 hx with rfl | hx
      · cases hslot : slot x with
        | none => exact slot?_filterMap_of_not_mem names nodup.1
        | some s => exact if_pos (names x s hslot)
      · have hne : key y ≠ key x := fun h => nodup.1 (h ▸ List.mem_map_of_mem hx)
        cases hslot : slot y with
        | none => exact ih nodup.2 hx
        | some s =>
            show (if s.name = key x then some s else _) = slot x
            rw [names y s hslot, if_neg hne]
            exact ih nodup.2 hx

/-- The attribute that a list of slots, one for each member of a list, has for a member. -/
theorem slot?_map {xs : List α} {slot : α → Slot Value} (names : ∀ x, (slot x).name = key x)
    (nodup : (xs.map key).Nodup) {x : α} (hx : x ∈ xs) :
    slot? (xs.map slot) (key x) = some (slot x) := by
  rw [← List.filterMap_eq_map]
  refine slot?_filterMap (fun y s hs => ?_) nodup hx
  cases hs
  exact names y

end Attributes

/-! ### Parts -/

/-- The values that a value is made of directly. -/
def parts : Value → List Value
  | .list xs => xs
  | .tuple xs => xs
  | .set xs => xs
  | .object es => es.map (·.2)
  | .table rows => rows.map (·.2)
  | .record _ slots => slots.map (·.value)
  | _ => []

theorem sizeOf_lt_of_part {v p : Value} (mem : p ∈ v.parts) : sizeOf p < sizeOf v := by
  cases v with
  | list xs | tuple xs | set xs =>
      have : sizeOf p < sizeOf xs := List.sizeOf_lt_of_mem mem
      simp +arith only [list.sizeOf_spec, tuple.sizeOf_spec, set.sizeOf_spec]
      omega
  | object es =>
      obtain ⟨⟨k, u⟩, hmem, rfl⟩ := List.mem_map.1 mem
      have := List.sizeOf_lt_of_mem hmem
      simp only [object.sizeOf_spec, Prod.mk.sizeOf_spec] at *
      omega
  | table rows =>
      obtain ⟨⟨k, u⟩, hmem, rfl⟩ := List.mem_map.1 mem
      have := List.sizeOf_lt_of_mem hmem
      simp only [table.sizeOf_spec, Prod.mk.sizeOf_spec] at *
      omega
  | record own slots =>
      obtain ⟨⟨name, u, origin⟩, hmem, rfl⟩ := List.mem_map.1 mem
      have := List.sizeOf_lt_of_mem hmem
      simp only [record.sizeOf_spec, Slot.mk.sizeOf_spec] at *
      omega
  | _ => cases mem

/-- A value is in another one, which may be itself. -/
inductive Contains : Value → Value → Prop
  | refl (v : Value) : Contains v v
  | part {v p u : Value} (mem : p ∈ v.parts) (inside : Contains p u) : Contains v u

/-- A record is in another record if it is that record, or in one of its attributes. -/
theorem Contains.record_inv {own : ModelRef} {slots : List (Slot Value)} {u : Value}
    (h : Contains (.record own slots) u) :
    u = .record own slots ∨ ∃ s ∈ slots, Contains s.value u := by
  cases h with
  | refl => exact .inl rfl
  | part mem inside =>
      obtain ⟨s, hs, rfl⟩ := List.mem_map.1 mem
      exact .inr ⟨s, hs, inside⟩

end EditorProtocol.Value
