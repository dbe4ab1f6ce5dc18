import EditorProtocol.Codec.Dump
import EditorProtocol.Proofs.Value.Json

/-!
The wire form of any value is JSON: members give way to their codes, keys to their texts, and
records to objects. Only bytes that are no text have none.
-/

namespace EditorProtocol

variable {F : Family}

theorem Value.ofScalar_json (c : Scalar) : (Value.ofScalar c).IsJson := by
  cases c <;> constructor

theorem Value.textOfBytes_json {bs : List UInt8} {w : Value} (h : Value.textOfBytes bs = .ok w) :
    w.IsJson := by
  unfold textOfBytes at h
  split at h
  · cases h
    exact .text _
  · cases h
  · cases h
    exact .text _

mutual

/-- Whatever is given, its wire form is JSON. -/
theorem dump_json (t : TypeExpr) (v : Value) {w : Value} (h : dump F t v = .ok w) : w.IsJson := by
  cases v with
  | null =>
      cases h
      exact .null
  | bool b =>
      cases h
      exact .bool b
  | int n =>
      cases h
      exact .int n
  | text s =>
      cases h
      exact .text s
  | float x =>
      cases h
      split
      · exact .float x
      · exact .null
  | bytes bs => exact Value.textOfBytes_json h
  | list xs =>
      obtain ⟨ws, hws, hw⟩ := bind_eq_ok.1 h
      cases hw
      exact .list (dumpAll_json t.element xs hws)
  | tuple xs =>
      obtain ⟨ws, hws, hw⟩ := bind_eq_ok.1 h
      cases hw
      exact .list (dumpAll_json .any xs hws)
  | set xs =>
      obtain ⟨ws, hws, hw⟩ := bind_eq_ok.1 h
      cases hw
      exact .list (dumpAll_json .any xs hws)
  | object es =>
      obtain ⟨ws, hws, hw⟩ := bind_eq_ok.1 h
      cases hw
      exact .object (dumpEntries_json es hws)
  | table es =>
      obtain ⟨ws, hws, hw⟩ := bind_eq_ok.1 h
      cases hw
      exact .object (dumpRows_json es hws)
  | member m =>
      cases h
      exact Value.ofScalar_json m.code
  | record own slots =>
      obtain ⟨ws, hws, hw⟩ := bind_eq_ok.1 h
      cases hw
      exact .object (dumpSlots_json _ slots hws)
termination_by structural v

theorem dumpAll_json (t : TypeExpr) (xs : List Value) {ws : List Value}
    (h : dumpAll F t xs = .ok ws) : ∀ w ∈ ws, w.IsJson := by
  cases xs with
  | nil =>
      cases h
      exact List.forall_mem_nil _
  | cons x rest =>
      obtain ⟨w, hw, h⟩ := bind_eq_ok.1 h
      obtain ⟨others, hothers, h⟩ := bind_eq_ok.1 h
      cases h
      exact List.forall_mem_cons.2 ⟨dump_json t x hw, dumpAll_json t rest hothers⟩
termination_by structural xs

theorem dumpEntries_json (es : List (String × Value)) {ws : List (String × Value)}
    (h : dumpEntries F es = .ok ws) : ∀ e ∈ ws, e.2.IsJson := by
  cases es with
  | nil =>
      cases h
      exact List.forall_mem_nil _
  | cons e rest =>
      obtain ⟨k, x⟩ := e
      obtain ⟨w, hw, h⟩ := bind_eq_ok.1 h
      obtain ⟨others, hothers, h⟩ := bind_eq_ok.1 h
      cases h
      exact List.forall_mem_cons.2 ⟨dump_json .any x hw, dumpEntries_json rest hothers⟩
termination_by structural es

theorem dumpRows_json (es : List (Value × Value)) {ws : List (String × Value)}
    (h : dumpRows F es = .ok ws) : ∀ e ∈ ws, e.2.IsJson := by
  cases es with
  | nil =>
      cases h
      exact List.forall_mem_nil _
  | cons e rest =>
      obtain ⟨k, x⟩ := e
      obtain ⟨w, hw, h⟩ := bind_eq_ok.1 h
      obtain ⟨others, hothers, h⟩ := bind_eq_ok.1 h
      cases h
      exact List.forall_mem_cons.2 ⟨dump_json .any x hw, dumpRows_json rest hothers⟩
termination_by structural es

theorem dumpSlots_json (fields : List FieldDecl) (ss : List (Slot Value))
    {ws : List (String × Value)} (h : dumpSlots F fields ss = .ok ws) : ∀ e ∈ ws, e.2.IsJson := by
  cases ss with
  | nil =>
      cases h
      exact List.forall_mem_nil _
  | cons s rest =>
      obtain ⟨name, x, origin⟩ := s
      rw [dumpSlots] at h
      split at h
      · next d _ _ =>
        obtain ⟨w, hw, h⟩ := bind_eq_ok.1 h
        obtain ⟨others, hothers, h⟩ := bind_eq_ok.1 h
        cases h
        exact List.forall_mem_cons.2 ⟨dump_json d.type x hw, dumpSlots_json fields rest hothers⟩
      · exact dumpSlots_json fields rest h
termination_by structural ss

end

/-! ### Bytes -/

/-- There are bytes in a value that are no text. -/
def Value.Garbles (v : Value) (f : Fault) : Prop :=
  ∃ bs, v.Contains (.bytes bs) ∧ Value.textOfBytes bs = .error f

theorem Value.Garbles.part {v p : Value} {f : Fault} (mem : p ∈ v.parts) (h : p.Garbles f) :
    v.Garbles f :=
  h.imp fun _ hbs => ⟨.part mem hbs.1, hbs.2⟩

mutual

/-- A value without a wire form has bytes in it that are no text. -/
theorem dump_garbled (t : TypeExpr) (v : Value) {f : Fault} (h : dump F t v = .error f) :
    v.Garbles f := by
  cases v with
  | bytes bs => exact ⟨bs, .refl _, h⟩
  | list xs =>
      rcases bind_error_inv h with h | ⟨_, _, ⟨⟩⟩
      obtain ⟨x, hx, hgarbles⟩ := dumpAll_garbled t.element xs h
      exact hgarbles.part hx
  | tuple xs =>
      rcases bind_error_inv h with h | ⟨_, _, ⟨⟩⟩
      obtain ⟨x, hx, hgarbles⟩ := dumpAll_garbled .any xs h
      exact hgarbles.part hx
  | set xs =>
      rcases bind_error_inv h with h | ⟨_, _, ⟨⟩⟩
      obtain ⟨x, hx, hgarbles⟩ := dumpAll_garbled .any xs h
      exact hgarbles.part hx
  | object es =>
      rcases bind_error_inv h with h | ⟨_, _, ⟨⟩⟩
      obtain ⟨e, he, hgarbles⟩ := dumpEntries_garbled es h
      exact hgarbles.part (List.mem_map_of_mem he)
  | table rows =>
      rcases bind_error_inv h with h | ⟨_, _, ⟨⟩⟩
      obtain ⟨r, hr, hgarbles⟩ := dumpRows_garbled rows h
      exact hgarbles.part (List.mem_map_of_mem hr)
  | record own slots =>
      rcases bind_error_inv h with h | ⟨_, _, ⟨⟩⟩
      obtain ⟨s, hs, hgarbles⟩ := dumpSlots_garbled _ slots h
      exact hgarbles.part (List.mem_map_of_mem hs)
  | _ => cases h
termination_by structural v

theorem dumpAll_garbled (t : TypeExpr) (xs : List Value) {f : Fault}
    (h : dumpAll F t xs = .error f) : ∃ x ∈ xs, x.Garbles f := by
  cases xs with
  | nil => cases h
  | cons x rest =>
      rcases bind_error_inv h with h | ⟨_, _, h⟩
      · exact ⟨x, .head _, dump_garbled t x h⟩
      · rcases bind_error_inv h with h | ⟨_, _, ⟨⟩⟩
        obtain ⟨y, hy, hgarbles⟩ := dumpAll_garbled t rest h
        exact ⟨y, .tail x hy, hgarbles⟩
termination_by structural xs

theorem dumpEntries_garbled (es : List (String × Value)) {f : Fault}
    (h : dumpEntries F es = .error f) : ∃ e ∈ es, e.2.Garbles f := by
  cases es with
  | nil => cases h
  | cons e rest =>
      obtain ⟨k, x⟩ := e
      rcases bind_error_inv h with h | ⟨_, _, h⟩
      · exact ⟨(k, x), .head _, dump_garbled .any x h⟩
      · rcases bind_error_inv h with h | ⟨_, _, ⟨⟩⟩
        obtain ⟨y, hy, hgarbles⟩ := dumpEntries_garbled rest h
        exact ⟨y, .tail _ hy, hgarbles⟩
termination_by structural es

theorem dumpRows_garbled (rows : List (Value × Value)) {f : Fault}
    (h : dumpRows F rows = .error f) : ∃ r ∈ rows, r.2.Garbles f := by
  cases rows with
  | nil => cases h
  | cons r rest =>
      obtain ⟨k, x⟩ := r
      rcases bind_error_inv h with h | ⟨_, _, h⟩
      · exact ⟨(k, x), .head _, dump_garbled .any x h⟩
      · rcases bind_error_inv h with h | ⟨_, _, ⟨⟩⟩
        obtain ⟨y, hy, hgarbles⟩ := dumpRows_garbled rest h
        exact ⟨y, .tail _ hy, hgarbles⟩
termination_by structural rows

theorem dumpSlots_garbled (fields : List FieldDecl) (ss : List (Slot Value)) {f : Fault}
    (h : dumpSlots F fields ss = .error f) : ∃ s ∈ ss, s.value.Garbles f := by
  cases ss with
  | nil => cases h
  | cons s rest =>
      obtain ⟨name, x, origin⟩ := s
      have hrest : dumpSlots F fields rest = .error f →
          ∃ s ∈ (⟨name, x, origin⟩ : Slot Value) :: rest, s.value.Garbles f := fun h => by
        obtain ⟨s, hs, hgarbles⟩ := dumpSlots_garbled fields rest h
        exact ⟨s, .tail _ hs, hgarbles⟩
      rw [dumpSlots] at h
      split at h
      · next d _ _ =>
        rcases bind_error_inv h with h | ⟨_, _, h⟩
        · exact ⟨⟨name, x, origin⟩, .head _, dump_garbled d.type x h⟩
        · rcases bind_error_inv h with h | ⟨_, _, ⟨⟩⟩
          exact hrest h
      · exact hrest h
termination_by structural ss

end

end EditorProtocol
