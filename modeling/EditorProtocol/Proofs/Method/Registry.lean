import Mathlib.Data.List.Nodup
import EditorProtocol.Method.Envelope
import EditorProtocol.Proofs.Codec.Outcome

/-!
Methods that a registry finds. Only requests have replies, and the methods of notifications have
none.
-/

namespace EditorProtocol.Registry

variable {R : Registry} {m : Method} {replies : Replies} {name : String}

theorem get_ok_iff : R.get name = .ok m ↔ R.find? name = some m := by
  unfold get
  cases R.find? name with
  | none => simp
  | some n => simp

theorem getRequest_ok_iff :
    R.getRequest name = .ok (m, replies) ↔
      R.find? name = some m ∧ m.replies = some replies := by
  unfold getRequest
  rw [bind_eq_ok]
  constructor
  · rintro ⟨n, hn, h⟩
    rw [get_ok_iff] at hn
    cases hreplies : n.replies with
    | none =>
        rw [hreplies] at h
        cases h
    | some r =>
        rw [hreplies] at h
        cases h
        exact ⟨hn, hreplies⟩
  · rintro ⟨hm, hreplies⟩
    refine ⟨m, get_ok_iff.2 hm, ?_⟩
    rw [hreplies]

theorem getNotification_ok_iff :
    R.getNotification name = .ok m ↔ R.find? name = some m ∧ m.isRequest = false := by
  unfold getNotification
  rw [bind_eq_ok]
  constructor
  · rintro ⟨n, hn, h⟩
    rw [get_ok_iff] at hn
    split at h
    · cases h
    · next hrequest =>
      cases h
      exact ⟨hn, Bool.eq_false_iff.2 hrequest⟩
  · rintro ⟨hm, hrequest⟩
    refine ⟨m, get_ok_iff.2 hm, ?_⟩
    rw [hrequest]
    rfl

/-- A method that is found is registered. -/
theorem mem_of_find? (h : R.find? name = some m) : m ∈ R.methods :=
  List.mem_of_find?_eq_some h

/-- A registered method is found under its own name. -/
theorem find?_name (h : R.find? name = some m) : m.name = name :=
  beq_iff_eq.1 (List.find?_some (p := fun n : Method => n.name == name) h)

/-- A method is found by its name if no other one has it. -/
theorem find?_of_mem (nodup : (R.methods.map (·.name)).Nodup) (hm : m ∈ R.methods) :
    R.find? m.name = some m := by
  unfold find?
  cases hfind : R.methods.find? (·.name == m.name) with
  | none => exact absurd (beq_self_eq_true m.name) (List.find?_eq_none.1 hfind m hm)
  | some n =>
      have hname := List.find?_some hfind
      have hn := List.mem_of_find?_eq_some hfind
      rw [List.inj_on_of_nodup_map nodup hn hm (beq_iff_eq.1 hname)]

end EditorProtocol.Registry
