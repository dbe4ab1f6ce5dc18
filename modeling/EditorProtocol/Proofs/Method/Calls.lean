import Mathlib.Data.Finset.Card
import EditorProtocol.Proofs.Method.Registry
import EditorProtocol.Proofs.Shape.Finite

/-!
Registries under calls. Whatever is called, and whether it succeeds or not, the methods of a
registry have distinct names, are in the order in which they were registered, and have payloads
with finite values; all ways to look for a method find the same. A call that fails changes nothing,
and nothing changes a registry that was frozen.
-/

namespace EditorProtocol

variable {F : Family} {R S : Registry} {m : Method}

namespace Method

/-- A text that begins with another one is not empty if that one is not. -/
theorem append_ne_empty {s : String} (h : s ≠ "") (t : String) : s ++ t ≠ "" :=
  fun heq => h (String.append_eq_empty_iff.1 heq).1

/-- A name that is declared is not empty. -/
theorem declaredName_ne {v : Value} {name : String} (h : declaredName v = .ok name) :
    name ≠ "" := by
  unfold declaredName at h
  split at h
  · split at h
    · cases h
    · next hne =>
      cases h
      rintro rfl
      exact hne rfl
  · cases h
  · cases h
  · cases h
  · next hname hcount hchanging =>
    cases h
    -- Of the values that are no names, only bytes and tuples have a length and do not change.
    cases v with
    | bytes bs => exact fun heq => by cases String.ofList_inj.1 heq
    | tuple xs =>
        have hplain : (Value.tuple xs).plain =
            "(" ++ (", ".intercalate (Value.renderAll xs) ++
              ((if true && (Value.renderAll xs).length == 1 then "," else "") ++ ")")) := by
          rw [Value.plain, Value.render, Value.bracketed, String.append_assoc, String.append_assoc]
          all_goals nofun
        rw [hplain]
        exact append_ne_empty (by decide) _
    | text s => cases hname
    | member m => cases hname
    | list xs => cases hchanging
    | set xs => cases hchanging
    | object es => cases hchanging
    | table es => cases hchanging
    | _ => cases hcount

/-- A value names a method under what it is the name. -/
theorem nameOf_ok_iff {v : Value} {name : String} :
    nameOf v = .ok name ↔ nameOf? v = some name := by
  unfold nameOf
  cases nameOf? v with
  | some n => simp
  | none => cases v.changing? <;> simp

end Method

/-- A call on a registry. -/
inductive RegistryCall where
  /-- The registration of a method with shapes of its payloads. -/
  | register (name : Value) (direction : Direction) (params result error : Option Shape)
  /-- The registration of a request with types of its payloads. -/
  | request (name : Value) (params result error : TypeExpr)
  | notification (name : Value) (params : TypeExpr)
  | freeze

namespace RegistryCall

/-- What a call declares: a request with the shapes of its result and its error, or a notification,
which has neither. -/
inductive Declares : RegistryCall → Method → Prop
  | register_request {v : Value} {name : String} (params : Option Shape) (result error : Shape)
      (named : Method.declaredName v = .ok name) :
      Declares (.register v .request params (some result) (some error))
        ⟨name, params, some ⟨result, error⟩⟩
  | register_notification {v : Value} {name : String} (params : Option Shape)
      (named : Method.declaredName v = .ok name) :
      Declares (.register v .notification params none none) ⟨name, params, none⟩
  | request {v : Value} {name : String} {params result error : TypeExpr} {p r e : Shape}
      (named : Method.declaredName v = .ok name) (params_eq : params.shape = .ok p)
      (result_eq : result.shape = .ok r) (error_eq : error.shape = .ok e) :
      Declares (.request v params result error) ⟨name, some p, some ⟨r, e⟩⟩
  | notification {v : Value} {name : String} {params : TypeExpr} {p : Shape}
      (named : Method.declaredName v = .ok name) (params_eq : params.shape = .ok p) :
      Declares (.notification v params) ⟨name, some p, none⟩

theorem Declares.named {c : RegistryCall} (h : c.Declares m) : m.name ≠ "" := by
  cases h with
  | register_request _ _ _ named => exact Method.declaredName_ne named
  | register_notification _ named => exact Method.declaredName_ne named
  | request named => exact Method.declaredName_ne named
  | notification named => exact Method.declaredName_ne named

/-- Whether a call is to register a method. -/
def registers : RegistryCall → Bool
  | .freeze => false
  | _ => true

end RegistryCall

namespace Registry

/-- A call on a registry: the registry that it makes, or why it fails. -/
def perform (F : Family) (R : Registry) : RegistryCall → Except RegistrationError Registry
  | .register name direction params result error => do
    R.register F (← Method.declare name direction params result error)
  | .request name params result error => R.request F name params result error
  | .notification name params => R.notification F name params
  | .freeze => .ok R.freeze

/-- A registry after a call, which may have failed. -/
def after (F : Family) (R : Registry) (c : RegistryCall) : Registry :=
  match R.perform F c with
  | .ok S => S
  | .error _ => R

/-- A registry after all calls. -/
def run (F : Family) (R : Registry) (cs : List RegistryCall) : Registry := cs.foldl (after F) R

theorem checkShapes_inv {shapes : List Shape} (h : checkShapes F shapes = .ok ()) :
    ∀ s ∈ shapes, F.checkAcyclic s = .ok () := by
  induction shapes with
  | nil => exact nofun
  | cons s rest ih =>
      rw [checkShapes] at h
      obtain ⟨_, hs, h⟩ := bind_eq_ok.1 h
      exact List.forall_mem_cons.2 ⟨mapError_ok_iff.1 hs, ih h⟩

/-- A method is registered only if the registry is open, has none of its name, and the payloads of
the method have finite values. -/
theorem register_inv (h : R.register F m = .ok S) :
    R.isFrozen = false ∧ R.contains m.name = false ∧ (∀ s ∈ m.shapes, F.checkAcyclic s = .ok ()) ∧
      S = { R with methods := R.methods ++ [m] } := by
  unfold register at h
  split at h
  · cases h
  · next hfrozen =>
    split at h
    · cases h
    · next hcontains =>
      obtain ⟨_, hshapes, h⟩ := bind_eq_ok.1 h
      cases h
      exact ⟨Bool.eq_false_iff.2 hfrozen, Bool.eq_false_iff.2 hcontains, checkShapes_inv hshapes,
        rfl⟩

theorem declare_inv {v : Value} {d : Direction} {params result error : Option Shape}
    (h : Method.declare v d params result error = .ok m) :
    (RegistryCall.register v d params result error).Declares m := by
  unfold Method.declare at h
  obtain ⟨name, hname, h⟩ := bind_eq_ok.1 h
  obtain ⟨replies, hreplies, h⟩ := bind_eq_ok.1 h
  cases h
  unfold Method.declaredReplies at hreplies
  split at hreplies
  · cases hreplies
    exact .register_request params _ _ hname
  · cases hreplies
  · cases hreplies
    exact .register_notification params hname
  · cases hreplies

/-- A call that succeeds is the registration of the method that it declares, or freezes. -/
theorem perform_inv {c : RegistryCall} (h : R.perform F c = .ok S) :
    (c.registers = true ∧ ∃ m, c.Declares m ∧ R.register F m = .ok S) ∨
      c.registers = false ∧ S = R.freeze := by
  cases c with
  | register v d params result error =>
      obtain ⟨m, hm, h⟩ := bind_eq_ok.1 h
      exact .inl ⟨rfl, m, declare_inv hm, h⟩
  | request v params result error =>
      obtain ⟨m, hm, h⟩ := bind_eq_ok.1 h
      unfold requestOf at hm
      obtain ⟨p, hp, hm⟩ := bind_eq_ok.1 hm
      obtain ⟨r, hr, hm⟩ := bind_eq_ok.1 hm
      obtain ⟨e, he, hm⟩ := bind_eq_ok.1 hm
      refine .inl ⟨rfl, m, ?_, h⟩
      cases declare_inv hm with
      | register_request _ _ _ named =>
          exact .request named (mapError_ok_iff.1 hp) (mapError_ok_iff.1 hr)
            (mapError_ok_iff.1 he)
  | notification v params =>
      obtain ⟨m, hm, h⟩ := bind_eq_ok.1 h
      unfold notificationOf at hm
      obtain ⟨p, hp, hm⟩ := bind_eq_ok.1 hm
      refine .inl ⟨rfl, m, ?_, h⟩
      cases declare_inv hm with
      | register_notification _ named => exact .notification named (mapError_ok_iff.1 hp)
  | freeze => exact .inr ⟨rfl, (Except.ok.inj h).symm⟩

/-! ### The invariant -/

/-- What holds of a registry at any time. -/
structure Sound (F : Family) (R : Registry) : Prop where
  distinct : (R.methods.map (·.name)).Nodup
  named : ∀ m ∈ R.methods, m.name ≠ ""
  /-- No record in a payload requires itself without end. -/
  finite : ∀ m ∈ R.methods, ∀ s ∈ m.shapes, ∀ ref, F.Reaches s (.record ref) →
    F.HasFinite (.record ref)

theorem sound_empty (F : Family) (name version : String) : (empty name version).Sound F :=
  ⟨.nil, nofun, nofun⟩

/-- A name that a registry does not contain is the name of none of its methods. -/
theorem ne_of_contains {name : String} (h : R.contains name = false) :
    ∀ m ∈ R.methods, m.name ≠ name := by
  intro m hm heq
  have hnone : R.find? name = none := Option.isSome_eq_false_iff.1 h |> Option.isNone_iff_eq_none.1
  exact List.find?_eq_none.1 hnone m hm (beq_iff_eq.2 heq)

/-- A registration keeps the invariant. -/
theorem Sound.register (hR : R.Sound F) (hm : m.name ≠ "") (h : R.register F m = .ok S) :
    S.Sound F := by
  obtain ⟨_, hcontains, hshapes, rfl⟩ := register_inv h
  constructor
  · rw [List.map_append, List.map_singleton]
    refine List.Nodup.append hR.distinct (List.nodup_singleton _) fun name hname heq => ?_
    obtain ⟨n, hn, rfl⟩ := List.mem_map.1 hname
    exact ne_of_contains hcontains n hn (List.mem_singleton.1 heq)
  · exact List.forall_mem_append.2 ⟨hR.named, List.forall_mem_singleton.2 hm⟩
  · refine List.forall_mem_append.2 ⟨hR.finite, List.forall_mem_singleton.2 fun s hs ref => ?_⟩
    exact Family.hasFinite_of_checkAcyclic (hshapes s hs)

/-- What a call leaves of a registry: as it was if the call fails, with one more method, which the
call declares, if it registers one, and frozen otherwise. -/
theorem after_cases (F : Family) (R : Registry) (c : RegistryCall) :
    (∃ e, R.perform F c = .error e ∧ R.after F c = R) ∨
      (∃ m S, R.perform F c = .ok S ∧ R.after F c = S ∧ c.registers = true ∧ c.Declares m ∧
        R.register F m = .ok S) ∨
      R.perform F c = .ok R.freeze ∧ R.after F c = R.freeze ∧ c.registers = false := by
  unfold after
  cases h : R.perform F c with
  | error e => exact .inl ⟨e, rfl, rfl⟩
  | ok S =>
      rcases perform_inv h with ⟨hregisters, m, hm, hregister⟩ | ⟨hregisters, rfl⟩
      · exact .inr (.inl ⟨m, S, rfl, rfl, hregisters, hm, hregister⟩)
      · exact .inr (.inr ⟨rfl, rfl, hregisters⟩)

theorem Sound.after (hR : R.Sound F) (c : RegistryCall) : (R.after F c).Sound F := by
  rcases R.after_cases F c with ⟨e, _, hafter⟩ | ⟨m, S, _, hafter, _, hm, hregister⟩ |
    ⟨_, hafter, _⟩
  · rw [hafter]
    exact hR
  · rw [hafter]
    exact hR.register hm.named hregister
  · rw [hafter]
    exact ⟨hR.distinct, hR.named, hR.finite⟩

/-- The invariant holds after any calls. -/
theorem Sound.run (hR : R.Sound F) (cs : List RegistryCall) : (R.run F cs).Sound F := by
  induction cs generalizing R with
  | nil => exact hR
  | cons c rest ih => exact ih (hR.after c)

/-- All ways to look for a method, and to count the methods, agree on the same methods. -/
structure Agrees (R : Registry) : Prop where
  find : ∀ name m, R.find? name = some m ↔ m ∈ R.methods ∧ m.name = name
  get : ∀ name m, R.get name = .ok m ↔ m ∈ R.methods ∧ m.name = name
  lookup : ∀ v m, R.lookup v = .ok (some m) ↔
    ∃ name, Method.nameOf? v = some name ∧ m ∈ R.methods ∧ m.name = name
  contains : ∀ name, R.contains name = true ↔ ∃ m ∈ R.methods, m.name = name
  size : R.size = (R.methods.map (·.name)).toFinset.card

theorem Sound.agrees (hR : R.Sound F) : R.Agrees := by
  have hfind : ∀ name m, R.find? name = some m ↔ m ∈ R.methods ∧ m.name = name := by
    intro name m
    constructor
    · intro h
      exact ⟨mem_of_find? h, find?_name h⟩
    · rintro ⟨hm, rfl⟩
      exact find?_of_mem hR.distinct hm
  constructor
  · exact hfind
  · exact fun name m => get_ok_iff.trans (hfind name m)
  · intro v m
    unfold lookup
    cases hname : Method.nameOf v with
    | ok name =>
        have hvalue := Method.nameOf_ok_iff.1 hname
        simp only [Except.ok.injEq, hfind, hvalue, Option.some.injEq]
        exact ⟨fun h => ⟨name, rfl, h⟩, fun ⟨_, heq, h⟩ => heq ▸ h⟩
    | error e =>
        have hnone : ∀ name, Method.nameOf? v ≠ some name := fun name h => by
          rw [Method.nameOf_ok_iff.2 h] at hname
          cases hname
        refine ⟨fun h => ?_, fun ⟨name, h, _⟩ => absurd h (hnone name)⟩
        cases e <;> cases h
  · intro name
    rw [Registry.contains, Option.isSome_iff_exists]
    exact exists_congr fun m => hfind name m
  · rw [List.toFinset_card_of_nodup hR.distinct, List.length_map]
    rfl

end Registry

end EditorProtocol
