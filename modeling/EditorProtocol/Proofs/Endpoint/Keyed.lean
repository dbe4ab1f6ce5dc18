import Mathlib.Data.List.Nodup
import Mathlib.Data.List.Pairwise

/-!
Lists whose elements are known by keys, such as the tasks, the callers and the requests of an
endpoint. Elements change in place and keep their keys.
-/

namespace EditorProtocol

variable {α β : Type} {key : α → β} {xs : List α} {a : α}

/-- What is found after the elements have changed is what was found before, changed. -/
theorem find?_map_of_key [BEq β] {f : α → α} (hf : ∀ x, key (f x) = key x) (xs : List α) (k : β) :
    (xs.map f).find? (key · == k) = (xs.find? (key · == k)).map f := by
  rw [List.find?_map]
  have hkey : ((fun x => key x == k) ∘ f) = fun x => key x == k := by
    funext x
    rw [Function.comp, hf]
  rw [hkey]

theorem key_of_find? [BEq β] [LawfulBEq β] {k : β} (h : xs.find? (key · == k) = some a) :
    key a = k :=
  beq_iff_eq.1 (List.find?_some (p := fun x => key x == k) h)

theorem find?_eq_of_nodup [BEq β] [LawfulBEq β] (nodup : (xs.map key).Nodup) (mem : a ∈ xs) :
    xs.find? (key · == key a) = some a := by
  cases h : xs.find? (key · == key a) with
  | none => exact absurd (beq_self_eq_true (key a)) (List.find?_eq_none.1 h a mem)
  | some b =>
      rw [List.inj_on_of_nodup_map nodup (List.mem_of_find?_eq_some h) mem (key_of_find? h)]

/-- A change of the element of one key leaves the other elements. -/
theorem map_eq_of_nodup {f : α → α} {before after : List α}
    (nodup : ((before ++ a :: after).map key).Nodup) (hf : ∀ b, key b ≠ key a → f b = b) :
    (before ++ a :: after).map f = before ++ f a :: after := by
  rw [List.map_append, List.map_cons, List.nodup_middle, ← List.map_append,
    List.nodup_cons] at nodup
  have hkept : ∀ ys ⊆ before ++ after, ys.map f = ys := by
    intro ys hys
    refine (List.map_congr_left fun b hb => ?_).trans (List.map_id' ys)
    exact hf b fun hkey => nodup.1 (hkey ▸ List.mem_map_of_mem (hys hb))
  rw [List.map_append, List.map_cons, hkept before (List.subset_append_left _ _),
    hkept after (List.subset_append_right _ _)]

/-- What is left of a list without repetitions when one element is taken out. -/
theorem mem_without {before after : List α} (nodup : (before ++ a :: after).Nodup) (b : α) :
    b ∈ before ++ after ↔ b ∈ before ++ a :: after ∧ b ≠ a := by
  rw [List.nodup_middle, List.nodup_cons] at nodup
  rw [List.mem_append, List.mem_append, List.mem_cons]
  constructor
  · intro hb
    refine ⟨hb.imp_right .inr, ?_⟩
    rintro rfl
    exact nodup.1 (List.mem_append.2 hb)
  · rintro ⟨hb | rfl | hb, hne⟩
    · exact .inl hb
    · exact absurd rfl hne
    · exact .inr hb

theorem nodup_without {before after : List α} (nodup : (before ++ a :: after).Nodup) :
    (before ++ after).Nodup :=
  nodup.sublist ((List.sublist_cons_self a after).append_left before)

/-- A test that only one key passes leaves one element. -/
theorem filter_eq_singleton {p : α → Bool} (nodup : (xs.map key).Nodup) (mem : a ∈ xs)
    (hp : ∀ b ∈ xs, p b = true ↔ key b = key a) : xs.filter p = [a] := by
  induction xs with
  | nil => cases mem
  | cons b rest ih =>
      rw [List.map_cons, List.nodup_cons] at nodup
      rcases List.mem_cons.1 mem with rfl | hrest
      · have hnone : rest.filter p = [] := by
          refine List.filter_eq_nil_iff.2 fun c hc hpc => nodup.1 ?_
          rw [← (hp c (.tail _ hc)).1 hpc]
          exact List.mem_map_of_mem hc
        rw [List.filter_cons_of_pos ((hp a (.head _)).2 rfl), hnone]
      · have hne : ¬p b = true := by
          intro hpb
          refine nodup.1 ?_
          rw [(hp b (.head _)).1 hpb]
          exact List.mem_map_of_mem hrest
        rw [List.filter_cons_of_neg hne]
        exact ih nodup.2 hrest fun c hc => hp c (.tail _ hc)

/-- Where not all elements have keys, those that have one are still known by it. -/
theorem eq_of_nodup_filterMap {f : α → Option β} {b : α} {k : β} (nodup : (xs.filterMap f).Nodup)
    (ha : a ∈ xs) (hb : b ∈ xs) (hka : f a = some k) (hkb : f b = some k) : a = b := by
  let Apart (a b : α) : Prop := ∀ k, f a = some k → f b ≠ some k
  have : Std.Symm Apart := ⟨fun _ _ h k hb ha => h k ha hb⟩
  have hapart : xs.Pairwise Apart :=
    (List.pairwise_filterMap.1 nodup).imp fun h k ha hb => h k ha k hb rfl
  by_contra hne
  exact hapart.forall ha hb hne k hka hkb

end EditorProtocol
