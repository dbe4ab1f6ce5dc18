import EditorProtocol.Proofs.Codec.Soundness

/-!
Decoding that leaves no warning. Strict decoding is told from the other kind only where a value
matches several alternatives of a union, and there a warning is left behind, whether or not the
alternative in which it happens is the one that is used. Without a warning the two are the same.
-/

namespace EditorProtocol

/-! ### Warnings -/

namespace Traced

variable {ε α β : Type}

@[simp] theorem warnings_attempt (x : Traced Fault α) : x.attempt.warnings = x.warnings := by
  unfold attempt
  split <;> rfl

/-- A computation in two steps is silent if both of them are, so far as they are taken. -/
theorem silent_bind_iff {x : Traced ε α} {f : α → Traced ε β} :
    (x >>= f).warnings = [] ↔
      x.warnings = [] ∧ ∀ a, x.outcome = .ok a → (f a).warnings = [] := by
  show (x.bind f).warnings = [] ↔ _
  unfold Traced.bind
  cases x.outcome <;> simp

/-- Where a computation is silent, another one may stand for each of its steps that is the same as
long as it is silent. -/
theorem bind_eq_of_silent {x y : Traced ε α} {f g : α → Traced ε β}
    (h : (x >>= f).warnings = []) (hx : x.warnings = [] → y = x)
    (hf : ∀ a, (f a).warnings = [] → g a = f a) : y >>= g = x >>= f := by
  obtain ⟨hfirst, hrest⟩ := silent_bind_iff.1 h
  rw [hx hfirst]
  show x.bind g = x.bind f
  unfold Traced.bind
  cases houtcome : x.outcome with
  | error e => rfl
  | ok a => simp only [hf a (hrest a houtcome)]

end Traced

variable {F : Family} {w : Value} {s : Shape}

/-! ### Parts -/

/-- A value is decoded strictly as it is otherwise, if that leaves no warning. -/
def Steady (F : Family) (w : Value) (s : Shape) : Prop :=
  (decode F false w s).warnings = [] → decode F true w s = decode F false w s

theorem chooseAlternative_exact {union : Shape} {tries : List (Shape × Except Mismatch Value)}
    (h : (chooseAlternative false w union tries).warnings = []) :
    chooseAlternative true w union tries = chooseAlternative false w union tries := by
  unfold chooseAlternative at h ⊢
  split <;> simp_all

theorem decodeItems_exact {element : Shape} {xs : List Value}
    (hitem : ∀ x ∈ xs, Steady F x element) (i : Nat)
    (h : (decodeItems F false i xs element).warnings = []) :
    decodeItems F true i xs element = decodeItems F false i xs element := by
  induction xs generalizing i with
  | nil => simp only [decodeItems]
  | cons x rest ih =>
      rw [decodeItems] at h
      rw [decodeItems, decodeItems]
      refine Traced.bind_eq_of_silent h (fun hx => ?_) fun v hv => ?_
      · rw [hitem x (.head _) hx]
      · refine Traced.bind_eq_of_silent hv (fun hrest => ?_) fun _ _ => rfl
        exact ih (fun y hy => hitem y (.tail x hy)) (i + 1) hrest

theorem tryAlternatives_exact {alternatives : List Shape}
    (hs : ∀ s ∈ alternatives, Steady F w s)
    (h : (tryAlternatives F false w alternatives).warnings = []) :
    tryAlternatives F true w alternatives = tryAlternatives F false w alternatives := by
  induction alternatives with
  | nil => simp only [tryAlternatives]
  | cons s rest ih =>
      rw [tryAlternatives] at h
      rw [tryAlternatives, tryAlternatives]
      refine Traced.bind_eq_of_silent h (fun hfirst => ?_) fun r hr => ?_
      · rw [hs s (.head _) (by simpa using hfirst)]
      · refine Traced.bind_eq_of_silent hr (fun hrest => ?_) fun _ _ => rfl
        exact ih (fun t ht => hs t (.tail s ht)) hrest

theorem decodeFields_exact {ref : ModelRef} {fields : List Field}
    (hitem : ∀ f ∈ fields, ∀ item, w.at? f.wire = some item → Steady F item f.shape)
    (h : (decodeFields F false w ref fields).warnings = []) :
    decodeFields F true w ref fields = decodeFields F false w ref fields := by
  induction fields with
  | nil => simp only [decodeFields]
  | cons f rest ih =>
      have hrest := ih fun g hg => hitem g (.tail f hg)
      rw [decodeFields_cons] at h ⊢
      rw [decodeFields_cons]
      cases hat : w.at? f.wire with
      | none =>
          rw [hat] at h
          dsimp only at h ⊢
          split
          · next hoptional =>
            rw [if_pos hoptional] at h
            exact hrest h
          · rfl
      | some item =>
          rw [hat] at h
          dsimp only at h ⊢
          split
          · next hdropped =>
            rw [if_pos hdropped] at h
            split
            · next hoptional =>
              rw [if_pos hoptional] at h
              exact hrest h
            · rfl
          · next hkept =>
            rw [if_neg hkept] at h
            refine Traced.bind_eq_of_silent h (fun hfirst => ?_) fun v hv => ?_
            · rw [hitem f (.head _) item hat hfirst]
            · exact Traced.bind_eq_of_silent hv hrest fun _ _ => rfl

/-! ### Whole values -/

/-- Without a warning, strict decoding is the same as the other kind. -/
theorem decode_steady (F : Family) (w : Value) (s : Shape) : Steady F w s := by
  -- The wire value gets smaller at items and entries; at null and in unions only the shape does.
  cases s with
  | primitive p => exact fun _ => by simp only [decode]
  | enumeration e => exact fun _ => by simp only [decode]
  | any => exact fun _ => by simp only [decode]
  | nullable inner =>
      have hinner := decode_steady F w inner
      intro h
      rw [decode] at h
      rw [decode, decode]
      split
      · rfl
      · next hnull =>
        rw [if_neg hnull] at h
        exact hinner h
  | sequence element =>
      cases w with
      | list xs =>
          have hitem : ∀ x ∈ xs, Steady F x element := fun x hx => decode_steady F x element
          intro h
          rw [decode] at h
          rw [decode, decode]
          exact Traced.bind_eq_of_silent h (decodeItems_exact hitem 0) fun _ _ => rfl
      | _ =>
          exact fun _ => by simp only [decode]
  | union alternatives =>
      have hmember : ∀ s ∈ alternatives, Steady F w s := fun s hs => decode_steady F w s
      intro h
      rw [decode] at h
      rw [decode, decode]
      exact Traced.bind_eq_of_silent h (tryAlternatives_exact hmember)
        fun _ => chooseAlternative_exact
  | record ref =>
      have hentry : ∀ key item, w.at? key = some item → ∀ t, Steady F item t :=
        fun key item hat t => decode_steady F item t
      intro h
      rw [decode] at h
      rw [decode, decode]
      split
      · rfl
      · next hobject =>
        rw [if_neg hobject] at h
        split
        · rfl
        · next m hm =>
          rw [hm] at h
          dsimp only at h
          split
          · rfl
          · next fields hfields =>
            rw [hfields] at h
            refine Traced.bind_eq_of_silent h (decodeFields_exact ?_) fun _ _ => rfl
            exact fun f _ item hat => hentry f.wire item hat f.shape
termination_by (sizeOf w, sizeOf s)
decreasing_by
  · exact Prod.Lex.left _ _ (Value.sizeOf_lt_of_at? hat)
  · exact Prod.Lex.right _ (Shape.sizeOf_lt_of_mem hs)
  · exact Prod.Lex.left _ _ (Value.sizeOf_lt_of_mem hx)
  · exact Prod.Lex.right _ (by simp +arith)

theorem isMatch_true_iff :
    isMatch F w s = .ok true ↔ ∃ v, (decode F true w s).outcome = .ok v := by
  unfold isMatch
  split <;> simp_all

theorem isMatch_false_iff : isMatch F w s = .ok false ↔ Refused (decode F true w s).outcome := by
  unfold isMatch Refused
  split <;> simp_all

/-- Where no value matches several alternatives of a union, not even within an alternative that is
not used, strict decoding comes out as the other kind does, and a value matches a shape exactly if
it is decoded under it. -/
theorem strict_agrees_of_silent (F : Family) (w : Value) (s : Shape)
    (h : (decode F false w s).warnings = []) :
    (decode F true w s).outcome = (decode F false w s).outcome ∧
      (isMatch F w s = .ok true ↔ ∃ v, (decode F false w s).outcome = .ok v) ∧
      (isMatch F w s = .ok false ↔ Refused (decode F false w s).outcome) := by
  have hsame := congrArg Traced.outcome (decode_steady F w s h)
  refine ⟨hsame, ?_, ?_⟩
  · rw [isMatch_true_iff, hsame]
  · rw [isMatch_false_iff, hsame]

/-- An array of integers is told from one of texts by its items, each of which is a union. -/
theorem strict_agrees_on_integers :
    isMatch ⟨[]⟩ (.list [.int 1, .int 2])
      (.union [.sequence (.union [.ofKind .integer, .ofKind .string]),
        .sequence (.ofKind .string)]) = .ok true := by
  refine (strict_agrees_of_silent _ _ _ ?_).2.1.2 ⟨.list [.int 1, .int 2], ?_⟩
  · cbv
  · cbv

end EditorProtocol
