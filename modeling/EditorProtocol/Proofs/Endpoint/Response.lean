import EditorProtocol.Proofs.Endpoint.Docket

/-!
Which responses an endpoint sends. Each is the answer of a task, a task answers once, and a task is
made for a message that was accepted as a request, and for no other one.
-/

namespace EditorProtocol

variable {F : Family} {R : Registry} {D E : Docket} {d : Deed} {ds es : List Deed} {s t : Session}

/-- The task of a message that is accepted. -/
def Deed.accepted? : Deed → Option Nat
  | .accepted _ n _ => some n
  | _ => none

/-- The task that comes to a conclusion. -/
def Deed.concluded? : Deed → Option Nat
  | .concluded n _ _ => some n
  | _ => none

theorem Deed.accepted?_eq {n : Nat} (h : d.accepted? = some n) : ∃ m r, d = .accepted m n r := by
  cases d with
  | accepted m k r =>
      cases h
      exact ⟨m, r, rfl⟩
  | _ => cases h

theorem Deed.concluded?_eq {n : Nat} (h : d.concluded? = some n) :
    ∃ c answers, d = .concluded n c answers := by
  cases d with
  | concluded k c answers =>
      cases h
      exact ⟨c, answers, rfl⟩
  | _ => cases h

/-- A list of keys with one more, if there is one. -/
theorem nodup_filterMap_concat {α β : Type} {f : α → Option β} {xs : List α} {a : α}
    (h : (xs.filterMap f).Nodup) (fresh : ∀ b, f a = some b → b ∉ xs.filterMap f) :
    ((xs ++ [a]).filterMap f).Nodup := by
  rw [List.filterMap_append]
  cases hb : f a with
  | none => simpa [hb] using h
  | some b =>
      have hsingle : [a].filterMap f = [b] := by simp [hb]
      rw [hsingle, ← List.concat_eq_append]
      exact h.concat (fresh b hb)

namespace Docket

/-- The docket after some deeds, as far as these tell. -/
structure History (F : Family) (ds : List Deed) (D : Docket) : Prop where
  sound : D.Sound
  responses : D.responses = ds.flatMap Deed.answers
  acceptedOnce : (ds.filterMap Deed.accepted?).Nodup
  accepted : ∀ n ∈ ds.filterMap Deed.accepted?, n < D.nextNumber
  concludedOnce : (ds.filterMap Deed.concluded?).Nodup
  concluded : ∀ n ∈ ds.filterMap Deed.concluded?,
    n < D.nextNumber ∧ ∀ e, D.errand? n = some e → e.stage = .ended
  known : ∀ n e, D.errand? n = some e →
    ∃ m, .accepted m n e.request ∈ ds ∧ m.Requests F e.request
  answered : ∀ before n c answers after, ds = before ++ .concluded n c answers :: after →
    ∃ m r, .accepted m n r ∈ before ∧ m.Requests F r ∧ AnswersAtMostOnce r answers

theorem history_empty (F : Family) : History F [] ⟨[], [], fun _ => none, [], [], 0⟩ where
  sound := sound_empty
  responses := rfl
  acceptedOnce := List.nodup_nil
  accepted := nofun
  concludedOnce := List.nodup_nil
  concluded := nofun
  known := nofun
  answered before n c answers after h := by
    cases before with
    | nil => cases h
    | cons => cases h

/-- A step adds its deed. -/
theorem History.step (h : History F ds D) (step : Step F D d E) : History F (ds ++ [d]) E where
  sound := step.sound h.sound
  responses := by
    rw [step.responses, h.responses, List.flatMap_append, List.flatMap_singleton]
  acceptedOnce := by
    refine nodup_filterMap_concat h.acceptedOnce fun n hn hmem => ?_
    obtain ⟨m, r, rfl⟩ := Deed.accepted?_eq hn
    cases step with
    | idle isService le => cases isService
    | accepted requests => exact Nat.lt_irrefl _ (h.accepted _ hmem)
  accepted n hn := by
    rw [List.filterMap_append] at hn
    rcases List.mem_append.1 hn with hn | hn
    · exact Nat.lt_of_lt_of_le (h.accepted n hn) step.nextNumber_le
    · obtain ⟨_, hd, hn⟩ := List.mem_filterMap.1 hn
      cases List.mem_singleton.1 hd
      obtain ⟨m, r, rfl⟩ := Deed.accepted?_eq hn
      cases step with
      | idle isService le => cases isService
      | accepted requests => exact Nat.lt_succ_self _
  concludedOnce := by
    refine nodup_filterMap_concat h.concludedOnce fun n hn hmem => ?_
    obtain ⟨c, answers, rfl⟩ := Deed.concluded?_eq hn
    obtain ⟨⟨e, he, hlive, _⟩, _⟩ := step.concludes
    exact hlive ((h.concluded n hmem).2 e he)
  concluded n hn := by
    rw [List.filterMap_append] at hn
    rcases List.mem_append.1 hn with hn | hn
    · obtain ⟨hyoung, hended⟩ := h.concluded n hn
      refine ⟨Nat.lt_of_lt_of_le hyoung step.nextNumber_le, fun e he => ?_⟩
      rcases step.origin he with ⟨e', he', _, hstage⟩ | ⟨hnew, _⟩
      · exact hstage (hended e' he')
      · exact absurd hnew (Nat.ne_of_lt hyoung)
    · obtain ⟨_, hd, hn⟩ := List.mem_filterMap.1 hn
      cases List.mem_singleton.1 hd
      obtain ⟨c, answers, rfl⟩ := Deed.concluded?_eq hn
      obtain ⟨⟨e, he, _, _⟩, hended⟩ := step.concludes
      exact ⟨Nat.lt_of_lt_of_le (h.sound.numbered n e he).2 step.nextNumber_le, hended⟩
  known n e he := by
    rcases step.origin he with ⟨e', he', hrequest, _⟩ | ⟨rfl, m, rfl, hm⟩
    · obtain ⟨m, hmem, hm⟩ := h.known n e' he'
      rw [← hrequest]
      exact ⟨m, List.mem_append_left _ hmem, hm⟩
    · exact ⟨m, List.mem_append_right _ (.head _), hm⟩
  answered before n c answers after hds := by
    -- The conclusion is the last deed, or it is among those before.
    rcases List.eq_nil_or_concat after with rfl | ⟨after, d', rfl⟩
    · obtain ⟨rfl, hd⟩ := List.append_inj' hds rfl
      cases hd
      obtain ⟨⟨e, he, _, honce⟩, _⟩ := step.concludes
      obtain ⟨m, hmem, hm⟩ := h.known n e he
      exact ⟨m, e.request, hmem, hm, honce⟩
    · rw [List.concat_eq_append, ← List.cons_append, ← List.append_assoc] at hds
      exact h.answered before n c answers after (List.append_inj' hds rfl).1

/-- A step in which no task comes to a conclusion. -/
theorem Step.quiet_eq (step : Step F D d E) (hd : d.isConclusion = false) :
    E.responses = D.responses := by
  rw [step.responses]
  cases d with
  | concluded => cases hd
  | _ => exact List.append_nil _

end Docket

namespace Session

theorem Path.history (path : Path s ds t) (h : s.docket.History s.family es) :
    t.docket.History t.family (es ++ ds) := by
  induction path generalizing es with
  | rest s => rwa [List.append_nil]
  | @move s u t d ds first more ih =>
      have hfirst := h.step first.docket
      rw [← first.home.1] at hfirst
      have hmore := ih hfirst
      rwa [List.append_assoc] at hmore

/-- Where no task comes to a conclusion, no response is sent. -/
theorem Along.responses (h : s.Quietly t) : t.docket.responses = s.docket.responses := by
  obtain ⟨ds, hquiet, path⟩ := h
  induction path with
  | rest s => rfl
  | @move s u t d ds first more ih =>
      rw [ih fun d hd => hquiet d (.tail _ hd)]
      exact first.docket.quiet_eq (by simpa using hquiet d (.head _))

end Session

end EditorProtocol
