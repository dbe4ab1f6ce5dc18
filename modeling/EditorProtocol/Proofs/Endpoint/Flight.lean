import EditorProtocol.Proofs.Endpoint.Response

/-!
Requests in flight. While one task alone has the identity of a request, that identity stands for the
task: taking it back reaches the task, no other task answers to it, and what was taken back stays so
until the task has ended. After that nothing answers to the identity any more.
-/

namespace EditorProtocol

variable {F : Family} {D E : Docket} {d : Deed} {ds : List Deed} {r : IncomingRequest} {n : Nat}
  {id : RequestId} {stage : Stage}

/-- Whether a response is for an identity. -/
def Value.respondsTo (m : Value) (id : RequestId) : Bool :=
  (m.at? "id").bind RequestId.ofValue? == some id

theorem RequestId.ofValue?_value (id : RequestId) : ofValue? id.value = some id := by
  cases id <;> rfl

theorem Value.Answers.respondsTo {answer : Value} (h : answer.Answers id) (other : RequestId) :
    answer.respondsTo other = (id == other) := by
  unfold Value.respondsTo
  rw [h.identity, Option.bind_some, RequestId.ofValue?_value]
  rfl

/-- What is answered to an identity in a deed. -/
def Deed.answersTo (id : RequestId) (d : Deed) : List Value :=
  d.answers.filter (·.respondsTo id)

/-- Whether a deed accepts a request of an identity. -/
def Deed.reuses (id : RequestId) : Deed → Bool
  | .accepted _ _ r => r.id == id
  | _ => false

theorem AnswersAtMostOnce.none_to {answers : List Value} (h : AnswersAtMostOnce r answers)
    (hid : r.id ≠ id) : answers.filter (·.respondsTo id) = [] := by
  rcases h with rfl | ⟨answer, hanswer, rfl⟩
  · rfl
  · rw [List.filter_singleton, hanswer.respondsTo, beq_false_of_ne hid]
    rfl

namespace Docket

/-- A task alone has the identity of its request, and the identity stands for it. -/
structure Holds (D : Docket) (n : Nat) (r : IncomingRequest) (stage : Stage) : Prop where
  errand : D.errand? n = some ⟨n, r, stage⟩
  alone : ∀ k e, D.errand? k = some e → e.request.id = r.id → k = n
  entry : D.taskOf.find? (·.1 == r.id) = some (r.id, n)

/-- All tasks with an identity have ended. -/
def IsOver (D : Docket) (id : RequestId) : Prop :=
  ∀ k e, D.errand? k = some e → e.request.id = id → e.stage = .ended

theorem find?_filter_ne {xs : List (RequestId × Nat)} {i j : RequestId} (h : i ≠ j) :
    (xs.filter (·.1 != i)).find? (·.1 == j) = xs.find? (·.1 == j) := by
  rw [List.find?_filter]
  refine congrArg (fun p => xs.find? p) (funext fun x => ?_)
  by_cases hx : x.1 = j
  · simp [hx, h.symm]
  · simp [hx]

/-- An identity stands for the same task as before, unless a task of it is made or cleared away. -/
theorem Step.entry_eq (step : Step F D d E) (other : d.reuses id = false)
    (kept : ∀ k e, d = .cleared k → D.errand? k = some e → e.request.id ≠ id) :
    E.taskOf.find? (·.1 == id) = D.taskOf.find? (·.1 == id) := by
  cases step with
  | accepted requests =>
      have hne := beq_eq_false_iff_ne.1 other
      unfold accept
      rw [List.find?_cons_of_neg (by simpa using hne), find?_filter_ne hne]
  | takenBack params => rw [takeBack_taskOf]
  | @cleared k before after clearing =>
      show (D.clear k).taskOf.find? _ = _
      unfold clear
      cases he : D.errand? k with
      | none => rfl
      | some e => exact find?_filter_ne (kept k e rfl he)
  | idle | paused | concluded | quit => rfl

/-- A task is cleared away after it has ended, and not before. -/
theorem Step.clears (step : Step F D (.cleared n) E) (sound : D.Sound) :
    ∃ e, D.errand? n = some e ∧ e.stage = .ended := by
  cases step with
  | idle isService le => cases isService
  | cleared clearing => exact sound.cleared n (clearing ▸ List.mem_append_right _ (.head _))

/-- What a deed does about a task that holds its identity: the task goes on, or it ends with or
without a conclusion. -/
inductive Passes (n : Nat) (r : IncomingRequest) (D : Docket) (stage : Stage) (d : Deed)
    (E : Docket) : Prop
  | holds {stage' : Stage} (holds : E.Holds n r stage') (live : stage' ≠ .ended)
      (begun : stage = .begun → stage' = .begun) (silent : d.answersTo r.id = [])
      (takenBack : r.id ∈ D.takenBack → r.id ∈ E.takenBack)
  | concluded {c : Conclusion} {answers : List Value} (eq : d = .concluded n c answers)
      (isOver : E.IsOver r.id)
  | quit (created : stage = .created) (isOver : E.IsOver r.id)

/-- No other task comes to have the identity. -/
theorem Step.alone (step : Step F D d E) (h : D.Holds n r stage) (other : d.reuses r.id = false) :
    ∀ k e, E.errand? k = some e → e.request.id = r.id → k = n := by
  intro k e he hid
  rcases step.origin he with ⟨e', he', hrequest, _⟩ | ⟨_, m, rfl, _⟩
  · exact h.alone k e' he' (hrequest ▸ hid)
  · exact absurd hid (beq_eq_false_iff_ne.1 other)

theorem Step.passes (step : Step F D d E) (sound : D.Sound) (h : D.Holds n r stage)
    (live : stage ≠ .ended) (other : d.reuses r.id = false) : Passes n r D stage d E := by
  have halone := step.alone h other
  -- Only tasks that have ended are cleared away, so the task itself stays.
  have huncleared : ∀ k, d = .cleared k → k ≠ n := by
    rintro k rfl rfl
    obtain ⟨e, he, hended⟩ := step.clears sound
    cases he.symm.trans h.errand
    exact live hended
  have hentry : E.taskOf.find? (·.1 == r.id) = some (r.id, n) :=
    (step.entry_eq other fun k e hk he hid => huncleared k hk (h.alone k e he hid)).trans h.entry
  have hbring : ∀ {e : Errand} (stage' : Stage), e.number ≠ n →
      (D.bring e stage').errand? n = some ⟨n, r, stage⟩ := fun stage' hne =>
    (errand?_bring_of_ne hne.symm).trans h.errand
  have hself : ∀ {e : Errand}, D.errand? e.number = some e → e.number = n →
      e = ⟨n, r, stage⟩ := by
    intro e found hnumber
    rw [hnumber] at found
    exact Option.some.inj (found.symm.trans h.errand)
  have hover : ∀ {E : Docket}, (∀ k e, E.errand? k = some e → e.request.id = r.id → k = n) →
      E.errand? n = some ⟨n, r, .ended⟩ → E.IsOver r.id := by
    intro E halone hended k e he hid
    cases halone k e he hid
    cases hended.symm.trans he
    rfl
  cases step with
  | idle isService le =>
      refine .holds ⟨h.errand, halone, hentry⟩ live id ?_ id
      cases d with
      | concluded => cases isService
      | _ => rfl
  | accepted requests =>
      refine .holds ⟨?_, halone, hentry⟩ live id rfl id
      simp [accept, h.errand]
  | takenBack params =>
      obtain ⟨ids, hids, hmono⟩ := D.takeBack_eq params.namedId?
      rw [hids] at halone hentry ⊢
      exact .holds ⟨h.errand, halone, hentry⟩ live id rfl (hmono r.id)
  | @paused e found live' =>
      by_cases hnumber : e.number = n
      · cases hself found hnumber
        refine .holds ⟨if_pos rfl, halone, hentry⟩ ?_ (fun _ => rfl) rfl id
        rintro ⟨⟩
      · exact .holds ⟨hbring .begun hnumber, halone, hentry⟩ live id rfl id
  | @concluded e c answers takenBack found live' once kept =>
      by_cases hnumber : e.number = n
      · cases hself found hnumber
        exact .concluded rfl (hover halone (if_pos rfl))
      · have hid : e.request.id ≠ r.id := fun hid => hnumber (h.alone _ e found hid)
        exact .holds ⟨hbring .ended hnumber, halone, hentry⟩ live id (once.none_to hid)
          (kept r.id hid.symm)
  | @quit e found created =>
      by_cases hnumber : e.number = n
      · cases hself found hnumber
        exact .quit created (hover halone (if_pos rfl))
      · exact .holds ⟨hbring .ended hnumber, halone, hentry⟩ live id rfl id
  | @cleared k before after clearing =>
      exact .holds ⟨(errand?_clear_of_ne (huncleared k rfl).symm).trans h.errand, halone, hentry⟩
        live id rfl id

/-- Once all tasks with an identity have ended, nothing answers to it. -/
theorem Step.isOver (step : Step F D d E) (h : D.IsOver id) (other : d.reuses id = false) :
    E.IsOver id ∧ d.answersTo id = [] := by
  refine ⟨fun k e he hid => ?_, ?_⟩
  · rcases step.origin he with ⟨e', he', hrequest, hstage⟩ | ⟨_, m, rfl, _⟩
    · exact hstage (h k e' he' (hrequest ▸ hid))
    · exact absurd hid (beq_eq_false_iff_ne.1 other)
  · cases d with
    | concluded k c answers =>
        obtain ⟨⟨e, he, hlive, honce⟩, _⟩ := step.concludes
        exact honce.none_to fun hid => hlive (h k e he hid)
    | _ => rfl

/-- Taking back the request of a task that holds its identity reaches the task. -/
theorem Holds.takeBack (h : D.Holds n r stage) (live : stage ≠ .ended) :
    (D.takeBack (some r.id)).Holds n r stage ∧ r.id ∈ (D.takeBack (some r.id)).takenBack := by
  refine ⟨⟨by simpa using h.errand, by simpa using h.alone, by simpa using h.entry⟩, ?_⟩
  simp only [Docket.takeBack, h.entry, Option.bind_some, h.errand, if_neg live]
  split
  · next hmem => exact List.contains_iff_mem.1 hmem
  · exact .head _

end Docket

namespace Session

variable {s t : Session}

/-- The responses for an identity that were sent so far. -/
def responsesTo (s : Session) (id : RequestId) : List Value :=
  (s.outbox.filter Value.isResponse).filter (·.respondsTo id)

theorem Move.responsesTo (h : Move s d t) (id : RequestId) :
    t.responsesTo id = s.responsesTo id ++ d.answersTo id :=
  (congrArg (List.filter _) h.docket.responses).trans (List.filter_append ..)

theorem Path.sound (path : Path s ds t) (sound : s.docket.Sound) : t.docket.Sound := by
  induction path with
  | rest s => exact sound
  | move first more ih => exact ih (first.docket.sound sound)

/-- From when all tasks with an identity have ended, no response is sent to it. -/
theorem Path.isOver (path : Path s ds t) (h : s.docket.IsOver id)
    (others : ∀ d ∈ ds, d.reuses id = false) :
    t.docket.IsOver id ∧ t.responsesTo id = s.responsesTo id := by
  induction path with
  | rest s => exact ⟨h, rfl⟩
  | @move s u t d ds first more ih =>
      obtain ⟨hover, hsilent⟩ := first.docket.isOver h (others d (.head _))
      obtain ⟨hover', hsame⟩ := ih hover fun d hd => others d (.tail _ hd)
      rw [first.responsesTo, hsilent, List.append_nil] at hsame
      exact ⟨hover', hsame⟩

/-- A task that holds its identity and has begun in the end held it all along, and was silent. -/
theorem Path.holds (path : Path s ds t) (sound : s.docket.Sound) (h : s.docket.Holds n r stage)
    (live : stage ≠ .ended) (others : ∀ d ∈ ds, d.reuses r.id = false)
    (begun : t.docket.errand? n = some ⟨n, r, .begun⟩) :
    t.docket.Holds n r .begun ∧ t.responsesTo r.id = s.responsesTo r.id := by
  induction path generalizing stage with
  | rest s =>
      cases h.errand.symm.trans begun
      exact ⟨h, rfl⟩
  | @move s u t d ds first more ih =>
      have hmore : ∀ d ∈ ds, d.reuses r.id = false := fun d hd => others d (.tail _ hd)
      have hnever : ¬u.docket.IsOver r.id := fun hover =>
        Stage.noConfusion ((more.isOver hover hmore).1 n _ begun rfl)
      cases first.docket.passes sound h live (others d (.head _)) with
      | holds holds live' _ silent _ =>
          obtain ⟨hholds, hsame⟩ := ih (first.docket.sound sound) holds live' hmore begun
          rw [first.responsesTo, silent, List.append_nil] at hsame
          exact ⟨hholds, hsame⟩
      | concluded _ isOver => exact absurd isOver hnever
      | quit _ isOver => exact absurd isOver hnever

end Session

end EditorProtocol
