import EditorProtocol.Proofs.Endpoint.Outgoing

/-!
The docket of the requests that were received. A message that is accepted gets a task; the task
waits or not, and ends with what it has to answer or without having begun; in the end it is cleared
away. The moves of an endpoint are steps of its docket.
-/

namespace EditorProtocol

variable {F : Family} {D E : Docket} {d : Deed} {ds : List Deed} {e : Errand} {s t : Session}

/-- The identity of the request that the parameters of a notification name. -/
def Value.namedId? : Value → Option RequestId
  | .record _ slots => (attribute? slots "id").bind RequestId.ofValue?
  | _ => none

/-- Whether a deed is about requests that were received. -/
def Deed.isService : Deed → Bool
  | .accepted .. | .takenBack _ | .paused _ | .concluded .. | .quit _ | .cleared _ => true
  | _ => false

/-- What a task answers in a deed. -/
def Deed.answers : Deed → List Value
  | .concluded _ _ answers => answers
  | _ => []

/-- What a task that has ended may have answered: nothing, or one response to its request. -/
def AnswersAtMostOnce (r : IncomingRequest) (answers : List Value) : Prop :=
  answers = [] ∨ ∃ answer : Value, answer.Answers r.id ∧ answers = [answer]

namespace Docket

/-- The docket with a task at another stage. -/
def bring (D : Docket) (e : Errand) (stage : Stage) : Docket :=
  { D with errand? := fun n =>
             if n = e.number then some { e with stage := stage } else D.errand? n }

/-- The docket with a task for a request. -/
def accept (D : Docket) (r : IncomingRequest) : Docket :=
  { D with taskOf := (r.id, D.nextNumber) :: D.taskOf.filter (·.1 != r.id)
           errand? := fun n =>
             (D.errand? n).or (if n = D.nextNumber then some ⟨n, r, .created⟩ else none)
           nextNumber := D.nextNumber + 1 }

/-- The docket after the other side has taken back a request. -/
def takeBack (D : Docket) (id? : Option RequestId) : Docket :=
  match id? with
  | none => D
  | some id =>
    match (D.taskOf.find? (·.1 == id)).bind fun entry => D.errand? entry.2 with
    | none => D
    | some e =>
      if e.stage = .ended then D
      else { D with takenBack :=
               if D.takenBack.contains id then D.takenBack else id :: D.takenBack }

section TakeBack

variable (D : Docket) (id? : Option RequestId)

/-- Taking back a request changes what is noted as taken back, and nothing else. -/
theorem takeBack_eq : ∃ ids, D.takeBack id? = { D with takenBack := ids } ∧
    ∀ id ∈ D.takenBack, id ∈ ids := by
  unfold takeBack
  split
  · exact ⟨_, rfl, fun _ h => h⟩
  split
  · exact ⟨_, rfl, fun _ h => h⟩
  split
  · exact ⟨_, rfl, fun _ h => h⟩
  · refine ⟨_, rfl, fun id h => ?_⟩
    split
    · exact h
    · exact .tail _ h

@[simp] theorem takeBack_errand? : (D.takeBack id?).errand? = D.errand? := by
  obtain ⟨ids, h, _⟩ := D.takeBack_eq id?
  rw [h]

@[simp] theorem takeBack_taskOf : (D.takeBack id?).taskOf = D.taskOf := by
  obtain ⟨ids, h, _⟩ := D.takeBack_eq id?
  rw [h]

@[simp] theorem takeBack_responses : (D.takeBack id?).responses = D.responses := by
  obtain ⟨ids, h, _⟩ := D.takeBack_eq id?
  rw [h]

@[simp] theorem takeBack_nextNumber : (D.takeBack id?).nextNumber = D.nextNumber := by
  obtain ⟨ids, h, _⟩ := D.takeBack_eq id?
  rw [h]

end TakeBack

/-- The docket without a task, and without what its identity stands for. -/
def clear (D : Docket) (n : Nat) : Docket :=
  { D with errand? := fun k => if k = n then none else D.errand? k
           taskOf :=
             match D.errand? n with
             | some e => D.taskOf.filter (·.1 != e.request.id)
             | none => D.taskOf }

section Errands

variable {r : IncomingRequest} {stage : Stage} {n k : Nat}

theorem errand?_bring_self : (D.bring e stage).errand? e.number = some { e with stage := stage } :=
  if_pos rfl

theorem errand?_bring_of_ne (hne : n ≠ e.number) : (D.bring e stage).errand? n = D.errand? n :=
  if_neg hne

theorem errand?_bring {e' : Errand} (h : (D.bring e stage).errand? n = some e') :
    n = e.number ∧ e' = { e with stage := stage } ∨ D.errand? n = some e' := by
  by_cases hn : n = e.number
  · exact .inl ⟨hn, Option.some.inj (h.symm.trans (if_pos hn))⟩
  · exact .inr ((errand?_bring_of_ne hn).symm.trans h)

theorem errand?_accept (h : (D.accept r).errand? n = some e) :
    D.errand? n = some e ∨ n = D.nextNumber ∧ e = ⟨n, r, .created⟩ := by
  rcases Option.or_eq_some_iff.1 h with hold | ⟨_, hnew⟩
  · exact .inl hold
  · by_cases hn : n = D.nextNumber
    · exact .inr ⟨hn, Option.some.inj (hnew.symm.trans (if_pos hn))⟩
    · cases (if_neg hn).symm.trans hnew

theorem errand?_clear_of_ne (hne : k ≠ n) : (D.clear n).errand? k = D.errand? k := if_neg hne

theorem errand?_clear (h : (D.clear n).errand? k = some e) : k ≠ n ∧ D.errand? k = some e := by
  by_cases hk : k = n
  · cases (if_pos hk).symm.trans h
  · exact ⟨hk, (errand?_clear_of_ne hk).symm.trans h⟩

end Errands

/-- What can be done to a docket. -/
inductive Step (F : Family) : Docket → Deed → Docket → Prop
  | idle {D : Docket} {d : Deed} {nextNumber : Nat} (isService : d.isService = false)
      (le : D.nextNumber ≤ nextNumber) : Step F D d { D with nextNumber := nextNumber }
  | accepted {D : Docket} {m : Value} {r : IncomingRequest} (requests : m.Requests F r) :
      Step F D (.accepted m D.nextNumber r) (D.accept r)
  | takenBack (D : Docket) (params : Value) :
      Step F D (.takenBack params) (D.takeBack params.namedId?)
  | paused {D : Docket} {e : Errand} (found : D.errand? e.number = some e)
      (live : e.stage ≠ .ended) : Step F D (.paused e.number) (D.bring e .begun)
  | concluded {D : Docket} {e : Errand} {c : Conclusion} {answers : List Value}
      {takenBack : List RequestId} (found : D.errand? e.number = some e) (live : e.stage ≠ .ended)
      (once : AnswersAtMostOnce e.request answers)
      (kept : ∀ id ≠ e.request.id, id ∈ D.takenBack → id ∈ takenBack) :
      Step F D (.concluded e.number c answers)
        { D.bring e .ended with takenBack := takenBack, clearing := D.clearing ++ [e.number],
                                responses := D.responses ++ answers }
  | quit {D : Docket} {e : Errand} (found : D.errand? e.number = some e)
      (idle : e.stage = .created) :
      Step F D (.quit e.number) { D.bring e .ended with clearing := D.clearing ++ [e.number] }
  | cleared {D : Docket} {n : Nat} {before after : List Nat}
      (clearing : D.clearing = before ++ n :: after) :
      Step F D (.cleared n) { D.clear n with clearing := before ++ after }

/-- What all steps keep of a docket. -/
structure Sound (D : Docket) : Prop where
  numbered : ∀ n e, D.errand? n = some e → e.number = n ∧ n < D.nextNumber
  /-- Only tasks that have ended are cleared up after, -/
  cleared : ∀ n ∈ D.clearing, ∃ e, D.errand? n = some e ∧ e.stage = .ended
  /-- each of them once. -/
  clearing : D.clearing.Nodup

theorem sound_empty : Sound ⟨[], [], fun _ => none, [], [], 0⟩ where
  numbered := nofun
  cleared := nofun
  clearing := List.nodup_nil

theorem Sound.bring (h : D.Sound) (found : D.errand? e.number = some e) (live : e.stage ≠ .ended)
    (stage : Stage) : (D.bring e stage).Sound := by
  refine ⟨fun n e' he' => ?_, fun n hn => ?_, h.clearing⟩
  · rcases errand?_bring he' with ⟨rfl, rfl⟩ | hold
    · exact ⟨rfl, (h.numbered _ _ found).2⟩
    · exact h.numbered n e' hold
  · obtain ⟨e', he', hended⟩ := h.cleared n hn
    have hne : n ≠ e.number := by
      rintro rfl
      cases found.symm.trans he'
      exact live hended
    exact ⟨e', (errand?_bring_of_ne hne).trans he', hended⟩

/-- A task that ends is cleared up after. -/
theorem Sound.ended (h : D.Sound) (found : D.errand? e.number = some e) (live : e.stage ≠ .ended)
    (takenBack : List RequestId) (responses : List Value) :
    Sound { D.bring e .ended with takenBack := takenBack, clearing := D.clearing ++ [e.number],
                                  responses := responses } := by
  have hbring := h.bring found live .ended
  refine ⟨hbring.numbered, fun n hn => ?_, ?_⟩
  · rcases List.mem_append.1 hn with hn | hn
    · exact hbring.cleared n hn
    · cases List.mem_singleton.1 hn
      exact ⟨{ e with stage := .ended }, errand?_bring_self, rfl⟩
  · show (D.clearing ++ [e.number]).Nodup
    rw [List.nodup_append]
    refine ⟨h.clearing, List.nodup_singleton _, ?_⟩
    rintro n hn _ (_ | ⟨_, ⟨⟩⟩) rfl
    obtain ⟨e', he', hended⟩ := h.cleared _ hn
    cases found.symm.trans he'
    exact live hended

/-- Every step keeps the docket sound. -/
theorem Step.sound (step : Step F D d E) (h : D.Sound) : E.Sound := by
  cases step with
  | idle isService le =>
      exact ⟨fun n e he => ⟨(h.numbered n e he).1, Nat.lt_of_lt_of_le (h.numbered n e he).2 le⟩,
        h.cleared, h.clearing⟩
  | accepted requests =>
      refine ⟨fun n e he => ?_, fun n hn => ?_, h.clearing⟩
      · rcases errand?_accept he with hold | ⟨rfl, rfl⟩
        · exact ⟨(h.numbered n e hold).1, Nat.lt_succ_of_lt (h.numbered n e hold).2⟩
        · exact ⟨rfl, Nat.lt_succ_self _⟩
      · obtain ⟨e, he, hended⟩ := h.cleared n hn
        exact ⟨e, by simp [accept, he], hended⟩
  | takenBack params =>
      obtain ⟨ids, hids, _⟩ := D.takeBack_eq params.namedId?
      rw [hids]
      exact ⟨h.numbered, h.cleared, h.clearing⟩
  | paused found live => exact h.bring found live .begun
  | concluded found live once kept => exact h.ended found live _ _
  | quit found idle =>
      exact h.ended found (idle ▸ nofun) _ _
  | @cleared n before after clearing =>
      have hnodup := clearing ▸ h.clearing
      refine ⟨fun k e he => h.numbered k e (errand?_clear he).2, fun k hk => ?_,
        nodup_without hnodup⟩
      obtain ⟨hmem, hne⟩ := (mem_without hnodup k).1 hk
      obtain ⟨e, he, hended⟩ := h.cleared k (clearing ▸ hmem)
      exact ⟨e, (errand?_clear_of_ne hne).trans he, hended⟩

theorem Step.responses (step : Step F D d E) : E.responses = D.responses ++ d.answers := by
  cases step with
  | idle isService le =>
      cases d with
      | concluded => cases isService
      | _ => exact (List.append_nil _).symm
  | takenBack params =>
      rw [takeBack_responses]
      exact (List.append_nil _).symm
  | concluded found live once kept => rfl
  | accepted | paused | quit | cleared => exact (List.append_nil _).symm

theorem Step.nextNumber_le (step : Step F D d E) : D.nextNumber ≤ E.nextNumber := by
  cases step with
  | idle isService le => exact le
  | accepted requests => exact Nat.le_succ _
  | takenBack params => exact Nat.le_of_eq (takeBack_nextNumber ..).symm
  | paused | concluded | quit | cleared => exact Nat.le_refl _

/-- Where a task comes from: it was there before and has not got back, or it is the one of the
message that was accepted. -/
theorem Step.origin (step : Step F D d E) {n : Nat} (h : E.errand? n = some e) :
    (∃ e', D.errand? n = some e' ∧ e'.request = e.request ∧
        (e'.stage = .ended → e.stage = .ended)) ∨
      n = D.nextNumber ∧ ∃ m, d = .accepted m n e.request ∧ m.Requests F e.request := by
  have hbring : ∀ {e' : Errand} {stage : Stage}, D.errand? e'.number = some e' →
      (e'.stage = .ended → stage = .ended) → (D.bring e' stage).errand? n = some e →
      ∃ e', D.errand? n = some e' ∧ e'.request = e.request ∧
        (e'.stage = .ended → e.stage = .ended) := by
    intro e' stage found hstage h
    rcases errand?_bring h with ⟨rfl, rfl⟩ | hold
    · exact ⟨e', found, rfl, hstage⟩
    · exact ⟨e, hold, rfl, id⟩
  cases step with
  | idle isService le => exact .inl ⟨e, h, rfl, id⟩
  | accepted requests =>
      rcases errand?_accept h with hold | ⟨rfl, rfl⟩
      · exact .inl ⟨e, hold, rfl, id⟩
      · exact .inr ⟨rfl, _, rfl, requests⟩
  | takenBack params =>
      rw [takeBack_errand?] at h
      exact .inl ⟨e, h, rfl, id⟩
  | paused found live => exact .inl (hbring found (absurd · live) h)
  | concluded found live once kept => exact .inl (hbring found (fun _ => rfl) h)
  | quit found idle => exact .inl (hbring found (fun _ => rfl) h)
  | cleared clearing => exact .inl ⟨e, (errand?_clear h).2, rfl, id⟩

/-- A task that comes to a conclusion had not ended before, and has after. -/
theorem Step.concludes {n : Nat} {c : Conclusion} {answers : List Value}
    (step : Step F D (.concluded n c answers) E) :
    (∃ e, D.errand? n = some e ∧ e.stage ≠ .ended ∧ AnswersAtMostOnce e.request answers) ∧
      ∀ e, E.errand? n = some e → e.stage = .ended := by
  cases step with
  | idle isService le => cases isService
  | @concluded e _ _ _ found live once kept =>
      refine ⟨⟨e, found, live, once⟩, fun e' he' => ?_⟩
      have hended : (D.bring e .ended).errand? e.number = some e' := he'
      cases errand?_bring_self.symm.trans hended
      rfl

end Docket

namespace Session

/-! ### Moves -/

theorem errand?_of_task? {n : Nat} {t : Task} (h : s.task? n = some t) :
    s.docket.errand? n = some t.errand := by
  show (s.task? n).map Task.errand = some t.errand
  rw [h]
  rfl

/-- A task at another stage. -/
theorem errand?_setTask {t u : Task} (stage : Stage) (found : s.task? t.number = some u)
    (same : t.errand = { u.errand with stage := stage }) :
    (s.setTask t).docket.errand? = (s.docket.bring u.errand stage).errand? := by
  have hnumber : u.number = t.number := number_of_task? found
  funext n
  show ((s.setTask t).task? n).map Task.errand =
    if n = u.number then some { u.errand with stage := stage } else (s.task? n).map Task.errand
  rw [task?_setTask]
  by_cases hn : n = u.number
  · subst hn
    rw [hnumber, found]
    simp [hnumber, same]
  · rw [if_neg hn]
    cases h : s.task? n with
    | none => rfl
    | some v =>
        have hv : ¬v.number = t.number := fun hv =>
          hn ((number_of_task? h).symm.trans (hv.trans hnumber.symm))
        simp [hv]

theorem docket_accept (s : Session) (r : IncomingRequest) :
    (s.accept r).docket = s.docket.accept r := by
  have herrand : (s.accept r).docket.errand? = (s.docket.accept r).errand? := by
    funext n
    show ((s.tasks ++ [(⟨s.nextNumber, r, .created, false⟩ : Task)]).find?
        (fun t : Task => t.number == n)).map Task.errand =
      ((s.task? n).map Task.errand).or (if n = s.nextNumber then some ⟨n, r, .created⟩ else none)
    rw [List.find?_append, Option.map_or]
    by_cases hn : n = s.nextNumber
    · simp [hn, task?, Task.errand, Progress.stage]
    · simp [hn, task?, Ne.symm hn]
  have hclearing : (s.accept r).docket.clearing = s.docket.clearing := by
    simp [accept, enqueue, docket, Job.cleared?]
  show Docket.mk _ _ (s.accept r).docket.errand? (s.accept r).docket.clearing _ _ = _
  rw [herrand, hclearing]
  rfl

theorem takeBack_eq (s : Session) (params : Value) :
    Action.acceptNotification.takeBack params s =
      match params.namedId? with
      | none => s
      | some id =>
        match (s.taskOf.find? (·.1 == id)).bind fun e => s.task? e.2 with
        | none => s
        | some t =>
          match t.progress with
          | .ended => s
          | _ =>
            { s with
              cancelledIncoming :=
                if s.cancelledIncoming.contains id then s.cancelledIncoming
                else id :: s.cancelledIncoming }.cancelTask t.number := by
  cases params <;> rfl

/-- Taking back a request changes the note of what is taken back, while its task has not ended. -/
theorem docket_takeBack (s : Session) (params : Value) :
    (Action.acceptNotification.takeBack params s).docket = s.docket.takeBack params.namedId? := by
  rw [takeBack_eq]
  cases params.namedId? with
  | none => rfl
  | some id =>
      have herrand : ((s.docket.taskOf.find? (·.1 == id)).bind fun e => s.docket.errand? e.2) =
          ((s.taskOf.find? (·.1 == id)).bind fun e => s.task? e.2).map Task.errand :=
        (Option.map_bind ..).symm
      simp only [Docket.takeBack, herrand]
      cases (s.taskOf.find? (·.1 == id)).bind fun e => s.task? e.2 with
      | none => rfl
      | some t =>
          simp only [Option.map_some]
          cases hprogress : t.progress with
          | ended => simp [Task.errand, hprogress, Progress.stage]
          | created | waiting =>
              simp only [Task.errand, hprogress, Progress.stage, reduceCtorEq, if_false]
              rw [(agrees_cancelTask _ t.number).docket]
              rfl

theorem docket_endTask {t : Task} (found : s.task? t.number = some t)
    (failure : Option EndpointError) :
    (s.endTask t failure).docket =
      { s.docket.bring t.errand .ended with clearing := s.docket.clearing ++ [t.number] } := by
  have herrand := errand?_setTask (t := { t with progress := .ended, cancelled := false })
    .ended found rfl
  have hclearing : (s.endTask t failure).docket.clearing = s.docket.clearing ++ [t.number] := by
    simp [endTask, setTask, enqueue, docket, Job.cleared?]
  show Docket.mk _ _ (s.setTask _).docket.errand? (s.endTask t failure).docket.clearing _ _ = _
  rw [herrand, hclearing]
  rfl

theorem docket_clear (s : Session) (n : Nat) (failure : Option EndpointError) :
    (s.clear n failure).docket = s.docket.clear n := by
  have hreport : s.docket = ((failure.map fun e => s.report .error e.message).getD s).docket := by
    cases failure with
    | none => rfl
    | some e => exact (s.agrees_report _ _).docket.symm
  rw [hreport]
  unfold Session.clear
  generalize (failure.map fun e => s.report .error e.message).getD s = s
  dsimp only
  cases found : s.task? n with
  | none =>
      have hnone : s.docket.errand? n = none := congrArg (Option.map Task.errand) found
      have herrand : (fun k => if k = n then none else s.docket.errand? k) = s.docket.errand? := by
        funext k
        split
        · next hk => exact hk ▸ hnone.symm
        · rfl
      rw [Docket.clear, herrand, hnone]
  | some t =>
      have hsome := errand?_of_task? found
      have htask : ∀ k, (s.tasks.filter (·.number != n)).find? (·.number == k) =
          if k = n then none else s.task? k := by
        intro k
        rw [List.find?_filter]
        split
        · next hk =>
          rw [List.find?_eq_none]
          rintro u - hu
          simp [hk] at hu
        · next hk =>
          refine congrArg (fun p => s.tasks.find? p) (funext fun u => ?_)
          by_cases hu : u.number = k <;> simp [hu, hk]
      have herrand : (fun k =>
          ((s.tasks.filter (·.number != n)).find? (·.number == k)).map Task.errand) =
          fun k => if k = n then none else s.docket.errand? k := by
        funext k
        rw [htask, apply_ite (Option.map Task.errand)]
        rfl
      rw [Docket.clear, hsome, ← herrand]
      rfl

/-- Each move is a step of the docket. -/
theorem Move.docket (h : Move s d t) : Docket.Step s.family s.docket d t.docket := by
  have hidle : ∀ {d : Deed} {t : Session}, d.isService = false → t.docket = s.docket →
      Docket.Step s.family s.docket d t.docket := by
    intro d t hservice hdocket
    rw [hdocket]
    exact .idle hservice (Nat.le_refl _)
  cases h with
  | aside hagrees => exact hidle rfl hagrees.docket
  | transport failure => exact hidle rfl rfl
  | called label method params =>
      have hdocket : (s.call label method params).docket =
          { s.docket with nextNumber := s.nextNumber + 1 } := by
        simp [call, enqueue, docket, Job.cleared?, task?]
      rw [hdocket]
      exact .idle rfl (Nat.le_succ _)
  | @resumed before after n job =>
      refine hidle rfl ((sameService_continueCall _ n).docket.trans ?_)
      have hclearing :
          (before ++ after).filterMap Job.cleared? = s.ready.filterMap Job.cleared? := by
        rw [job, List.filterMap_append, List.filterMap_append, List.filterMap_cons]
        rfl
      exact congrArg (fun ns => { s.docket with clearing := ns }) hclearing
  | response m => exact hidle rfl (Action.sameService_handleResponse m s).docket
  | cancellation id => exact hidle rfl (Action.sameService_cancelRequest id s).docket
  | closing failure => exact hidle rfl (s.sameDocket_finish failure).docket
  | accepted requests =>
      rw [docket_accept]
      exact .accepted requests
  | takenBack params =>
      rw [docket_takeBack]
      exact .takenBack s.docket params
  | @paused u found live cancelled gate opened interrupted =>
      have herrand := errand?_setTask
        (t := { u with progress := .waiting gate opened interrupted none, cancelled := cancelled })
        .begun found rfl
      refine (congrArg (Docket.Step s.family s.docket (.paused u.number)) ?_).mpr
        (.paused (errand?_of_task? found) live)
      exact congrArg (fun f => { s.docket with errand? := f }) herrand
  | @concluded u found live c answers sent =>
      obtain ⟨answers', hsent, honce⟩ := s.exists_answers u c
      cases List.append_cancel_left (sent.symm.trans hsent)
      obtain ⟨failure, hend⟩ := s.exists_endTaskWith u (c.action u.request)
      have hserves := (c.concludes u.request).serves s
      have hfound := (task?_of_tasks hserves.tasks u.number).trans found
      have hout : ((c.action u.request).run s).2.outbox = s.outbox ++ answers := by
        rw [← sent, hend]
        rfl
      have hresponses : answers.filter Value.isResponse = answers := by
        refine List.filter_eq_self.2 fun m hm => ?_
        rcases honce with rfl | ⟨answer, hanswer, rfl⟩
        · cases hm
        · exact List.mem_singleton.1 hm ▸ hanswer.isResponse
      have hdocket : ((c.action u.request).run s).2.docket =
          { s.docket with
            takenBack := ((c.action u.request).run s).2.cancelledIncoming
            responses := s.docket.responses ++ answers } := by
        have hnumber : ((c.action u.request).run s).2.nextNumber = s.nextNumber :=
          congrArg Ledger.nextNumber hserves.ledger
        simp only [docket, task?, hserves.tasks, hserves.ready, hserves.taskOf, hout, hnumber,
          List.filter_append, hresponses]
      rw [hend, docket_endTask hfound, hdocket]
      exact .concluded (errand?_of_task? found) live honce hserves.takenBack
  | quit found idle failure =>
      rw [docket_endTask found]
      exact .quit (errand?_of_task? found) idle
  | @cleared before after n failure job =>
      have hclearing : s.docket.clearing =
          before.filterMap Job.cleared? ++ n :: after.filterMap Job.cleared? := by
        simp [docket, job, Job.cleared?]
      have hready : { s with ready := before ++ after }.docket =
          { s.docket with
            clearing := before.filterMap Job.cleared? ++ after.filterMap Job.cleared? } :=
        congrArg (fun ns => { s.docket with clearing := ns }) (List.filterMap_append ..)
      rw [docket_clear, hready]
      exact .cleared hclearing

end Session

end EditorProtocol
