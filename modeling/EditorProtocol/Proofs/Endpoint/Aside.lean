import EditorProtocol.Proofs.Endpoint.Keyed
import EditorProtocol.Proofs.Endpoint.Serving

/-!
What leaves the requests of an endpoint aside: log entries, notifications, gates and the waking of
tasks. What is done about requests that were sent leaves those that were received, with their tasks,
as they are.
-/

namespace EditorProtocol

variable {s : Session} {t u : Task}

namespace Session

instance : IsPreorder Session Agrees where
  refl := Agrees.refl
  trans _ _ _ := Agrees.trans

/-! ### What leaves the requests aside -/

theorem agrees_note (s : Session) (entries : List LogEntry) : s.Agrees (s.note entries) :=
  ⟨rfl, rfl, rfl⟩

theorem agrees_report (s : Session) (severity : Severity) (message : String) :
    s.Agrees (s.report severity message) :=
  ⟨rfl, rfl, rfl⟩

theorem agrees_emit {e : Event} (h : e.isEnd = false) : s.Agrees (s.emit e) := by
  have hends : (s.events ++ [e]).filter Event.isEnd = s.events.filter Event.isEnd := by
    simp [h]
  exact ⟨rfl, congrArg (fun es => { s.ledger with ends := es }) hends, rfl⟩

theorem agrees_sent {m : Value} (h : m.isResponse = false) :
    s.Agrees { s with outbox := s.outbox ++ [m] } := by
  have hresponses : (s.outbox ++ [m]).filter Value.isResponse =
      s.outbox.filter Value.isResponse := by
    simp [h]
  exact ⟨rfl, rfl, congrArg (fun rs => { s.docket with responses := rs }) hresponses⟩

theorem agrees_enqueue {j : Job} (hcaller : j.caller? = none) (hcleared : j.cleared? = none) :
    s.Agrees (s.enqueue j) := by
  have hdue : (s.ready ++ [j]).filterMap Job.caller? = s.ready.filterMap Job.caller? := by
    simp [hcaller]
  have hclearing : (s.ready ++ [j]).filterMap Job.cleared? = s.ready.filterMap Job.cleared? := by
    simp [hcleared]
  exact ⟨rfl, congrArg (fun ns => { s.ledger with due := ns }) hdue,
    congrArg (fun ns => { s.docket with clearing := ns }) hclearing⟩

/-- The job of the loop or of a task is taken from the queue. -/
theorem agrees_dequeue {before after : List Job} {j : Job} (job : s.ready = before ++ j :: after)
    (hcaller : j.caller? = none) (hcleared : j.cleared? = none) :
    s.Agrees { s with ready := before ++ after } := by
  have hdue : (before ++ after).filterMap Job.caller? = s.ready.filterMap Job.caller? := by
    simp [job, hcaller]
  have hclearing : (before ++ after).filterMap Job.cleared? = s.ready.filterMap Job.cleared? := by
    simp [job, hcleared]
  exact ⟨rfl, congrArg (fun ns => { s.ledger with due := ns }) hdue,
    congrArg (fun ns => { s.docket with clearing := ns }) hclearing⟩

theorem task?_of_tasks {s' : Session} (h : s'.tasks = s.tasks) (n : Nat) :
    s'.task? n = s.task? n := by
  unfold task?
  rw [h]

theorem task?_setTask (s : Session) (t : Task) (n : Nat) :
    (s.setTask t).task? n = (s.task? n).map fun u => if u.number = t.number then t else u := by
  have hnumber : ∀ u : Task, (if u.number == t.number then t else u).number = u.number := by
    intro u
    by_cases h : u.number = t.number
    · simp [h]
    · simp [h]
  unfold task? setTask
  rw [find?_map_of_key hnumber]
  simp only [beq_iff_eq]

theorem number_of_task? {n : Nat} (h : s.task? n = some t) : t.number = n :=
  key_of_find? h

/-- A task changes in nothing that the other side knows. -/
theorem agrees_setTask (found : s.task? t.number = some u) (same : t.errand = u.errand) :
    s.Agrees (s.setTask t) := by
  have herrand : (fun n => ((s.setTask t).task? n).map Task.errand) =
      fun n => (s.task? n).map Task.errand := by
    funext n
    rw [task?_setTask]
    cases h : s.task? n with
    | none => rfl
    | some v =>
        have hv := number_of_task? h
        by_cases hn : v.number = t.number
        · rw [← hn, hv, h] at found
          cases found
          simp [hn, same]
        · simp [hn]
  exact ⟨rfl, rfl, congrArg (fun f => { s.docket with errand? := f }) herrand⟩

theorem agrees_cancelTask (s : Session) (n : Nat) : s.Agrees (s.cancelTask n) := by
  unfold cancelTask
  split
  · exact .refl s
  · next t found =>
    have hn := number_of_task? found
    split
    · exact .refl s
    · next gate opened interrupted hprogress =>
      refine .trans (agrees_setTask (u := t) ?_ ?_) (agrees_enqueue rfl rfl)
      · exact hn ▸ found
      · simp [Task.errand, hprogress, Progress.stage]
    · exact agrees_setTask (u := t) (hn ▸ found) rfl

theorem agrees_wake (s : Session) (w : Waiter) : s.Agrees (s.wake w) := by
  cases w with
  | loop =>
      dsimp only [wake]
      split
      · next gate opened _ =>
        exact .trans (t := { s with loop := .handling gate opened true }) ⟨rfl, rfl, rfl⟩
          (agrees_enqueue rfl rfl)
      · exact .refl s
  | task n =>
      dsimp only [wake]
      split
      · next t found =>
        split
        · next gate opened interrupted hprogress =>
          refine .trans (agrees_setTask (u := t) ?_ ?_) (agrees_enqueue rfl rfl)
          · exact number_of_task? found ▸ found
          · simp [Task.errand, hprogress, Progress.stage]
        · exact .refl s
      · exact .refl s

/-- A relation between sessions that holds over every step of a fold holds over the fold. -/
theorem foldl_within {α : Type} {P : Session → Session → Prop} [IsPreorder Session P]
    {f : Session → α → Session} (hf : ∀ s a, P s (f s a)) (xs : List α) (s : Session) :
    P s (xs.foldl f s) := by
  induction xs generalizing s with
  | nil => exact refl_of P s
  | cons x rest ih => exact trans_of P (hf s x) (ih (f s x))

theorem agrees_openGate (s : Session) (gate : String) : s.Agrees (s.openGate gate) :=
  .trans (t := { s with openGates := gate :: s.openGates }) ⟨rfl, rfl, rfl⟩
    (foldl_within (fun s (w : String × Waiter) => s.agrees_wake w.2) _ _)

theorem agrees_arrive (s : Session) (x : Incoming) : s.Agrees (s.arrive x) := by
  dsimp only [arrive]
  split
  · exact .trans (t := { s with inbox := s.inbox ++ [x], loop := .awake }) ⟨rfl, rfl, rfl⟩
      (agrees_enqueue rfl rfl)
  · exact ⟨rfl, rfl, rfl⟩

theorem agrees_onRequest (s : Session) (method : Value) (h : Handler) :
    s.Agrees ((s.onRequest method h).toOption.getD s) := by
  unfold onRequest
  cases s.methodFor method .request with
  | error e => exact .refl s
  | ok m => exact ⟨rfl, rfl, rfl⟩

theorem agrees_onNotification (s : Session) (method : Value) (h : Handler) :
    s.Agrees ((s.onNotification method h).toOption.getD s) := by
  unfold onNotification
  cases s.methodFor method .notification with
  | error e => exact .refl s
  | ok m => exact ⟨rfl, rfl, rfl⟩

end Session

namespace Action

/-- A notification keeps to what log entries and messages that are no responses keep to. -/
theorem within_sendNotification {P : Session → Session → Prop} [IsPreorder Session P]
    (hnote : ∀ (s : Session) entries, P s (s.note entries))
    (hsent : ∀ (s : Session) (m : Value), m.isResponse = false →
      P s { s with outbox := s.outbox ++ [m] })
    (method : String) (params : Value) : Within P (sendNotification method params) := by
  unfold sendNotification
  refine .bind .get fun s => .bind (.ofTraced hnote _) fun n => ?_
  refine .bind (.modify fun s => hnote s _) fun _ => ?_
  refine .bind (.modify fun s => hnote s _) fun _ => .bind ?_ fun _ => .ofTransition _
  -- A notification has a method, so that it is no response.
  exact .transmit fun s => hsent s _ rfl

theorem agrees_sendNotification (method : String) (params : Value) :
    Within Session.Agrees (sendNotification method params) :=
  within_sendNotification Session.agrees_note (fun _ _ => Session.agrees_sent) method params

theorem agrees_logMessage (message type : Value) :
    Within Session.Agrees (logMessage message type) := by
  unfold logMessage
  refine .bind .get fun s => .bind (.ofValidation _ _) fun params => ?_
  exact .bind (agrees_sendNotification _ _) fun _ => .pure ()

theorem agrees_sendLogs (bs : List Buffered) : Within Session.Agrees (sendLogs bs) := by
  induction bs with
  | nil => exact .pure ()
  | cons b rest ih =>
      refine .bind (.modify fun s => ⟨rfl, rfl, rfl⟩) fun _ => ?_
      exact .bind (agrees_logMessage _ _) fun _ => ih

theorem agrees_flushLogs : Within Session.Agrees flushLogs :=
  .bind .get fun s => agrees_sendLogs s.logBuffer

end Action

/-! ### What leaves the tasks as they are -/

namespace Session

/-- Two sessions with the same tasks that keep the same about the requests that were received. -/
structure SameService (s t : Session) : Prop where
  setting : t.setting = s.setting
  docket : t.docket = s.docket
  tasks : t.tasks = s.tasks
  intake : t.intake = s.intake

instance : IsPreorder Session SameService where
  refl _ := ⟨rfl, rfl, rfl, rfl⟩
  trans _ _ _ h k :=
    ⟨k.setting.trans h.setting, k.docket.trans h.docket, k.tasks.trans h.tasks,
      k.intake.trans h.intake⟩

theorem sameService_note (s : Session) (entries : List LogEntry) : s.SameService (s.note entries) :=
  ⟨rfl, rfl, rfl, rfl⟩

theorem sameService_report (s : Session) (severity : Severity) (message : String) :
    s.SameService (s.report severity message) :=
  ⟨rfl, rfl, rfl, rfl⟩

theorem sameService_sent {m : Value} (h : m.isResponse = false) :
    s.SameService { s with outbox := s.outbox ++ [m] } :=
  ⟨rfl, (agrees_sent h).docket, rfl, rfl⟩

theorem sameService_settle (s : Session) (id : RequestId) (x : Except EndpointError Reply) :
    s.SameService (s.settle id x) := by
  unfold settle
  split
  · exact refl_of SameService s
  · next o _ =>
    have hclearing : (s.ready ++ [Job.call o.caller]).filterMap Job.cleared? =
        s.ready.filterMap Job.cleared? := by
      simp [Job.cleared?]
    exact ⟨rfl, congrArg (fun ns => { s.docket with clearing := ns }) hclearing, rfl, rfl⟩

end Session

namespace Action

open Session in
theorem sameService_sendNotification (method : String) (params : Value) :
    Within SameService (sendNotification method params) :=
  within_sendNotification sameService_note (fun _ _ => sameService_sent) method params

open Session in
theorem sameService_cancelRequest (id : Value) : Within SameService (cancelRequest id) := by
  unfold cancelRequest
  refine .bind .get fun s => ?_
  split
  · exact .throw _
  dsimp only
  split
  · exact .throw_bind _ _
  refine .bind (.ofTransition _) fun p => .bind (.modify fun s => ⟨rfl, rfl, rfl, rfl⟩) fun _ => ?_
  refine .bind (.modify fun s => s.sameService_settle _ _) fun _ => ?_
  exact .bind (sameService_sendNotification _ _) fun _ => .pure ()

open Session in
theorem sameService_handleResponse (m : Value) : Within SameService (handleResponse m) := by
  have hreport : ∀ (severity : Severity) (message : String),
      Within SameService (modify (·.report severity message) : Action Unit) :=
    fun severity message => .modify fun s => s.sameService_report severity message
  have hsettle : ∀ (id : RequestId) (x : Except EndpointError Reply),
      Within SameService (modify (·.settle id x) : Action Unit) :=
    fun id x => .modify fun s => s.sameService_settle id x
  unfold handleResponse
  refine .bind .get fun s => ?_
  dsimp only
  -- It is all the same which identity the response names.
  split
  all_goals
    split
    · exact .bind (.modify fun s => ⟨rfl, rfl, rfl, rfl⟩) fun _ => hreport _ _
    split
    · exact hreport _ _
    split
    · exact hreport _ _
    refine .bind (.attempt (.ofTraced sameService_note _)) fun r => ?_
    split
    · split
      · exact .throw_bind _ _
      · exact .bind (hreport _ _) fun _ => hsettle _ _
    · split
      · exact .bind (hreport _ _) fun _ => hsettle _ _
      · exact .bind (.modify fun s => ⟨rfl, rfl, rfl, rfl⟩) fun _ => hsettle _ _

open Session in
theorem sameService_sendRequest (c : Caller) : Within SameService (sendRequest c) := by
  unfold sendRequest
  refine .bind .get fun s => .bind (.ofTraced sameService_note _) fun name => ?_
  refine .bind (.ofTraced sameService_note _) fun r => ?_
  refine .bind (.modify fun s => s.sameService_note _) fun _ => .bind (.ofTransition _) fun p => ?_
  refine .bind (.modify fun s => ⟨rfl, rfl, rfl, rfl⟩) fun _ => ?_
  refine .bind (.modify fun s => s.sameService_report _ _) fun _ => ?_
  -- A request has a method, so that it is no response.
  exact .transmit fun s => sameService_sent rfl

end Action

namespace Session

theorem sameService_endCall (s : Session) (c : Caller) (e : Event) :
    s.SameService (s.endCall c e) :=
  ⟨rfl, rfl, rfl, rfl⟩

theorem sameService_continueCall (s : Session) (n : Nat) : s.SameService (s.continueCall n) := by
  unfold continueCall
  split
  · exact refl_of SameService s
  · next c _ =>
    split
    · have h := Action.sameService_sendRequest c s
      split
      · next t hrun =>
        rw [hrun] at h
        exact h
      · next e t hrun =>
        rw [hrun] at h
        exact trans_of SameService h (t.sameService_endCall _ _)
    · split
      · exact s.sameService_endCall _ _
      · exact refl_of SameService s

/-- Two sessions with the same setting and the same docket, whatever signals the tasks have. -/
structure SameDocket (s t : Session) : Prop where
  setting : t.setting = s.setting
  docket : t.docket = s.docket

instance : IsPreorder Session SameDocket where
  refl _ := ⟨rfl, rfl⟩
  trans _ _ _ h k := ⟨k.setting.trans h.setting, k.docket.trans h.docket⟩

theorem sameDocket_finish (s : Session) (failure : Option EndpointError) :
    s.SameDocket (s.finish failure) := by
  have hcancel : ∀ (s : Session) (t : Task), s.SameDocket (s.cancelTask t.number) :=
    fun s t => ⟨(s.agrees_cancelTask t.number).setting, (s.agrees_cancelTask t.number).docket⟩
  have hclose : ∀ (s : Session) (o : Outstanding), s.SameDocket
      (if o.outcome.isSome then s
        else s.settle o.id (.error (.connectionClosed o.pending.request.method.name))) := by
    intro s o
    split
    · exact refl_of SameDocket s
    · exact ⟨(s.sameService_settle _ _).setting, (s.sameService_settle _ _).docket⟩
  have hended : s.SameDocket { s with loop := .ended failure } := ⟨rfl, rfl⟩
  exact trans_of SameDocket hended
    (trans_of SameDocket (foldl_within hcancel _ _) (foldl_within hclose _ _))

end Session

/-- A behaviour keeps to what its notifications and cancellations keep to. -/
theorem Behaviour.within_advance {P : Session → Session → Prop} [IsPreorder Session P]
    (hsend : ∀ method params, Action.Within P (Action.sendNotification method params))
    (hcancel : ∀ id, Action.Within P (Action.cancelRequest id)) (b : Behaviour) (s : Session) :
    P s (b.advance s).2 := by
  induction b generalizing s with
  | finish outcome =>
      cases outcome with
      | ok v => exact refl_of P s
      | error e => exact refl_of P s
  | giveUp => exact refl_of P s
  | notify method params next ih =>
      have h := hsend method params s
      unfold advance
      split
      · next hrun =>
        rw [hrun] at h
        exact trans_of P h (ih _)
      · next hrun =>
        rw [hrun] at h
        exact h
  | cancel id next ih =>
      have h := hcancel id s
      unfold advance
      split
      · next hrun =>
        rw [hrun] at h
        exact trans_of P h (ih _)
      · next hrun =>
        rw [hrun] at h
        exact h
  | wait gate opened interrupted ih _ =>
      unfold advance
      split
      · exact ih s
      · exact refl_of P s

theorem Behaviour.sameService_advance (b : Behaviour) (s : Session) :
    s.SameService (b.advance s).2 :=
  b.within_advance Action.sameService_sendNotification Action.sameService_cancelRequest s

namespace Session

/-- The loop keeps to what the behaviour of a handler and reports keep to. -/
theorem within_advanceHandler {P : Session → Session → Prop} [IsPreorder Session P]
    {b : Behaviour} (hadvance : ∀ s, P s (b.advance s).2)
    (hreport : ∀ (s : Session) severity text, P s (s.report severity text)) (s : Session) :
    P s (s.advanceHandler b).2 := by
  have h := hadvance s
  unfold advanceHandler
  split
  · next hstop =>
    rw [hstop] at h
    exact h
  · next hstop =>
    rw [hstop] at h
    exact trans_of P h (hreport _ _ _)
  · next hstop =>
    rw [hstop] at h
    exact h
  · next hstop =>
    rw [hstop] at h
    exact h

theorem sameService_advanceHandler (s : Session) (b : Behaviour) :
    s.SameService (s.advanceHandler b).2 :=
  within_advanceHandler b.sameService_advance sameService_report s

end Session

end EditorProtocol
