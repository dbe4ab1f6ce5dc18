import EditorProtocol.Proofs.Endpoint.Aside

/-!
What may happen to an endpoint. The other side sends messages, the program around the endpoint calls
its operations, and jobs that are ready have their turns, in whatever order. A life is a list of
such happenings, and what is proved of all lives holds of every schedule. Whatever happens to an
endpoint is a path of moves: every operation, every turn of a job, and so every life.
-/

namespace EditorProtocol

variable {s : Session} {t : Task}

instance : IsPreorder Session Session.Reaches where
  refl := Session.Reaches.refl
  trans _ _ _ := Session.Reaches.trans

instance (p : Deed → Bool) : IsPreorder Session (Session.Along p) where
  refl := Session.Along.refl p
  trans _ _ _ := Session.Along.trans

/-! ### The turns -/

theorem Action.idly_acceptNotification (n : IncomingNotification) :
    Within Session.Idly (acceptNotification n) := by
  have hreport : ∀ (severity : Severity) (message : String),
      Within Session.Idly (modify (·.report severity message) : Action Unit) :=
    fun severity message => .modify fun s => (s.agrees_report severity message).idly
  unfold acceptNotification
  refine .bind (hreport _ _) fun _ => .bind .get fun s => ?_
  dsimp only
  split
  · split
    · exact .bind (hreport _ _) fun _ => .pure none
    · exact .pure none
  refine .bind (.attempt (.ofTraced (fun s es => (s.agrees_note es).idly) _)) fun r => ?_
  cases r with
  | error e =>
      dsimp only
      split
      · exact .bind (.throw e) fun _ => .bind (hreport _ _) fun _ => .pure none
      · exact .bind (hreport _ _) fun _ => .pure none
  | ok params =>
      dsimp only
      split
      · refine .bind (.modify fun s => ?_) fun _ => .pure (some params)
        exact (Session.Move.takenBack s params).along rfl
      split
      · refine .bind (.modify fun s => ?_) fun _ => .pure (some params)
        exact Session.Agrees.idly ⟨rfl, rfl, rfl⟩
      · exact .pure (some params)

theorem Behaviour.idly_advance (b : Behaviour) (s : Session) : s.Idly (b.advance s).2 :=
  b.within_advance (fun _ _ s => (Action.agrees_sendNotification _ _ s).idly)
    (fun id s => (Session.Move.cancellation s id).along rfl) s

namespace Session

theorem reaches_conclusion (found : s.task? t.number = some t) (live : t.progress.stage ≠ .ended)
    (c : Conclusion) : s.Reaches (s.endTaskWith t (c.action t.request)) := by
  obtain ⟨answers, hsent, _⟩ := s.exists_answers t c
  exact (Move.concluded found live c hsent).reaches

theorem reaches_afterStop (found : s.task? t.number = some t) (live : t.progress.stage ≠ .ended)
    (cancelled : Bool) (stop : Stop) :
    s.Reaches (s.afterStop { t with cancelled := cancelled } stop) := by
  cases stop with
  | returned v => exact reaches_conclusion found live (.returned v)
  | raised e => exact reaches_conclusion found live (.raised e)
  | gaveUp => exact reaches_conclusion found live .gaveUp
  | waiting gate opened interrupted =>
      exact (Move.paused found live cancelled gate opened interrupted).reaches

theorem reaches_goOn (found : s.task? t.number = some t) (live : t.progress.stage ≠ .ended)
    (cancelled : Bool) (b : Behaviour) :
    s.Reaches (s.goOn { t with cancelled := cancelled } b) := by
  have hfound := (task?_of_tasks (b.sameService_advance s).tasks t.number).trans found
  exact (b.idly_advance s).reaches.trans (reaches_afterStop hfound live cancelled _)

theorem reaches_beginTask (found : s.task? t.number = some t)
    (created : t.progress.stage = .created) : s.Reaches (s.beginTask t) := by
  have live : t.progress.stage ≠ .ended := by
    rw [created]
    decide
  have hreport := (s.agrees_report .debug ("Request received: " ++ t.request.method ++
    " with id " ++ t.request.id.value.plain)).reaches
  -- What is logged leaves the task where it is, so that it is found in each of the cases.
  unfold beginTask
  refine hreport.trans ?_
  dsimp only
  split
  · next m handler _ _ =>
    split
    · refine reaches_conclusion ?_ live (.refused _ _)
      exact found
    rw [Action.run_ofTraced]
    split
    · next params s' hdecoded =>
      obtain ⟨_, rfl⟩ := Prod.mk.inj hdecoded
      refine (agrees_note _ _).reaches.trans ((agrees_emit rfl).reaches.trans
        (reaches_goOn ?_ live t.cancelled _))
      exact found
    · next e s' hdecoded =>
      obtain ⟨_, rfl⟩ := Prod.mk.inj hdecoded
      split
      · refine (agrees_note _ _).reaches.trans (reaches_conclusion ?_ live (.refused _ _))
        exact found
      · refine (agrees_note _ _).reaches.trans (Move.quit ?_ created _).reaches
        exact found
  · refine reaches_conclusion ?_ live (.refused _ _)
    exact found

theorem reaches_serve (s : Session) (n : Nat) : s.Reaches (s.serve n) := by
  unfold serve
  split
  · exact .refl s
  · next t found =>
    cases number_of_task? found
    split
    · next created =>
      have hstage : t.progress.stage = .created := by rw [created]; rfl
      split
      · exact (Move.quit found hstage none).reaches
      · exact reaches_beginTask found hstage
    · next gate opened interrupted signal hwaiting =>
      have live : t.progress.stage ≠ .ended := by
        rw [hwaiting]
        exact Stage.noConfusion
      have hleave : s.Agrees (s.leave (.task t.number)) := ⟨rfl, rfl, rfl⟩
      refine hleave.reaches.trans ?_
      dsimp only
      split
      · refine (agrees_emit rfl).reaches.trans (reaches_goOn ?_ live false _)
        exact found
      · refine reaches_goOn ?_ live t.cancelled _
        exact found
    · exact .refl s

/-! ### The loop -/

theorem idly_advanceHandler (s : Session) (b : Behaviour) : s.Idly (s.advanceHandler b).2 :=
  within_advanceHandler b.idly_advance (fun s _ _ => (s.agrees_report _ _).idly) s

theorem idly_survive (s : Session) (e : EndpointError) : s.Idly (s.survive e).2 := by
  unfold survive
  split
  · exact (s.agrees_report _ _).idly
  · exact .refl _ s

theorem idly_reject (s : Session) (m : Model) (r : Rejection) : s.Idly (s.reject m r).2 := by
  cases r with
  | violations vs => exact (s.agrees_report _ _).idly
  | fault f => exact s.idly_survive _

theorem idly_dispatchNotification (s : Session) (n : IncomingNotification) :
    s.Idly (s.dispatchNotification n).2 := by
  have h := Action.idly_acceptNotification n s
  unfold dispatchNotification
  split
  · next e s' hrun =>
    rw [hrun] at h
    exact h.trans (s'.idly_survive e)
  · next s' hrun =>
    rw [hrun] at h
    exact h
  · next params s' hrun =>
    rw [hrun] at h
    split
    · exact h
    · next handler _ =>
      exact h.trans ((agrees_emit rfl).idly.trans (idly_advanceHandler _ (handler params)))

/-- A message either is accepted as a request, or no task gets any further through it. -/
theorem dispatch_cases (s : Session) (m : Value) :
    (∃ r, m.Requests s.family r ∧ s.dispatch m = (.done, s.accept r)) ∨
      s.Idly (s.dispatch m).2 := by
  unfold dispatch
  split
  · exact .inr (s.idly_survive _)
  · exact .inr (s.idly_survive _)
  · next hmethod hid =>
    split
    · next v valid => exact .inl ⟨_, ⟨hmethod, hid, v, valid, rfl⟩, rfl⟩
    · exact .inr (s.idly_reject _ _)
  · split
    · exact .inr (s.idly_dispatchNotification _)
    · exact .inr (s.idly_reject _ _)
  · split
    · exact .inr (s.idly_survive _)
    · have h : s.Idly _ := (Move.response s m).along rfl
      split
      · next s' hrun =>
        rw [hrun] at h
        exact .inr h
      · next e s' hrun =>
        rw [hrun] at h
        exact .inr (h.trans (s'.idly_survive e))
  · exact .inr (s.agrees_report _ _).idly

theorem quietly_dispatch (s : Session) (m : Value) : s.Quietly (s.dispatch m).2 := by
  rcases s.dispatch_cases m with ⟨r, hrequests, haccept⟩ | h
  · rw [haccept]
    exact (Move.accepted hrequests).along rfl
  · exact h.quietly

theorem quietly_finishAfter (s : Session) (f : TransportFailure) : s.Quietly (s.finishAfter f) := by
  unfold finishAfter
  split
  · exact (s.agrees_report _ _).quietly.trans ((Move.closing _ none).along rfl)
  · exact (s.agrees_report _ _).quietly.trans ((Move.closing _ none).along rfl)
  · exact (Move.closing s _).along rfl

section Loop

variable {goOn : Session → Session} (hgoOn : ∀ s, Quietly s (goOn s))
include hgoOn

theorem quietly_afterDispatch (d : Dispatched × Session) : d.2.Quietly (afterDispatch goOn d) := by
  obtain ⟨_ | e | ⟨gate, opened⟩ | _, s⟩ := d
  · exact hgoOn s
  · exact (Move.closing s (some e)).along rfl
  · exact Agrees.quietly ⟨rfl, rfl, rfl⟩
  · exact (Move.closing s none).along rfl

theorem quietly_take (s : Session) (x : Incoming) : s.Quietly (take goOn s x) := by
  cases x with
  | failure f => exact s.quietly_finishAfter f
  | message m => exact (s.quietly_dispatch m).trans (quietly_afterDispatch hgoOn _)

theorem quietly_taken (s : Session) (x : Incoming) (rest : List Incoming) :
    s.Quietly (take goOn { s with inbox := rest } x) := by
  have hinbox : s.Agrees { s with inbox := rest } := ⟨rfl, rfl, rfl⟩
  exact hinbox.quietly.trans (quietly_take hgoOn _ x)

end Loop

theorem quietly_receiveAll (xs : List Incoming) (s : Session) : s.Quietly (receiveAll xs s) := by
  induction xs generalizing s with
  | nil =>
      unfold receiveAll
      split
      · exact Agrees.quietly ⟨rfl, rfl, rfl⟩
      · exact (Move.closing s none).along rfl
  | cons x rest ih =>
      unfold receiveAll
      split
      · exact quietly_taken ih s x rest
      · exact (Move.closing s none).along rfl

theorem quietly_receive (s : Session) : s.Quietly s.receive := by
  unfold receive
  split
  · exact quietly_receiveAll s.inbox s
  · split
    · exact Agrees.quietly ⟨rfl, rfl, rfl⟩
    · next x rest _ =>
      exact quietly_taken (quietly_receiveAll rest) s x rest
  · next gate opened _ =>
    have hleave : s.Agrees (s.leave .loop) := ⟨rfl, rfl, rfl⟩
    refine hleave.quietly.trans ((idly_advanceHandler _ opened).quietly.trans ?_)
    exact quietly_afterDispatch (fun s => quietly_receiveAll s.inbox s) _
  · exact .refl _ s

end Session

/-! ### Lives -/

inductive Happening where
  /-- Something arrives from the transport. -/
  | arrival (x : Incoming)
  /-- The job at a place of the queue has its turn. -/
  | turn (place : Nat)
  | call (label : String) (method params : Value)
  | cancel (id : Value)
  | notify (method : String) (params : Value)
  | log (message type : Value)
  /-- An entry of the log is collected for the other side. -/
  | collect (entry : Buffered)
  | flush
  | openGate (gate : String)
  | stop
  /-- The transport begins to fail, or accepts messages again. -/
  | transport (failure : Option TransportFailure)
  | handleRequests (method : Value) (h : Handler)
  | handleNotifications (method : Value) (h : Handler)

namespace Session

/-- The turn of the job at a place, if there is one. -/
def turn (s : Session) (place : Nat) : Session :=
  match s.ready[place]? with
  | none => s
  | some j => { s with ready := s.ready.eraseIdx place }.perform j

/-- An endpoint after something has happened. -/
def after (s : Session) : Happening → Session
  | .arrival x => s.arrive x
  | .turn place => s.turn place
  | .call label method params => s.call label method params
  | .cancel id => ((Action.cancelRequest id).run s).2
  | .notify method params => ((Action.sendNotification method params).run s).2
  | .log message type => ((Action.logMessage message type).run s).2
  | .collect entry => { s with logBuffer := s.logBuffer ++ [entry] }
  | .flush => (Action.flushLogs.run s).2
  | .openGate gate => s.openGate gate
  | .stop => s.stop
  | .transport failure => { s with sendFailure := failure }
  | .handleRequests method h => (s.onRequest method h).toOption.getD s
  | .handleNotifications method h => (s.onNotification method h).toOption.getD s

/-- An endpoint after all that has happened. -/
def life (s : Session) (hs : List Happening) : Session := hs.foldl after s

/-- The queue itself gives the first job its turn. -/
theorem step_eq_turn (s : Session) : s.step = s.turn 0 := by
  unfold step turn
  cases s.ready with
  | nil => rfl
  | cons j rest => rfl

/-- A run of the queue is a life in which nothing else happens. -/
theorem run_eq_life (n : Nat) (s : Session) : s.run n = s.life (List.replicate n (.turn 0)) := by
  induction n generalizing s with
  | zero => rfl
  | succ n ih =>
      rw [run, ih, step_eq_turn]
      rfl

theorem reaches_turn (s : Session) (place : Nat) : s.Reaches (s.turn place) := by
  unfold turn
  split
  · exact .refl s
  · next j hj =>
    obtain ⟨hplace, hget⟩ := List.getElem?_eq_some_iff.1 hj
    have hready : s.ready = s.ready.take place ++ j :: s.ready.drop (place + 1) := by
      rw [← hget, List.getElem_cons_drop, List.take_append_drop]
    rw [List.eraseIdx_eq_take_drop_succ]
    cases j with
    | receive => exact (agrees_dequeue hready rfl rfl).reaches.trans (quietly_receive _).reaches
    | serve n => exact (agrees_dequeue hready rfl rfl).reaches.trans (reaches_serve _ n)
    | clear n failure => exact (Move.cleared hready).reaches
    | call n => exact (Move.resumed hready).reaches

theorem reaches_after (s : Session) (h : Happening) : s.Reaches (s.after h) := by
  cases h with
  | arrival x => exact (s.agrees_arrive x).reaches
  | turn place => exact s.reaches_turn place
  | call label method params => exact (Move.called s label method params).reaches
  | cancel id => exact (Move.cancellation s id).reaches
  | notify method params => exact (Action.agrees_sendNotification method params s).reaches
  | log message type => exact (Action.agrees_logMessage message type s).reaches
  | collect entry => exact Agrees.reaches ⟨rfl, rfl, rfl⟩
  | flush => exact (Action.agrees_flushLogs s).reaches
  | openGate gate => exact (s.agrees_openGate gate).reaches
  | stop => exact Agrees.reaches ⟨rfl, rfl, rfl⟩
  | transport failure => exact (Move.transport s failure).reaches
  | handleRequests method h => exact (s.agrees_onRequest method h).reaches
  | handleNotifications method h => exact (s.agrees_onNotification method h).reaches

/-- A life is a path of moves. -/
theorem reaches_life (s : Session) (hs : List Happening) : s.Reaches (s.life hs) :=
  foldl_within reaches_after hs s

end Session

end EditorProtocol
