import EditorProtocol.Proofs.Endpoint.Flight
import Mathlib.Data.List.Perm.Subperm

/-!
The desk of an endpoint: all that its calls and its tasks depend on, without the log, the gates and
the order in which jobs are ready. For every operation there is an equation that says what it does
to the desk. Requests are sent or refused, responses settle the requests that they are for, and
tasks whose handlers only wait go on until they wait again or end.
-/

namespace EditorProtocol

variable {s : Session} {c : Caller} {o : Outstanding} {t : Task} {b : Behaviour}
  {x : Except EndpointError Value}

/-- Whether the loop takes messages as they arrive. -/
def Loop.isFree : Loop → Bool
  | .created | .receiving | .awake => true
  | .handling .. | .ended _ => false

structure Desk where
  setting : Setting
  isRunning : Bool
  /-- Whether the loop takes messages as they arrive. -/
  isFree : Bool
  withdrawn : List RequestId
  nextId : Nat
  outstanding : List Outstanding
  callers : List Caller
  handlers : List (String × Handler)
  tasks : List Task
  inbox : List Incoming
  outbox : List Value
  events : List Event
  nextNumber : Nat

/-- A task that may be able to go on where it has waited before. -/
inductive Task.Roused : Task → Task → Prop
  | same (t : Task) : Roused t t
  | opened {t : Task} {gate : String} {opened interrupted : Behaviour}
      (waits : t.progress = .waiting gate opened interrupted none) :
      Roused t { t with progress := .waiting gate opened interrupted (some .opened) }

theorem Task.Roused.trans {u v : Task} (h : t.Roused u) (k : u.Roused v) : t.Roused v := by
  cases h with
  | same => exact k
  | opened waits =>
      cases k with
      | same => exact .opened waits
      | opened waits' => cases waits'

/-- The request of a task that has not begun. -/
def Task.unbegun? (t : Task) : Option IncomingRequest :=
  match t.progress with
  | .created => some t.request
  | _ => none

/-- The requests of the tasks that have not begun. -/
def unbegun (ts : List Task) : List IncomingRequest := ts.filterMap Task.unbegun?

/-- Tasks with a task in the place of the one of its number. -/
def withTask (ts : List Task) (t : Task) : List Task :=
  ts.map fun u => if u.number == t.number then t else u

theorem mem_withTask {ts : List Task} {u : Task} (h : u ∈ withTask ts t) : u = t ∨ u ∈ ts := by
  obtain ⟨v, hv, rfl⟩ := List.mem_map.1 h
  split
  · exact .inl rfl
  · exact .inr hv

theorem unbegun_append (ts us : List Task) : unbegun (ts ++ us) = unbegun ts ++ unbegun us :=
  List.filterMap_append

/-- A task that has begun is in the place of one that may not have. -/
theorem unbegun_withTask (ts : List Task) (h : t.unbegun? = none) :
    (unbegun (withTask ts t)).Sublist (unbegun ts) := by
  unfold unbegun withTask
  induction ts with
  | nil => exact .refl _
  | cons u us ih =>
      rw [List.map_cons]
      by_cases hnumber : u.number = t.number
      · rw [if_pos (beq_iff_eq.2 hnumber), List.filterMap_cons_none h, List.filterMap_cons]
        split
        · exact ih
        · exact .cons _ ih
      · rw [if_neg (mt beq_iff_eq.1 hnumber), List.filterMap_cons, List.filterMap_cons]
        split
        · exact ih
        · exact ih.cons_cons _

/-- A task that begins is one less that has not. -/
theorem unbegun_begin {ts : List Task} {u : Task} {r : IncomingRequest} (mem : u ∈ ts)
    (number : u.number = t.number) (hu : u.unbegun? = some r) (h : t.unbegun? = none) :
    (r :: unbegun (withTask ts t)).Subperm (unbegun ts) := by
  obtain ⟨before, after, rfl⟩ := List.append_of_mem mem
  have hset : withTask (before ++ u :: after) t = withTask before t ++ t :: withTask after t := by
    unfold withTask
    rw [List.map_append, List.map_cons, if_pos (beq_iff_eq.2 number)]
  have hbegun : unbegun (t :: withTask after t) = unbegun (withTask after t) :=
    List.filterMap_cons_none h
  have hopen : unbegun (u :: after) = r :: unbegun after := List.filterMap_cons_some hu
  rw [hset, unbegun_append, unbegun_append, hbegun, hopen]
  refine List.perm_middle.symm.subperm.trans (List.Sublist.subperm ?_)
  exact (unbegun_withTask before h).append ((unbegun_withTask after h).cons_cons r)

/-- A request that has just been sent by a caller. -/
def Request.opening (r : Request) (R : Registry) (id caller : Nat) : Outstanding :=
  ⟨.number id, ⟨(RequestId.number id).value, r, .awaitingReply, none,
    R.contains Catalog.cancelName⟩, caller, none⟩

namespace Session

def desk (s : Session) : Desk where
  setting := s.setting
  isRunning := s.isRunning
  isFree := s.loop.isFree
  withdrawn := s.cancelledOutgoing
  nextId := s.nextId
  outstanding := s.outstanding
  callers := s.callers
  handlers := s.requestHandlers
  tasks := s.tasks
  inbox := s.inbox
  outbox := s.outbox
  events := s.events
  nextNumber := s.nextNumber

/-! ### Simple operations -/

theorem desk_call (s : Session) (label : String) (method params : Value) :
    (s.call label method params).desk =
      { s.desk with callers := s.callers ++ [⟨s.nextNumber, label, method, params, none⟩]
                    nextNumber := s.nextNumber + 1 } :=
  rfl

theorem desk_endCall (s : Session) (c : Caller) (e : Event) :
    (s.endCall c e).desk =
      { s.desk with callers := s.callers.filter (·.number != c.number)
                    outstanding := s.outstanding.filter fun o => c.sent != some o.id
                    events := s.events ++ [e] } :=
  rfl

theorem desk_arrive (s : Session) (i : Incoming) :
    (s.arrive i).desk = { s.desk with inbox := s.inbox ++ [i] } := by
  dsimp only [arrive]
  split
  · next hloop => simp [desk, enqueue, setting, show s.loop = .receiving from hloop, Loop.isFree]
  · rfl

theorem desk_clear (s : Session) (n : Nat) (failure : Option EndpointError) :
    (s.clear n failure).desk = s.desk ∨
      (s.clear n failure).desk = { s.desk with tasks := s.tasks.filter (·.number != n) } := by
  have hreport : ((failure.map fun e => s.report .error e.message).getD s).desk = s.desk := by
    cases failure <;> rfl
  unfold clear
  dsimp only
  split
  · exact .inl hreport
  · refine .inr ?_
    cases failure <;> rfl

theorem desk_onRequest (s : Session) (method : Value) (h : Handler) :
    ((s.onRequest method h).toOption.getD s).desk = s.desk ∨
      ∃ name m, Method.nameOf method = .ok name ∧ s.registry.find? name = some m ∧
        m.isRequest = true ∧ ((s.onRequest method h).toOption.getD s).desk =
          { s.desk with handlers := withHandler s.requestHandlers m.name h } := by
  unfold onRequest methodFor
  cases hname : Method.nameOf method with
  | error e => exact .inl rfl
  | ok name =>
      cases hget : s.registry.get name with
      | error e =>
          simp only [mapError_ok, mapError_error, ok_bind, hget]
          exact .inl rfl
      | ok m =>
          by_cases hdirection : m.direction = .request
          · refine .inr ⟨name, m, rfl, Registry.get_ok_iff.1 hget, ?_, ?_⟩
            · unfold Method.direction at hdirection
              split at hdirection
              · assumption
              · cases hdirection
            · simp only [mapError_ok, ok_bind, hget, hdirection, if_true]
              rfl
          · refine .inl ?_
            simp only [mapError_ok, ok_bind, hget, hdirection, if_false]
            rfl

/-! ### Gates -/

/-- Some tasks may be able to go on where they have waited before, and nothing else has changed. -/
def Rouses (s t : Session) : Prop :=
  ∃ ts, t.desk = { s.desk with tasks := ts } ∧ (∀ v ∈ ts, ∃ u ∈ s.tasks, u.Roused v) ∧
    (unbegun ts).Sublist (unbegun s.tasks)

theorem rouses_of_desk {s t : Session} (h : t.desk = s.desk) : s.Rouses t :=
  ⟨s.tasks, h, fun u hu => ⟨u, hu, .same u⟩, .refl _⟩

instance : IsPreorder Session Rouses where
  refl _ := rouses_of_desk rfl
  trans s t u := by
    rintro ⟨ts, ht, hts, hunbegun⟩ ⟨us, hu, hus, hunbegun'⟩
    have htasks : t.tasks = ts := congrArg Desk.tasks ht
    rw [htasks] at hus hunbegun'
    refine ⟨us, by rw [hu, ht], fun w hw => ?_, hunbegun'.trans hunbegun⟩
    obtain ⟨v, hv, hroused'⟩ := hus w hw
    obtain ⟨u, hu, hroused⟩ := hts v hv
    exact ⟨u, hu, hroused.trans hroused'⟩

theorem rouses_wake (s : Session) (w : Waiter) : s.Rouses (s.wake w) := by
  cases w with
  | loop =>
      dsimp only [wake]
      split
      · next hloop => exact rouses_of_desk (by simp [desk, setting, enqueue, hloop, Loop.isFree])
      · exact refl_of Rouses s
  | task n =>
      dsimp only [wake]
      split
      · next t found =>
        split
        · next gate opened interrupted hprogress =>
          refine ⟨_, rfl, fun v hv => ?_, unbegun_withTask s.tasks rfl⟩
          rcases mem_withTask hv with rfl | hv
          · exact ⟨t, List.mem_of_find?_eq_some found, .opened hprogress⟩
          · exact ⟨v, hv, .same v⟩
        · exact refl_of Rouses s
      · exact refl_of Rouses s

theorem rouses_openGate (s : Session) (gate : String) : s.Rouses (s.openGate gate) :=
  trans_of Rouses (rouses_of_desk (t := { s with openGates := gate :: s.openGates }) rfl)
    (foldl_within (fun s (w : String × Waiter) => s.rouses_wake w.2) _ _)

/-! ### Calls -/

section Calls

variable {n : Nat} {name : String}

/-- A request that cannot be built is not sent. -/
theorem run_sendRequest_refused {e : Refusal} (hname : Method.nameOf c.method = .ok name)
    (hbuild : (s.registry.buildRequest s.family name c.params).outcome = .error e) :
    ∃ u, (Action.sendRequest c).run s = (.error (.refused e), u) ∧ u.desk = s.desk := by
  unfold Action.sendRequest
  rw [Action.run_get_bind, Action.run_bind, Action.run_ofTraced, Traced.outcome_of, hname]
  dsimp only [mapError_ok]
  rw [Action.run_bind, Action.run_ofTraced, hbuild]
  exact ⟨_, rfl, rfl⟩

/-- A request that can be built is sent, and waits for its reply from then on. -/
theorem run_sendRequest_sent {r : Request} (hname : Method.nameOf c.method = .ok name)
    (hbuild : (s.registry.buildRequest s.family name c.params).outcome = .ok r)
    (accepts : s.sendFailure = none) :
    ∃ u, (Action.sendRequest c).run s = (.ok (), u) ∧ u.desk =
      { s.desk with
        nextId := s.nextId + 1
        outstanding := s.outstanding ++ [r.opening s.registry s.nextId c.number]
        callers := s.callers.map fun d =>
          if d.number == c.number then { c with sent := some (.number s.nextId) } else d
        outbox := s.outbox ++ [r.message (RequestId.number s.nextId).value] } := by
  unfold Action.sendRequest
  rw [Action.run_get_bind, Action.run_bind, Action.run_ofTraced, Traced.outcome_of, hname]
  dsimp only [mapError_ok]
  rw [Action.run_bind, Action.run_ofTraced, hbuild]
  dsimp only [mapError_ok]
  rw [PendingRequest.markAwaiting_start, Action.run_modify_bind, Action.run_bind,
    Action.run_ofTransition]
  dsimp only [mapError_ok]
  rw [Action.run_modify_bind, Action.run_modify_bind,
    Action.run_transmit_of_none (by exact accepts)]
  refine ⟨_, rfl, ?_⟩
  simp only [desk, setting, note, report, Request.opening]

variable (found : s.caller? n = some c)
include found

/-- The turn of a caller whose request cannot be built ends the call. -/
theorem continueCall_refused {e : Refusal} (unsent : c.sent = none)
    (hname : Method.nameOf c.method = .ok name)
    (hbuild : (s.registry.buildRequest s.family name c.params).outcome = .error e) :
    s.ending? n = some (.failed c.label (.refused e)) ∧ (s.continueCall n).desk =
      { s.desk with
        callers := s.callers.filter (·.number != c.number)
        events := s.events ++ [.failed c.label (.refused e)] } := by
  obtain ⟨u, hrun, hu⟩ := run_sendRequest_refused hname hbuild
  have hcallers : u.callers = s.callers := congrArg Desk.callers hu
  have hstays : u.caller? n = some c := by
    unfold caller? at found ⊢
    rw [hcallers, found]
  have hall : (s.outstanding.filter fun o => c.sent != some o.id) = s.outstanding :=
    List.filter_eq_self.2 fun o _ => by rw [unsent]; rfl
  unfold ending? continueCall
  rw [found, Option.bind_eq_bind, Option.bind_some]
  dsimp only
  rw [unsent]
  dsimp only
  rw [hrun]
  dsimp only
  rw [hstays, Option.getD_some, desk_endCall, hu]
  refine ⟨rfl, ?_⟩
  have houtstanding : u.outstanding = s.outstanding := congrArg Desk.outstanding hu
  have hevents : u.events = s.events := congrArg Desk.events hu
  rw [hcallers, houtstanding, hall, hevents]
  rfl

/-- The turn of a caller whose request can be built sends it. -/
theorem continueCall_sent {r : Request} (unsent : c.sent = none)
    (hname : Method.nameOf c.method = .ok name)
    (hbuild : (s.registry.buildRequest s.family name c.params).outcome = .ok r)
    (accepts : s.sendFailure = none) :
    s.ending? n = none ∧ (s.continueCall n).desk =
      { s.desk with
        nextId := s.nextId + 1
        outstanding := s.outstanding ++ [r.opening s.registry s.nextId c.number]
        callers := s.callers.map fun d =>
          if d.number == c.number then { c with sent := some (.number s.nextId) } else d
        outbox := s.outbox ++ [r.message (RequestId.number s.nextId).value] } := by
  obtain ⟨u, hrun, hu⟩ := run_sendRequest_sent hname hbuild accepts
  obtain ⟨hending, hgoes⟩ := continueCall_of_run found unsent hrun
  exact ⟨hending, (congrArg Session.desk hgoes).trans hu⟩

/-- The turn of a caller whose request has an outcome ends the call with it. -/
theorem continueCall_taken {id : RequestId} {z : Except EndpointError Reply}
    (sent : c.sent = some id) (known : s.outstanding? id = some o) (outcome : o.outcome = some z) :
    s.ending? n = some (outcomeEvent c z) ∧ (s.continueCall n).desk =
      { s.desk with
        callers := s.callers.filter (·.number != c.number)
        outstanding := s.outstanding.filter fun o => c.sent != some o.id
        events := s.events ++ [outcomeEvent c z] } := by
  unfold ending? continueCall
  rw [found, Option.bind_eq_bind, Option.bind_some]
  dsimp only
  rw [sent]
  dsimp only
  rw [known, Option.bind_some, outcome]
  dsimp only
  rw [desk_endCall, sent]
  exact ⟨rfl, rfl⟩

/-- In its turn a caller that waits for its reply does nothing. -/
theorem continueCall_waiting {id : RequestId} (sent : c.sent = some id)
    (unknown : (s.outstanding? id).bind (·.outcome) = none) :
    s.ending? n = none ∧ s.continueCall n = s := by
  unfold ending? continueCall
  rw [found, Option.bind_eq_bind, Option.bind_some]
  dsimp only
  rw [sent]
  dsimp only
  rw [unknown]
  exact ⟨rfl, rfl⟩

end Calls

end Session

/-! ### Tasks -/

/-- A behaviour that does nothing but wait at gates ends with an outcome, unless it is
interrupted. -/
inductive Behaviour.Ends : Behaviour → Except EndpointError Value → Prop
  | finish (x : Except EndpointError Value) : Ends (.finish x) x
  | wait (gate : String) {opened : Behaviour} (interrupted : Behaviour)
      {x : Except EndpointError Value} (ends : opened.Ends x) :
      Ends (.wait gate opened interrupted) x

/-- Where a behaviour that has ended came to a stop. -/
def Stop.ofOutcome : Except EndpointError Value → Stop
  | .ok v => .returned v
  | .error e => .raised e

/-- What a task ends with when its handler has ended. -/
def Conclusion.ofOutcome : Except EndpointError Value → Conclusion
  | .ok v => .returned v
  | .error e => .raised e

theorem Session.afterStop_ofOutcome (s : Session) (t : Task) (x : Except EndpointError Value) :
    s.afterStop t (.ofOutcome x) =
      s.endTaskWith t ((Conclusion.ofOutcome x).action t.request) := by
  cases x <;> rfl

/-- A behaviour that only waits comes to its end, or to a gate that is closed. -/
theorem Behaviour.Ends.advance (h : b.Ends x) (s : Session) :
    b.advance s = (.ofOutcome x, s) ∨ ∃ gate opened interrupted,
      Ends opened x ∧ b.advance s = (.waiting gate opened interrupted, s) := by
  induction h with
  | finish x => exact .inl (by cases x <;> rfl)
  | wait gate interrupted ends ih =>
      unfold Behaviour.advance
      split
      · exact ih
      · exact .inr ⟨gate, _, interrupted, ends, rfl⟩

/-- An endpoint after it has sent a message, with its log as it is then. -/
def Session.posted (s : Session) (message : Value) (log : List LogEntry) : Session :=
  { s with outbox := s.outbox ++ [message], log := log }

/-- An action sends a message, and changes nothing else but the log. -/
def Action.Sends (x : Action Unit) (s : Session) (message : Value) : Prop :=
  ∃ log, x.run s = (.ok (), s.posted message log)

theorem Action.sends_transmit {message : Value} (accepts : s.sendFailure = none) :
    (transmit message).Sends s message :=
  ⟨s.log, run_transmit_of_none accepts message⟩

namespace Session

/-- A task whose handler only waits either waits again, or ends and has sent its answer. -/
theorem desk_goOn {answer : Value} (ends : b.Ends x)
    (answered : ((Conclusion.ofOutcome x).action t.request).Sends s answer) :
    (∃ gate opened interrupted, opened.Ends x ∧ (s.goOn t b).desk =
      (s.setTask { t with progress := .waiting gate opened interrupted none }).desk) ∨
    (s.goOn t b).desk =
      { (s.setTask { t with progress := .ended, cancelled := false }).desk with
        outbox := s.outbox ++ [answer] } := by
  unfold goOn
  rcases ends.advance s with hadvance | ⟨gate, opened, interrupted, hopened, hadvance⟩
  · obtain ⟨log, hrun⟩ := answered
    rw [hadvance]
    dsimp only
    rw [afterStop_ofOutcome, endTaskWith, hrun]
    exact .inr rfl
  · rw [hadvance]
    exact .inl ⟨gate, opened, interrupted, hopened, rfl⟩

/-- The turn of a task that has not begun calls the handler of its request. -/
theorem beginTask_eq {m : Method} {h : Handler} {params : Value}
    (hfound : s.registry.find? t.request.method = some m) (hrequest : m.isRequest = true)
    (hhandler : handlerOf s.requestHandlers t.request.method = some h)
    (hparams : (s.registry.decodeParams s.family t.request.method t.request.params).outcome =
      .ok params) :
    ∃ log, s.beginTask t =
      ({ s with log := log }.emit (.handlerCalled t.request.method params)).goOn t (h params) := by
  unfold beginTask
  dsimp only
  split
  · next m' handler hm' hhandler' =>
    cases hfound.symm.trans hm'
    cases hhandler.symm.trans hhandler'
    rw [hrequest, Bool.not_true, if_neg Bool.false_ne_true, Action.run_ofTraced]
    split
    · next p s' hdecoded =>
      obtain ⟨houtcome, rfl⟩ := Prod.mk.inj hdecoded
      cases (mapError_ok_iff.1 houtcome).symm.trans hparams
      exact ⟨_, rfl⟩
    · next e s' hdecoded =>
      have houtcome : (s.registry.decodeParams s.family t.request.method
          t.request.params).outcome.mapError EndpointError.refused = .error e :=
        (Prod.mk.inj hdecoded).1
      rw [hparams] at houtcome
      cases houtcome
  · next hnone => exact absurd hhandler (hnone m h hfound)

theorem serve_created (found : s.task? t.number = some t) (created : t.progress = .created)
    (live : t.cancelled = false) : s.serve t.number = s.beginTask t := by
  unfold serve
  rw [found]
  dsimp only
  rw [created]
  dsimp only
  rw [live, if_neg Bool.false_ne_true]

theorem serve_opened {gate : String} {opened interrupted : Behaviour}
    (found : s.task? t.number = some t)
    (waits : t.progress = .waiting gate opened interrupted (some .opened))
    (live : t.cancelled = false) :
    s.serve t.number = (s.leave (.task t.number)).goOn t opened := by
  unfold serve
  rw [found]
  dsimp only
  rw [waits]
  dsimp only
  rw [live]
  rfl

/-- A task whose method has no handler ends in its first turn. -/
theorem serve_unhandled (found : s.task? t.number = some t) (created : t.progress = .created)
    (live : t.cancelled = false)
    (unhandled : handlerOf s.requestHandlers t.request.method = none) :
    ∃ u failure, s.Serves t.request u ∧ s.serve t.number = u.endTask t failure := by
  let text := "Request received: " ++ t.request.method ++ " with id " ++ t.request.id.value.plain
  let c : Conclusion := .refused (beginTask.unknown t.request).code
    (beginTask.unknown t.request).message
  have hserve : s.serve t.number =
      (s.report .debug text).endTaskWith t (c.action t.request) := by
    rw [serve_created found created live]
    unfold beginTask
    dsimp only
    split
    · next m handler _ hhandler => cases unhandled.symm.trans hhandler
    · rfl
  obtain ⟨failure, hend⟩ := (s.report .debug text).exists_endTaskWith t (c.action t.request)
  have hreport : s.Serves t.request (s.report .debug text) :=
    ⟨rfl, rfl, rfl, rfl, rfl, rfl, fun _ _ h => h⟩
  exact ⟨_, failure, trans_of (Serves t.request) hreport ((c.concludes t.request).serves _),
    hserve.trans hend⟩

/-! ### Messages -/

/-- A message that is accepted as a request gets a task. -/
theorem dispatch_request {m : Value} {r : IncomingRequest} (h : m.Requests s.family r) :
    s.dispatch m = (.done, s.accept r) := by
  obtain ⟨hmethod, hid, v, hvalid, rfl⟩ := h
  unfold dispatch
  rw [hmethod, hid]
  dsimp only
  rw [hvalid]

/-- It does so while messages are taken, which goes on with what has arrived after it. -/
theorem receiveAll_request {m : Value} {r : IncomingRequest} {rest : List Incoming}
    (running : s.isRunning = true) (h : m.Requests s.family r) :
    receiveAll (.message m :: rest) s = receiveAll rest ({ s with inbox := rest }.accept r) := by
  have hdispatch := dispatch_request (s := { s with inbox := rest }) h
  rw [receiveAll, if_pos running, take, hdispatch]
  rfl

theorem desk_settle (s : Session) (id : RequestId) (z : Except EndpointError Reply) :
    (s.settle id z).desk = { s.desk with outstanding := (s.settle id z).outstanding } := by
  unfold settle
  split <;> rfl

theorem desk_settle_moved (known : s.outstanding? o.id = some o) (p : PendingRequest)
    (z : Except EndpointError Reply) :
    ({ s with
        outstanding := s.outstanding.map fun q : Outstanding =>
          if q.id == o.id then { q with pending := p } else q }.settle o.id z).desk =
      { s.desk with outstanding := s.outstanding.map (Ledger.settled o p z) } := by
  have hmoved := congrArg Ledger.outstanding (ledger_settle_moved known p z s.cancelledOutgoing)
  rw [desk_settle]
  exact congrArg (fun os => { s.desk with outstanding := os }) hmoved

/-- A response to the request of an identity either changes nothing, as no such request waits, or
it settles the request. -/
inductive Answered (s : Session) (id : RequestId) (m : Value) : Desk → Prop
  | idle : Answered s id m s.desk
  | settled {o : Outstanding} {a : Reply} {p : PendingRequest} (known : s.outstanding? id = some o)
      (unsettled : o.outcome = none)
      (accepted : (s.registry.acceptResponse s.family o.method.name m).outcome = .ok a)
      (resolved : o.pending.resolve a = .ok p) :
      Answered s id m { s.desk with outstanding := s.outstanding.map (Ledger.settled o p (.ok a)) }

/-- A response is taken without an error, if the request that waits for it accepts it. -/
theorem run_handleResponse {m : Value} {id : RequestId}
    (identity : (m.at? "id").getD .null = id.value) (withdrawn : s.cancelledOutgoing = [])
    (accepts : ∀ o, s.outstanding? id = some o → o.outcome = none → ∃ a p,
      (s.registry.acceptResponse s.family o.method.name m).outcome = .ok a ∧
        o.pending.resolve a = .ok p) :
    ∃ u, (Action.handleResponse m).run s = (.ok (), u) ∧ s.Answered id m u.desk := by
  unfold Action.handleResponse
  rw [Action.run_get_bind]
  dsimp only
  rw [identity]
  split
  · next hfloat => cases id <;> cases hfloat
  rw [RequestId.ofValue?_value, withdrawn, Option.any_some, Option.bind_some,
    List.contains_nil, if_neg Bool.false_ne_true]
  split
  · exact ⟨_, rfl, .idle⟩
  next o known =>
  split
  · exact ⟨_, rfl, .idle⟩
  next hdone =>
  have unsettled : o.outcome = none := Option.not_isSome_iff_eq_none.1 hdone
  obtain ⟨a, p, accepted, resolved⟩ := accepts o known unsettled
  obtain ⟨ho, rfl⟩ := outstanding?_eq known
  rw [Action.run_bind, Action.run_attempt, Action.run_ofTraced]
  dsimp only
  rw [show o.pending.request.method.name = o.method.name from rfl, accepted]
  dsimp only [mapError_ok]
  rw [resolved]
  dsimp only
  rw [Action.run_modify_bind, Action.run_modify]
  refine ⟨_, rfl, ?_⟩
  rw [desk_settle_moved (s := s.note _) known]
  exact .settled known unsettled accepted resolved

/-- A response is dispatched as an answer to the request of its identity. -/
theorem dispatch_response {reply : Reply} {id : RequestId} (withdrawn : s.cancelledOutgoing = [])
    (accepts : ∀ o, s.outstanding? id = some o → o.outcome = none → ∃ a p,
      (s.registry.acceptResponse s.family o.method.name (reply.message id.value)).outcome =
        .ok a ∧ o.pending.resolve a = .ok p) :
    ∃ u, s.dispatch (reply.message id.value) = (.done, u) ∧
      s.Answered id (reply.message id.value) u.desk := by
  have hmethod : (reply.message id.value).has "method" = .ok false := by
    unfold Reply.message
    cases reply.failed <;> rfl
  have hid : (reply.message id.value).has "id" = .ok true := by
    unfold Reply.message
    cases reply.failed <;> rfl
  obtain ⟨u, hrun, hu⟩ := run_handleResponse (m := reply.message id.value) rfl withdrawn accepts
  refine ⟨u, ?_, hu⟩
  unfold dispatch
  rw [hmethod, hid]
  dsimp only
  rw [show (reply.message id.value).strangeness? = none from rfl]
  dsimp only
  rw [hrun]

end Session

end EditorProtocol
