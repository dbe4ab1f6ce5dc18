import Mathlib.Data.List.Forall2
import EditorProtocol.Proofs.Codec.Outcome
import EditorProtocol.Proofs.Endpoint.Action

/-!
Entries of the log that are sent to the other side. Each entry is taken out of the buffer before it
is sent; so the one that cannot be sent is in the buffer no longer, while those before it were sent
and those after it are still there.
-/

namespace EditorProtocol

variable {F : Family} {R : Registry} {b : Buffered} {m : Value} {s t u : Session}
  {r : Except EndpointError Unit}

/-- A message is the notification of an entry, as a registry has it. -/
def Buffered.CarriedBy (F : Family) (R : Registry) (b : Buffered) (m : Value) : Prop :=
  ∃ params n,
    Catalog.logMessageParams.make F [("type", .member b.type), ("message", .text b.text)] =
      .ok params ∧
    (R.buildNotification F Catalog.logName params).outcome = .ok n ∧ m = n.message

theorem Session.exists_noted (s : Session) (xs ys : List LogEntry) (severity : Severity)
    (text : String) : ∃ entries, ((s.note xs).note ys).report severity text = s.note entries :=
  ⟨xs ++ (ys ++ [⟨severity, "lsp_contract.endpoint", text⟩]), by
    simp only [report, note, List.append_assoc]⟩

theorem Session.note_nil (s : Session) : s.note [] = s :=
  congrArg (fun log => { s with log }) (List.append_nil _)

/-! ### Single messages -/

namespace Action

/-- A notification is sent whole, or nothing but the log is changed: there is none, or the transport
fails. -/
theorem sendNotification_cases (s : Session) (method : String) (params : Value) :
    ∃ entries,
      (∃ n record, s.sendFailure = none ∧
        (s.registry.buildNotification s.family method params).outcome = .ok n ∧
        (sendNotification method params).run s =
          (.ok record, { s.note entries with outbox := s.outbox ++ [n.message] })) ∨
      ∃ e, (sendNotification method params).run s = (.error e, s.note entries) ∧
        ((∃ f, s.sendFailure = some f ∧ e = .transport f) ∨
          ∃ x, (s.registry.buildNotification s.family method params).outcome = .error x) := by
  unfold sendNotification
  rw [run_get_bind, run_bind, run_ofTraced]
  cases houtcome : (s.registry.buildNotification s.family method params).outcome with
  | error x => exact ⟨_, .inr ⟨_, rfl, .inr ⟨x, rfl⟩⟩⟩
  | ok n =>
      rw [mapError_ok]
      dsimp only
      rw [run_modify_bind, run_modify_bind, run_bind]
      obtain ⟨entries, hnoted⟩ := s.exists_noted
        ((s.registry.buildNotification s.family method params).warnings.map Warning.entry)
        [n.entry] .debug ("Sending notification " ++ n.method.name)
      rw [hnoted]
      refine ⟨entries, ?_⟩
      cases hfailure : s.sendFailure with
      | some f =>
          have hnoted' : (s.note entries).sendFailure = some f := hfailure
          rw [run_transmit_of_failure hnoted']
          exact .inr ⟨_, rfl, .inl ⟨f, rfl, rfl⟩⟩
      | none =>
          have hnoted' : (s.note entries).sendFailure = none := hfailure
          rw [run_transmit_of_none hnoted']
          exact .inl ⟨n, _, rfl, rfl, rfl⟩

/-- An entry is sent as the message that carries it, or nothing but the log is changed. -/
theorem logMessage_cases (s : Session) (b : Buffered) :
    ∃ entries,
      (∃ m, s.sendFailure = none ∧ b.CarriedBy s.family s.registry m ∧
        (logMessage (.text b.text) (.member b.type)).run s =
          (.ok (), { s.note entries with outbox := s.outbox ++ [m] })) ∨
      ∃ e, (logMessage (.text b.text) (.member b.type)).run s = (.error e, s.note entries) ∧
        ((∃ f, s.sendFailure = some f ∧ e = .transport f) ∨
          ∀ m, ¬ b.CarriedBy s.family s.registry m) := by
  unfold logMessage
  dsimp only
  rw [run_get_bind]
  cases hmake : Catalog.logMessageParams.make s.family
      [("type", .member b.type), ("message", .text b.text)] with
  | error e =>
      have hnone : ∀ m, ¬ b.CarriedBy s.family s.registry m := by
        rintro m ⟨params, n, hparams, -, -⟩
        cases hmake.symm.trans hparams
      refine ⟨[], .inr ?_⟩
      rw [Session.note_nil]
      cases e with
      | violations vs => exact ⟨_, rfl, .inr hnone⟩
      | fault f => exact ⟨_, rfl, .inr hnone⟩
  | ok params =>
      have hvalid : (ofValidation Catalog.logMessageParams (.ok params)).run s = (.ok params, s) :=
        rfl
      rw [run_bind, hvalid]
      dsimp only
      rw [run_bind]
      obtain ⟨entries, ⟨n, record, works, hn, hrun⟩ | ⟨e, hrun, hcause⟩⟩ :=
        sendNotification_cases s Catalog.logName params
      · rw [hrun]
        exact ⟨entries, .inl ⟨_, works, ⟨params, n, hmake, hn, rfl⟩, rfl⟩⟩
      · rw [hrun]
        refine ⟨entries, .inr ⟨e, rfl, hcause.imp_right ?_⟩⟩
        rintro ⟨x, hx⟩ m ⟨params', n, hparams', hn, -⟩
        cases hmake.symm.trans hparams'
        cases hx.symm.trans hn

/-- A transport that works takes an entry that a message carries. -/
theorem logMessage_of_works (works : s.sendFailure = none)
    (h : b.CarriedBy s.family s.registry m) :
    ∃ entries m', b.CarriedBy s.family s.registry m' ∧
      (logMessage (.text b.text) (.member b.type)).run s =
        (.ok (), { s.note entries with outbox := s.outbox ++ [m'] }) := by
  obtain ⟨entries, ⟨m', _, hm', hrun⟩ | ⟨e, _, ⟨f, hfailure, _⟩ | hnone⟩⟩ := logMessage_cases s b
  · exact ⟨entries, m', hm', hrun⟩
  · cases works.symm.trans hfailure
  · exact absurd h (hnone m)

theorem logMessage_of_failure {f : TransportFailure} (h : s.sendFailure = some f) (b : Buffered) :
    ∃ entries e, (logMessage (.text b.text) (.member b.type)).run s =
      (.error e, s.note entries) := by
  obtain ⟨entries, ⟨m, works, _, _⟩ | ⟨e, hrun, _⟩⟩ := logMessage_cases s b
  · cases works.symm.trans h
  · exact ⟨entries, e, hrun⟩

end Action

/-! ### The whole buffer -/

namespace Session

/-- What may happen while an entry is being sent: the transport may begin to fail or recover, and
anything else that neither sends nor collects. -/
structure Meanwhile (s t : Session) : Prop where
  family : t.family = s.family
  registry : t.registry = s.registry
  logBuffer : t.logBuffer = s.logBuffer
  outbox : t.outbox = s.outbox

theorem Meanwhile.refl (s : Session) : s.Meanwhile s := ⟨rfl, rfl, rfl, rfl⟩

/-- The buffer is sent entry by entry, each taken out before it is sent, until it is empty or an
entry cannot be sent. -/
inductive Flushes : Session → Except EndpointError Unit → Session → Prop where
  | done {s : Session} (empty : s.logBuffer = []) : Flushes s (.ok ()) s
  | failed {s t : Session} {b : Buffered} {rest : List Buffered} {e : EndpointError}
      (next : s.logBuffer = b :: rest)
      (run : (Action.logMessage (.text b.text) (.member b.type)).run { s with logBuffer := rest } =
        (.error e, t)) : Flushes s (.error e) t
  | sent {s t u v : Session} {b : Buffered} {rest : List Buffered} {r : Except EndpointError Unit}
      (next : s.logBuffer = b :: rest)
      (run : (Action.logMessage (.text b.text) (.member b.type)).run { s with logBuffer := rest } =
        (.ok (), t))
      (meanwhile : t.Meanwhile u) (more : Flushes u r v) : Flushes s r v

/-- Where nothing happens meanwhile, this is what sending the collected entries does. -/
theorem flushes_sendLogs {bs : List Buffered} (h : s.logBuffer = bs) :
    s.Flushes ((Action.sendLogs bs).run s).1 ((Action.sendLogs bs).run s).2 := by
  induction bs generalizing s with
  | nil => exact .done h
  | cons b rest ih =>
      unfold Action.sendLogs
      rw [Action.run_modify_bind, Action.run_bind]
      obtain ⟨entries, ⟨m, _, _, hrun⟩ | ⟨e, hrun, _⟩⟩ :=
        Action.logMessage_cases { s with logBuffer := rest } b
      · rw [hrun]
        exact .sent h hrun (.refl _) (ih rfl)
      · rw [hrun]
        exact .failed h hrun

theorem flushes_flushLogs (s : Session) :
    s.Flushes (Action.flushLogs.run s).1 (Action.flushLogs.run s).2 := flushes_sendLogs rfl

/-- What was sent are the entries from the front of the buffer. Behind them nothing is left, or the
entry that was not sent and what is in the buffer still. -/
theorem Flushes.accounts (h : s.Flushes r t) :
    t.family = s.family ∧ t.registry = s.registry ∧
      ∃ before ms, List.Forall₂ (Buffered.CarriedBy s.family s.registry) before ms ∧
        t.outbox = s.outbox ++ ms ∧
        (r = .ok () → s.logBuffer = before ∧ t.logBuffer = []) ∧
        ∀ e, r = .error e → ∃ b, s.logBuffer = before ++ b :: t.logBuffer ∧
          ((∃ f, e = .transport f) ∨ ∀ m, ¬ b.CarriedBy s.family s.registry m) := by
  -- Induction on the flush; an entry that was sent goes to the front of what was sent after it.
  induction h with
  | done empty =>
      exact ⟨rfl, rfl, [], [], .nil, (List.append_nil _).symm, fun _ => ⟨empty, empty⟩, nofun⟩
  | @failed s t b rest e next run =>
      obtain ⟨entries, ⟨m, _, _, hrun⟩ | ⟨e', hrun, hcause⟩⟩ :=
        Action.logMessage_cases { s with logBuffer := rest } b
      · cases hrun.symm.trans run
      · cases hrun.symm.trans run
        refine ⟨rfl, rfl, [], [], .nil, (List.append_nil _).symm, nofun, ?_⟩
        rintro e ⟨⟩
        exact ⟨b, next, hcause.imp_left fun ⟨f, _, he⟩ => ⟨f, he⟩⟩
  | @sent s t u v b rest r next run meanwhile _ ih =>
      obtain ⟨entries, ⟨m, _, hcarried, hrun⟩ | ⟨e', hrun, _⟩⟩ :=
        Action.logMessage_cases { s with logBuffer := rest } b
      · cases hrun.symm.trans run
        obtain ⟨hfamily, hregistry, before, ms, hms, hsent, hok, herror⟩ := ih
        rw [meanwhile.family, meanwhile.registry] at hms herror
        have hbuffer : u.logBuffer = rest := meanwhile.logBuffer
        rw [hbuffer] at hok herror
        refine ⟨hfamily.trans meanwhile.family, hregistry.trans meanwhile.registry, b :: before,
          m :: ms, .cons hcarried hms, ?_, fun hr => ?_, fun e he => ?_⟩
        · rw [hsent, meanwhile.outbox]
          exact List.append_assoc _ [m] ms
        · obtain ⟨hrest, hempty⟩ := hok hr
          exact ⟨next.trans (congrArg _ hrest), hempty⟩
        · obtain ⟨c, hrest, hcause⟩ := herror e he
          exact ⟨c, next.trans (congrArg _ hrest), hcause⟩
      · cases hrun.symm.trans run

end Session

end EditorProtocol
