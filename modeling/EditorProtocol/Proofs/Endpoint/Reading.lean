import EditorProtocol.Catalog.Legacy
import EditorProtocol.Endpoint.Receiving
import EditorProtocol.Proofs.Endpoint.Dispatch
import EditorProtocol.Proofs.Framing.Failure

/-!
The loop of an endpoint that reads from a stream. It ends with a failure of the transport only if
one came that it does not expect; and over the default settings, none comes from a stream whose
lines and numbers are short and whose headers are ASCII.
-/

namespace EditorProtocol

variable {s : Session} {t : Task}

namespace Session

/-! ### What leaves the loop aside -/

/-- Two sessions whose loops have come equally far and have the same to take. -/
def SameIntake (s t : Session) : Prop := t.intake = s.intake

instance : IsPreorder Session SameIntake where
  refl _ := rfl
  trans _ _ _ h k := Eq.trans k h

theorem sameIntake_cancelTask (s : Session) (n : Nat) : s.SameIntake (s.cancelTask n) := by
  unfold cancelTask
  split
  · rfl
  · split <;> rfl

theorem sameIntake_takeBack (s : Session) (params : Value) :
    s.SameIntake (Action.acceptNotification.takeBack params s) := by
  unfold Action.acceptNotification.takeBack
  dsimp only
  split
  · rfl
  · split
    · rfl
    · split
      · rfl
      · exact sameIntake_cancelTask _ _

/-- The end of the loop keeps what has not been taken. -/
theorem intake_finish (s : Session) (failure : Option EndpointError) :
    (s.finish failure).intake = (.ended failure, s.inbox) := by
  have hclose : ∀ (s : Session) (o : Outstanding), s.SameIntake
      (if o.outcome.isSome then s
        else s.settle o.id (.error (.connectionClosed o.pending.request.method.name))) := by
    intro s o
    split
    · rfl
    · exact (s.sameService_settle _ _).intake
  have hcancel : ∀ (s : Session) (t : Task), s.SameIntake (s.cancelTask t.number) :=
    fun s t => s.sameIntake_cancelTask t.number
  exact trans_of SameIntake (foldl_within hcancel s.tasks { s with loop := .ended failure })
    (foldl_within hclose _ _)

theorem sameIntake_advanceHandler (s : Session) (b : Behaviour) :
    s.SameIntake (s.advanceHandler b).2 :=
  (s.sameService_advanceHandler b).intake

theorem sameIntake_survive (s : Session) (e : EndpointError) :
    s.SameIntake (s.survive e).2 := by
  unfold survive
  split <;> rfl

theorem sameIntake_reject (s : Session) (m : Model) (r : Rejection) :
    s.SameIntake (s.reject m r).2 := by
  cases r with
  | violations vs => rfl
  | fault f => exact s.sameIntake_survive _

end Session

namespace Action

open Session in
theorem sameIntake_acceptNotification (n : IncomingNotification) :
    Within SameIntake (acceptNotification n) := by
  have hreport : ∀ (severity : Severity) (message : String),
      Within SameIntake (modify (·.report severity message) : Action Unit) :=
    fun severity message => .modify fun s => rfl
  unfold acceptNotification
  refine .bind (hreport _ _) fun _ => .bind .get fun s => ?_
  dsimp only
  split
  · split
    · exact .bind (hreport _ _) fun _ => .pure none
    · exact .pure none
  refine .bind (.attempt (.ofTraced (fun s es => rfl) _)) fun r => ?_
  split
  · split
    · exact .throw_bind _ _
    · exact .bind (hreport _ _) fun _ => .pure none
  · split
    · exact .bind (.modify fun s => s.sameIntake_takeBack _) fun _ => .pure _
    split
    · exact .bind (.modify fun s => rfl) fun _ => .pure _
    · exact .pure _

open Session in
theorem sameIntake_logMessage (message type : Value) :
    Within SameIntake (logMessage message type) := by
  unfold logMessage
  refine .bind .get fun s => .bind (.ofValidation _ _) fun params => ?_
  exact .bind (fun s => (sameService_sendNotification _ _ s).intake) fun _ => .pure ()

open Session in
theorem sameIntake_flushLogs : Within SameIntake flushLogs := by
  have hsend : ∀ bs, Within SameIntake (sendLogs bs) := by
    intro bs
    induction bs with
    | nil => exact .pure ()
    | cons b rest ih =>
        exact .bind (.modify fun s => rfl) fun _ => .bind (sameIntake_logMessage _ _) fun _ => ih
  exact .bind .get fun s => hsend s.logBuffer

end Action

namespace Session

theorem sameIntake_dispatch (s : Session) (m : Value) : s.SameIntake (s.dispatch m).2 := by
  unfold dispatch
  split
  · exact s.sameIntake_survive _
  · exact s.sameIntake_survive _
  · split
    · rfl
    · exact s.sameIntake_reject _ _
  · split
    · next v _ =>
      have h := Action.sameIntake_acceptNotification (.ofRecord v) s
      unfold dispatchNotification
      split
      · next e s' hrun =>
        rw [hrun] at h
        exact trans_of SameIntake h (s'.sameIntake_survive e)
      · next s' hrun =>
        rw [hrun] at h
        exact h
      · next params s' hrun =>
        rw [hrun] at h
        split
        · exact h
        · next handler _ =>
          refine trans_of SameIntake h ?_
          exact sameIntake_advanceHandler (s'.emit _) (handler params)
    · exact s.sameIntake_reject _ _
  · split
    · exact s.sameIntake_survive _
    · have h := (Action.sameService_handleResponse m s).intake
      split
      · next s' hrun =>
        rw [hrun] at h
        exact h
      · next e s' hrun =>
        rw [hrun] at h
        exact trans_of SameIntake h (s'.sameIntake_survive e)
  · rfl

/-! ### The turns of tasks -/

theorem sameIntake_endTaskWith (s : Session) (t : Task) (c : Conclusion) :
    s.SameIntake (s.endTaskWith t (c.action t.request)) := by
  obtain ⟨failure, hend⟩ := s.exists_endTaskWith t (c.action t.request)
  rw [hend]
  exact ((c.concludes t.request).serves s).intake

theorem sameIntake_goOn (s : Session) (t : Task) (b : Behaviour) :
    s.SameIntake (s.goOn t b) := by
  refine trans_of SameIntake (b.sameService_advance s).intake ?_
  unfold goOn
  generalize b.advance s = stopped
  obtain ⟨stop, s'⟩ := stopped
  cases stop with
  | returned v => exact s'.sameIntake_endTaskWith t (.returned v)
  | raised e => exact s'.sameIntake_endTaskWith t (.raised e)
  | gaveUp => exact s'.sameIntake_endTaskWith t .gaveUp
  | waiting gate opened interrupted => rfl

theorem sameIntake_beginTask (s : Session) (t : Task) : s.SameIntake (s.beginTask t) := by
  unfold beginTask
  dsimp only
  split
  · split
    · exact sameIntake_endTaskWith (s.report .debug _) t (.refused _ _)
    rw [Action.run_ofTraced]
    split
    · next hrun =>
      obtain ⟨_, rfl⟩ := Prod.mk.inj hrun
      exact sameIntake_goOn _ t _
    · next hrun =>
      obtain ⟨_, rfl⟩ := Prod.mk.inj hrun
      split
      · exact sameIntake_endTaskWith _ t (.refused _ _)
      · rfl
  · exact sameIntake_endTaskWith (s.report .debug _) t (.refused _ _)

theorem sameIntake_serve (s : Session) (n : Nat) : s.SameIntake (s.serve n) := by
  unfold serve
  split
  · rfl
  · split
    · split
      · rfl
      · exact s.sameIntake_beginTask _
    · dsimp only
      split
      · exact sameIntake_goOn _ _ _
      · exact sameIntake_goOn _ _ _
    · rfl

theorem sameIntake_clear (s : Session) (n : Nat) (failure : Option EndpointError) :
    s.SameIntake (s.clear n failure) := by
  have hreport : s.SameIntake ((failure.map fun e => s.report .error e.message).getD s) := by
    cases failure <;> rfl
  refine trans_of SameIntake hreport ?_
  unfold clear
  dsimp only
  split <;> rfl

/-! ### The loop -/

/-- No failure that a loop does not expect has come, and it has not ended with any. -/
def IsSafe (s : Session) : Prop :=
  (∀ f, .failure f ∈ s.intake.2 → f.kind ≠ .unexpected) ∧
    ∀ f, s.intake.1 ≠ .ended (some (.transport f))

theorem IsSafe.keep {s t : Session} (hs : s.IsSafe) (h : s.SameIntake t) : t.IsSafe := by
  unfold IsSafe
  rw [show t.intake = s.intake from h]
  exact hs

/-- A message that makes the loop fail is strange, or the registry refuses its payload. -/
theorem dispatch_failed {m : Value} {e : EndpointError} (h : (s.dispatch m).1 = .failed e) :
    (∃ m, e = .strange m) ∨ ∃ r, e = .refused r := by
  have hsurvive : ∀ {s : Session} {e' : EndpointError}, (s.survive e').1 = .failed e → e = e' := by
    intro s e' h
    unfold survive at h
    split at h <;> cases h
    rfl
  have hreject : ∀ {model : Model} {r : Rejection}, (s.reject model r).1 = .failed e →
      ∃ r, e = .refused r := by
    intro model r h
    cases r with
    | violations vs => cases h
    | fault f => exact ⟨_, hsurvive h⟩
  unfold dispatch at h
  split at h
  · exact .inl ⟨_, hsurvive h⟩
  · exact .inl ⟨_, hsurvive h⟩
  · split at h
    · cases h
    · exact .inr (hreject h)
  · split at h
    · unfold dispatchNotification at h
      split at h
      · next hrun =>
        obtain ⟨r, _, rfl⟩ := Action.acceptNotification_refused (congrArg Prod.fst hrun)
        exact .inr ⟨r, hsurvive h⟩
      · cases h
      · split at h
        · cases h
        · exact absurd h (advanceHandler_survives _ _ e)
    · exact .inr (hreject h)
  · split at h
    · exact .inl ⟨_, hsurvive h⟩
    · split at h
      · cases h
      · next hrun =>
        obtain ⟨_, _, r, _, rfl⟩ := Action.handleResponse_refused (congrArg Prod.fst hrun)
        exact .inr ⟨r, hsurvive h⟩
  · cases h

theorem IsSafe.finish (hs : s.IsSafe) {failure : Option EndpointError}
    (h : ∀ f, failure ≠ some (.transport f)) : (s.finish failure).IsSafe := by
  unfold IsSafe
  rw [intake_finish]
  refine ⟨hs.1, fun f heq => h f ?_⟩
  cases heq
  rfl

theorem IsSafe.finishAfter (hs : s.IsSafe) {f : TransportFailure} (h : f.kind ≠ .unexpected) :
    (s.finishAfter f).IsSafe := by
  unfold Session.finishAfter
  split
  · exact IsSafe.finish (s := s.report .debug _) hs nofun
  · exact IsSafe.finish (s := s.report .error _) hs nofun
  · next hkind => exact absurd hkind h

section Loop

variable {goOn : Session → Session} (hgoOn : ∀ s : Session, s.IsSafe → (goOn s).IsSafe)
include hgoOn

theorem IsSafe.afterDispatch {d : Dispatched × Session} (hs : d.2.IsSafe)
    (h : ∀ f, d.1 ≠ .failed (.transport f)) : (afterDispatch goOn d).IsSafe := by
  obtain ⟨_ | e | ⟨gate, opened⟩ | _, s⟩ := d
  · exact hgoOn s hs
  · refine hs.finish fun f hf => h f ?_
    cases hf
    rfl
  · exact ⟨hs.1, nofun⟩
  · exact hs.finish nofun

theorem IsSafe.take {x : Incoming} (hs : s.IsSafe)
    (hx : ∀ f, x = .failure f → f.kind ≠ .unexpected) : (take goOn s x).IsSafe := by
  cases x with
  | failure f => exact hs.finishAfter (hx f rfl)
  | message m =>
      refine IsSafe.afterDispatch hgoOn (hs.keep (s.sameIntake_dispatch m)) fun f hf => ?_
      rcases dispatch_failed hf with ⟨_, h⟩ | ⟨_, h⟩ <;> cases h

/-- The loop takes what came first. -/
theorem IsSafe.taken {x : Incoming} {rest : List Incoming} (hs : s.IsSafe)
    (hinbox : ∀ f, .failure f ∈ x :: rest → f.kind ≠ .unexpected) :
    (Session.take goOn { s with inbox := rest } x).IsSafe := by
  refine IsSafe.take hgoOn ⟨fun f hf => hinbox f (List.mem_cons_of_mem _ hf), hs.2⟩ fun f hf => ?_
  exact hinbox f (hf ▸ List.mem_cons_self)

end Loop

theorem IsSafe.receiveAll {xs : List Incoming} (hs : s.IsSafe)
    (hxs : ∀ f, .failure f ∈ xs → f.kind ≠ .unexpected) : (receiveAll xs s).IsSafe := by
  induction xs generalizing s with
  | nil =>
      unfold Session.receiveAll
      split
      · exact ⟨hs.1, fun f hf => by cases hf⟩
      · exact hs.finish fun f hf => by cases hf
  | cons x rest ih =>
      unfold Session.receiveAll
      split
      · exact IsSafe.taken (fun s hs => ih hs fun f hf => hxs f (List.mem_cons_of_mem _ hf)) hs hxs
      · exact hs.finish fun f hf => by cases hf

theorem IsSafe.receive (hs : s.IsSafe) : s.receive.IsSafe := by
  unfold Session.receive
  split
  · exact hs.receiveAll hs.1
  · split
    · exact ⟨hs.1, nofun⟩
    · next x rest hinbox =>
      have hxs : ∀ f, .failure f ∈ x :: rest → f.kind ≠ .unexpected := hinbox ▸ hs.1
      exact IsSafe.taken (fun s hs => hs.receiveAll fun f hf => hxs f (List.mem_cons_of_mem _ hf))
        hs hxs
  · refine IsSafe.afterDispatch (fun s hs => hs.receiveAll hs.1) ?_ fun f =>
      advanceHandler_survives _ _ _
    exact hs.keep (sameIntake_advanceHandler (s.leave .loop) _)
  · exact hs

/-! ### Lives -/

theorem IsSafe.wake (hs : s.IsSafe) (w : Waiter) : (s.wake w).IsSafe := by
  cases w with
  | loop =>
      dsimp only [Session.wake]
      split
      · exact ⟨hs.1, nofun⟩
      · exact hs
  | task n =>
      dsimp only [Session.wake]
      split
      · split <;> exact hs
      · exact hs

theorem IsSafe.arrive (hs : s.IsSafe) {x : Incoming}
    (hx : ∀ f, x = .failure f → f.kind ≠ .unexpected) : (s.arrive x).IsSafe := by
  have hinbox : ∀ f, .failure f ∈ s.inbox ++ [x] → f.kind ≠ .unexpected := by
    intro f hf
    rcases List.mem_append.1 hf with hf | hf
    · exact hs.1 f hf
    · exact hx f (List.mem_singleton.1 hf).symm
  unfold Session.arrive
  dsimp only
  split
  · exact ⟨hinbox, nofun⟩
  · exact ⟨hinbox, hs.2⟩

theorem IsSafe.turn (hs : s.IsSafe) (place : Nat) : (s.turn place).IsSafe := by
  unfold Session.turn
  split
  · exact hs
  · next j _ =>
    have hready : IsSafe { s with ready := s.ready.eraseIdx place } := hs
    cases j with
    | receive => exact hready.receive
    | serve n => exact hready.keep (sameIntake_serve _ n)
    | clear n failure => exact hready.keep (sameIntake_clear _ n failure)
    | call n => exact hready.keep (sameService_continueCall _ n).intake

/-- What happens to an endpoint makes its loop fail only if a failure that it does not expect
comes. -/
theorem IsSafe.after (hs : s.IsSafe) {h : Happening}
    (hx : ∀ f, h = .arrival (.failure f) → f.kind ≠ .unexpected) : (s.after h).IsSafe := by
  cases h with
  | arrival x => exact hs.arrive fun f hf => hx f (hf ▸ rfl)
  | turn place => exact hs.turn place
  | call label method params => exact hs
  | cancel id => exact hs.keep (Action.sameService_cancelRequest id s).intake
  | notify method params =>
      exact hs.keep (Action.sameService_sendNotification method params s).intake
  | log message type => exact hs.keep (Action.sameIntake_logMessage message type s)
  | collect entry => exact hs
  | flush => exact hs.keep (Action.sameIntake_flushLogs s)
  | openGate gate =>
      have hwake : ∀ (ws : List (String × Waiter)) (s : Session), s.IsSafe →
          (ws.foldl (fun s w => s.wake w.2) s).IsSafe := by
        intro ws
        induction ws with
        | nil => exact fun s hs => hs
        | cons w rest ih => exact fun s hs => ih _ (hs.wake w.2)
      exact hwake _ { s with openGates := gate :: s.openGates } hs
  | stop => exact hs
  | transport failure => exact hs
  | handleRequests method handler =>
      show ((s.onRequest method handler).toOption.getD s).IsSafe
      unfold onRequest
      cases s.methodFor method .request <;> exact hs
  | handleNotifications method handler =>
      show ((s.onNotification method handler).toOption.getD s).IsSafe
      unfold onNotification
      cases s.methodFor method .notification <;> exact hs

theorem IsSafe.life (hs : s.IsSafe) (hs' : List Happening)
    (hx : ∀ f, .arrival (.failure f) ∈ hs' → f.kind ≠ .unexpected) : (s.life hs').IsSafe := by
  induction hs' generalizing s with
  | nil => exact hs
  | cons h rest ih =>
      exact ih (hs.after fun f hf => hx f (hf ▸ List.mem_cons_self))
        fun f hf => hx f (List.mem_cons_of_mem _ hf)

end Session

/-! ### Streams -/

/-- A failure that the loop expects ends it without a failure of its own. -/
theorem ReceiveError.IsExpected.kind {e : ReceiveError} (h : e.IsExpected) :
    e.failure.kind ≠ .unexpected := by
  cases e with
  | fault f => exact nofun
  | ended => exact nofun
  | cutOff present expected => exact nofun
  | longLine endSeen => exact h.elim
  | tooLong digits => exact h.elim
  | encoding e => exact h.elim

/-- Whatever bytes are read, an object of JSON comes of them, or a failure that is due to the bytes:
one of a stream that ends or is not framed, unless a line or a number is too long or the header is
no ASCII. -/
theorem receive_reported (bytes : Bytes) :
    match (receive {} bytes).outcome with
    | .ok m => m.IsJson ∧ ∃ es, m = .object es
    | .error e => e.IsDue bytes ∧ (IsPlain bytes → e.IsExpected) := by
  have h := receive_cases bytes
  cases houtcome : (receive {} bytes).outcome with
  | ok m =>
      rw [houtcome] at h
      exact h
  | error e =>
      rw [houtcome] at h
      exact ⟨h, h.expected⟩

/-- Reading gives an object of JSON or a failure that is due to the bytes, and an expected one
unless a line or a number is too long or the header is no ASCII. A loop that takes what is read
from streams without those never ends with a failure of reading, whatever else happens to its
endpoint. -/
theorem malformed_streams_reported (bytes : Bytes) :
    (match (receive {} bytes).outcome with
      | .ok m => m.IsJson ∧ ∃ es, m = .object es
      | .error e => e.IsDue bytes ∧ (IsPlain bytes → e.IsExpected)) ∧
    ∀ F R hs, (∀ x, .arrival x ∈ hs → ∃ bytes, IsPlain bytes ∧ x = (receive {} bytes).incoming) →
      ∀ f, ((Session.start F R).life hs).loop ≠ .ended (some (.transport f)) := by
  refine ⟨receive_reported bytes, fun F R hs harrivals => ?_⟩
  have hstart : (Session.start F R).IsSafe := ⟨nofun, nofun⟩
  refine (hstart.life hs fun f hf => ?_).2
  obtain ⟨bytes, hplain, hx⟩ := harrivals _ hf
  have h := receive_reported bytes
  rw [Received.incoming] at hx
  split at hx
  · cases hx
  · next e he =>
    cases hx
    rw [he] at h
    exact (h.2 hplain).kind

/-- A stream that closes within its first line ends the loop in peace. -/
theorem malformed_streams_reported_cut :
    ((Session.start Catalog.family Catalog.legacy).life
      [.turn 0, .arrival (receive {} (asciiBytes ['x'])).incoming, .turn 0]).loop ≠
        .ended (some (.transport (ReceiveError.longLine false).failure)) := by
  have htext : LineText ['x'] := ⟨isAscii_of_all rfl, by decide, by decide⟩
  have hcut := takeHeader_cut htext (by decide)
  have hlines : headerLines (asciiBytes ['x']) = [asciiBytes ['x']] :=
    headerLines_last (by decide) (by decide)
  refine (malformed_streams_reported (asciiBytes ['x'])).2 _ _ _ (fun x hx => ?_) _
  have hplain : IsPlain (asciiBytes ['x']) := by
    refine ⟨?_, ?_, ?_⟩
    · rintro ⟨line, hline, hlong⟩
      rw [hlines] at hline
      cases List.mem_singleton.1 hline
      exact absurd hlong (by decide)
    · rintro ⟨header, rest, length, text, htaken, _⟩
      rw [hcut] at htaken
      cases htaken
    · rintro ⟨line, hline, b, hb, hforeign⟩
      rw [hlines] at hline
      cases List.mem_singleton.1 hline
      cases List.mem_singleton.1 hb
      exact absurd hforeign (by decide)
  refine ⟨_, hplain, ?_⟩
  simpa using hx

/-- A header that begins with a letter that is no ASCII. -/
def foreignHeader : Bytes := [0xc3, 0xa9, 0x3a, 0x20, 0x31, 0x0d, 0x0a, 0x0d, 0x0a]

/-- A byte of a header that is no ASCII is not reported as a fault of the frame, and it makes the
loop fail. -/
theorem foreign_header_unreported :
    (receive {} foreignHeader).outcome =
      .error (.encoding (.undecodable "ascii" 0 [0xc3] .beyondAscii)) ∧
    ((Session.start Catalog.family Catalog.legacy).life
      [.turn 0, .arrival (receive {} foreignHeader).incoming, .turn 0]).loop =
        .ended (some (.transport ⟨.unexpected, "UnicodeDecodeError",
          "'ascii' codec can't decode byte 0xc3 in position 0: ordinal not in range(128)"⟩)) := by
  have hread : (receive {} foreignHeader).outcome =
      .error (.encoding (.undecodable "ascii" 0 [0xc3] .beyondAscii)) := by
    have hline : takeLine foreignHeader = (.ok (foreignHeader.take 7), [0x0d, 0x0a]) := by decide
    have hfault : readAscii.readAll "ascii" 0 (foreignHeader.take 7) =
        .error (.undecodable "ascii" 0 [0xc3] .beyondAscii) := by
      show readAscii.readAll "ascii" 0 (0xc3 :: [0xa9, 0x3a, 0x20, 0x31, 0x0d, 0x0a]) = _
      rw [readAscii_cons, if_neg (by decide)]
    rw [receive, takeHeader_foreign hline hfault]
  refine ⟨hread, ?_⟩
  rw [Received.incoming, hread]
  rfl

end EditorProtocol
