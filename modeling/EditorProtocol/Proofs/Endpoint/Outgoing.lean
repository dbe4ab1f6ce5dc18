import EditorProtocol.Proofs.Endpoint.Course
import EditorProtocol.Proofs.Endpoint.Ledger
import EditorProtocol.Proofs.Method.Lifecycle

/-!
The moves of an endpoint are steps of its ledger. A response, a cancellation and the end of the loop
give outcomes to the requests that wait for one and to no others; the turn of a caller sends its
request, or ends its call with the outcome.
-/

namespace EditorProtocol

variable {F : Family} {R : Registry} {L M : Ledger} {d : Deed} {o : Outstanding} {s t : Session}

/-- What a registry takes for requests to be answered and to be cancelled: a method is taken for the
same as itself, and there is the notification that cancels. -/
structure Registry.ServesCallers (R : Registry) : Prop where
  same : ∀ m ∈ R.methods, m.same m = true
  cancels : R.contains Catalog.cancelName = true

namespace Ledger

/-! ### Steps without a turn -/

theorem filter_isDecided_nil
    (quiet : ∀ o ∈ L.outstanding, o.outcome = none → o.verdict F R d = none) :
    L.outstanding.filter (·.isDecided F R d) = [] := by
  refine List.filter_eq_nil_iff.2 fun o ho hdecided => ?_
  obtain ⟨hopen, hsome⟩ := Bool.and_eq_true_iff.1 hdecided
  rw [quiet o ho (Option.isNone_iff_eq_none.1 hopen)] at hsome
  cases hsome

/-- A deed without a verdict leaves all requests as they are. -/
theorem Step.quiet {cancelled : List RequestId} {nextNumber : Nat} (isTurn : d.isTurn = false)
    (quiet : ∀ o ∈ L.outstanding, o.outcome = none → o.verdict F R d = none)
    (withdrawn : cancelled ⊆ L.cancelled) (le : L.nextNumber ≤ nextNumber) :
    Step F R L d { L with cancelled := cancelled, nextNumber := nextNumber } := by
  have hmeets : ∀ o ∈ L.outstanding, o.Meets F R d o := fun o ho => .of_silent (quiet o ho)
  have h := Step.decided (f := fun o => o) isTurn hmeets (fun id hid => .inl (withdrawn hid)) le
  rwa [filter_isDecided_nil quiet, List.map_nil, List.append_nil, List.map_id'] at h

theorem Step.passed (isTurn : d.isTurn = false) (h : ∀ o : Outstanding, o.verdict F R d = none) :
    Step F R L d L :=
  .quiet isTurn (fun o _ _ => h o) (List.Subset.refl _) (Nat.le_refl _)

/-- A deed about a request that has its outcome changes nothing. -/
theorem Step.late (sound : L.Sound R) (isTurn : d.isTurn = false) (ho : o ∈ L.outstanding)
    (hdone : o.outcome.isSome = true)
    (others : ∀ q ∈ L.outstanding, q.id ≠ o.id → q.outcome = none → q.verdict F R d = none) :
    Step F R L d L := by
  refine .quiet isTurn (fun q hq hopen => others q hq ?_ hopen) (List.Subset.refl _) (Nat.le_refl _)
  intro hid
  cases sound.eq_of_id hq ho hid
  rw [hopen] at hdone
  cases hdone

/-- What a deed does to the request of an identity. -/
def settled (o : Outstanding) (p : PendingRequest) (x : Except EndpointError Reply)
    (q : Outstanding) : Outstanding :=
  if q.id == o.id then { q with pending := p, outcome := some x } else q

/-- Where no identity stands for two requests, an outcome that leaves the states of all requests of
an identity leaves that of the one request. -/
theorem map_outcome (sound : L.Sound R) (ho : o ∈ L.outstanding)
    (x : Except EndpointError Reply) :
    (L.outstanding.map fun q => if q.id == o.id then { q with outcome := some x } else q) =
      L.outstanding.map (settled o o.pending x) := by
  refine List.map_congr_left fun q hq => ?_
  by_cases hid : q.id = o.id
  · cases sound.eq_of_id hq ho hid
    simp [settled]
  · simp [settled, hid]

/-- A call whose request could not be handed over leaves nothing behind but a used identity. -/
theorem endCall_send {c : Caller} {e : Event} (unsent : c.sent = none)
    (hother : ∀ p ∈ L.outstanding, p.id ≠ o.id) :
    (L.send c o).endCall { c with sent := some o.id } e =
      { L.endCall c e with nextId := L.nextId + 1 } := by
  have hcallers : (L.callers.map fun d =>
      if d.number == c.number then { c with sent := some o.id } else d).filter
        (·.number != c.number) = L.callers.filter (·.number != c.number) := by
    rw [List.filter_map]
    have hnumber : ((fun d : Caller => d.number != c.number) ∘ fun d =>
        if d.number == c.number then { c with sent := some o.id } else d) =
          fun d => d.number != c.number := by
      funext d
      rw [Function.comp, number_sent]
    rw [hnumber]
    refine (List.map_congr_left fun d hd => ?_).trans (List.map_id' _)
    exact if_neg (by simpa using (List.mem_filter.1 hd).2)
  have houtstanding : ((L.outstanding ++ [o]).filter fun p => some o.id != some p.id) =
      L.outstanding.filter fun p => c.sent != some p.id := by
    rw [List.filter_append, unsent]
    have hold : (L.outstanding.filter fun p => some o.id != some p.id) = L.outstanding := by
      refine List.filter_eq_self.2 fun p hp => ?_
      exact bne_iff_ne.2 fun hid => hother p hp (Option.some.inj hid).symm
    have hall : (L.outstanding.filter fun p => none != some p.id) = L.outstanding :=
      List.filter_eq_self.2 fun p _ => rfl
    rw [hold, hall]
    simp
  unfold send endCall
  dsimp only
  rw [hcallers, houtstanding]

/-- A deed gives one request its outcome. -/
theorem Step.settles (cancelled : List RequestId) (sound : L.Sound R) {p : PendingRequest}
    {x : Except EndpointError Reply} (isTurn : d.isTurn = false) (ho : o ∈ L.outstanding)
    (hopen : o.outcome = none) (request : p.request = o.pending.request)
    (verdict : o.verdict F R d = some x)
    (others : ∀ q ∈ L.outstanding, q.id ≠ o.id → q.outcome = none → q.verdict F R d = none)
    (withdrawn : ∀ id ∈ cancelled, id ∈ L.cancelled ∨ id = o.id) :
    Step F R L d { L with outstanding := L.outstanding.map (settled o p x), cancelled := cancelled,
                          due := L.due ++ [o.caller] } := by
  have hsettled : settled o p x o = { o with pending := p, outcome := some x } := by
    simp [settled]
  have hmeets : ∀ q ∈ L.outstanding, q.Meets F R d (settled o p x q) := by
    intro q hq
    by_cases hid : q.id = o.id
    · cases sound.eq_of_id hq ho hid
      rw [hsettled]
      refine ⟨rfl, rfl, request, ?_, fun h => ?_⟩
      · rw [hopen, verdict, Option.none_or]
      · rw [hopen] at h
        cases h
    · rw [settled, if_neg (mt beq_iff_eq.1 hid)]
      exact .of_silent (others q hq hid)
  have hdecided : L.outstanding.filter (·.isDecided F R d) = [o] := by
    refine filter_eq_singleton sound.distinct ho fun q hq => ?_
    rw [Outstanding.isDecided, Bool.and_eq_true_iff, Option.isNone_iff_eq_none]
    constructor
    · rintro ⟨hq', hsome⟩
      by_contra hid
      rw [others q hq hid hq'] at hsome
      cases hsome
    · intro hid
      cases sound.eq_of_id hq ho hid
      rw [hopen, verdict]
      exact ⟨rfl, rfl⟩
  have hwithdrawn : ∀ id ∈ cancelled, id ∈ L.cancelled ∨
      ∃ q ∈ L.outstanding, q.id = id ∧ (settled o p x q).outcome.isSome = true := by
    intro id hid
    rcases withdrawn id hid with hold | rfl
    · exact .inl hold
    · refine .inr ⟨o, ho, rfl, ?_⟩
      rw [hsettled]
      rfl
  have h := Step.decided isTurn hmeets hwithdrawn (Nat.le_refl L.nextNumber)
  rwa [hdecided] at h

end Ledger

/-! ### What the operations do to the ledger -/

namespace Session

theorem outstanding?_eq {id : RequestId} (h : s.outstanding? id = some o) :
    o ∈ s.outstanding ∧ o.id = id :=
  ⟨List.mem_of_find?_eq_some h, key_of_find? h⟩

theorem outstanding?_of_mem (sound : s.ledger.Sound R) (ho : o ∈ s.outstanding) :
    s.outstanding? o.id = some o :=
  find?_eq_of_nodup sound.distinct ho

theorem ledger_settle {id : RequestId} (h : s.outstanding.find? (·.id == id) = some o)
    (x : Except EndpointError Reply) :
    (s.settle id x).ledger =
      { s.ledger with
        outstanding := s.outstanding.map fun q =>
          if q.id == id then { q with outcome := some x } else q
        due := s.ledger.due ++ [o.caller] } := by
  unfold settle outstanding?
  rw [h]
  simp [ledger, Job.caller?]

/-- An outcome together with the state of the request. -/
theorem ledger_settle_moved (h : s.outstanding? o.id = some o) (p : PendingRequest)
    (x : Except EndpointError Reply) (cancelled : List RequestId) :
    ({ s with
        outstanding := s.outstanding.map fun q : Outstanding =>
          if q.id == o.id then { q with pending := p } else q
        cancelledOutgoing := cancelled }.settle o.id x).ledger =
      { s.ledger with
        outstanding := s.outstanding.map (Ledger.settled o p x)
        cancelled := cancelled
        due := s.ledger.due ++ [o.caller] } := by
  have hfind : (s.outstanding.map fun q : Outstanding =>
      if q.id == o.id then { q with pending := p } else q).find? (·.id == o.id) =
        some { o with pending := p } := by
    have hid : ∀ q : Outstanding,
        (if q.id == o.id then { q with pending := p } else q).id = q.id := by
      intro q
      split
      · rfl
      · rfl
    unfold outstanding? at h
    rw [find?_map_of_key hid, h]
    simp
  rw [ledger_settle hfind]
  have hmap : ((fun q : Outstanding => if q.id == o.id then { q with outcome := some x } else q) ∘
      fun q : Outstanding => if q.id == o.id then { q with pending := p } else q) =
        Ledger.settled o p x := by
    funext q
    by_cases hq : q.id = o.id
    · simp [Ledger.settled, hq]
    · simp [Ledger.settled, hq]
  rw [List.map_map, hmap]
  rfl

theorem isEnd_outcomeEvent (c : Caller) (x : Except EndpointError Reply) :
    (outcomeEvent c x).isEnd = true := by
  cases x with
  | error e => rfl
  | ok r =>
      dsimp only [outcomeEvent]
      split
      · rfl
      · rfl

theorem ledger_endCall (s : Session) (c : Caller) {e : Event} (h : e.isEnd = true) :
    (s.endCall c e).ledger = s.ledger.endCall c e := by
  simp [ledger, Ledger.endCall, endCall, emit, h]

/-- A caller either fails to send its request, or the request waits from then on; in the latter case
the transport may still refuse it. -/
theorem sendRequest_cases (s : Session) (c : Caller) :
    (∃ e t, (Action.sendRequest c).run s = (.error e, t) ∧ t.ledger = s.ledger) ∨
      ∃ r t p, (Action.sendRequest c).run s = (r, t) ∧
        (Outstanding.mk (.number s.nextId) p c.number none).IsWaiting s.registry ∧
        t.ledger = s.ledger.send c ⟨.number s.nextId, p, c.number, none⟩ ∧
        (r = .ok () → t.outbox =
          s.outbox ++ [p.request.message (RequestId.number s.nextId).value]) := by
  unfold Action.sendRequest
  rw [Action.run_get_bind, Action.run_bind, Action.run_ofTraced, Traced.outcome_of]
  cases Method.nameOf c.method with
  | error e => exact .inl ⟨_, _, rfl, rfl⟩
  | ok name =>
      dsimp only [mapError_ok]
      rw [Action.run_bind, Action.run_ofTraced]
      cases hbuild : (s.registry.buildRequest s.family name c.params).outcome with
      | error e => exact .inl ⟨_, _, rfl, rfl⟩
      | ok r =>
          dsimp only [mapError_ok]
          rw [PendingRequest.markAwaiting_start, Action.run_modify_bind, Action.run_bind,
            Action.run_ofTransition]
          dsimp only [mapError_ok]
          rw [Action.run_modify_bind, Action.run_modify_bind]
          obtain ⟨⟨hfind, hrequest⟩, _⟩ := Registry.buildRequest_ok_iff.1 hbuild
          refine .inr ⟨_, _, ⟨(RequestId.number s.nextId).value, r, .awaitingReply, none,
            s.registry.contains Catalog.cancelName⟩, rfl, ⟨rfl, ?_, hrequest, rfl⟩, ?_, ?_⟩
          · exact (Registry.find?_name hfind).symm ▸ hfind
          · have htransmitted : Action.Within Agrees
                (Action.transmit (r.message (RequestId.number s.nextId).value)) :=
              .transmit fun s => agrees_sent rfl
            exact (htransmitted _).ledger
          · intro hsent
            exact Action.outbox_transmit hsent

/-- A request when the loop ends. -/
def closed (o : Outstanding) : Outstanding :=
  if o.outcome.isSome then o
  else { o with outcome := some (.error (.connectionClosed o.method.name)) }

/-- The end of the loop closes the requests one after the other. -/
theorem ledger_closed (os done : List Outstanding) {s : Session}
    (houtstanding : s.outstanding = done ++ os) (nodup : (s.outstanding.map (·.id)).Nodup) :
    (os.foldl (fun s o =>
        if o.outcome.isSome then s
        else s.settle o.id (.error (.connectionClosed o.pending.request.method.name))) s).ledger =
      { s.ledger with
        outstanding := done ++ os.map closed
        due := s.ledger.due ++ (os.filter (·.outcome.isNone)).map (·.caller) } := by
  induction os generalizing done s with
  | nil =>
      rw [List.append_nil] at houtstanding
      rw [List.foldl_nil, List.map_nil, List.append_nil, ← houtstanding]
      simp [ledger]
  | cons o rest ih =>
      rw [List.foldl_cons]
      cases hopen : o.outcome with
      | some x =>
          have hclosed : closed o = o := by simp [closed, hopen]
          rw [Option.isSome_some, if_pos rfl, ih (done ++ [o]) (by simp [houtstanding]) nodup]
          simp [hclosed, hopen]
      | none =>
          have ho : o ∈ s.outstanding := houtstanding ▸ List.mem_append_right _ (.head _)
          have hledger := ledger_settle (find?_eq_of_nodup nodup ho)
            (.error (.connectionClosed o.pending.request.method.name))
          have hclosed : closed o =
              { o with outcome := some (.error (.connectionClosed o.method.name)) } := by
            simp [closed, hopen]
          rw [houtstanding] at nodup
          -- Only this request changes, as no other one has its identity.
          have hsettled : (s.settle o.id
              (.error (.connectionClosed o.pending.request.method.name))).outstanding =
                (done ++ [closed o]) ++ rest := by
            refine (congrArg Ledger.outstanding hledger).trans ?_
            dsimp only
            rw [houtstanding, map_eq_of_nodup nodup fun q hq => if_neg (mt beq_iff_eq.1 hq),
              if_pos (beq_self_eq_true _), hclosed]
            simp [Outstanding.method]
          have hids : ((s.settle o.id
              (.error (.connectionClosed o.pending.request.method.name))).outstanding.map
                (·.id)).Nodup := by
            rw [hsettled]
            simpa [hclosed] using nodup
          rw [Option.isSome_none, if_neg Bool.false_ne_true, ih (done ++ [closed o]) hsettled hids,
            hledger]
          simp [hopen]

theorem due_of_job {before after : List Job} {n : Nat}
    (job : s.ready = before ++ .call n :: after) :
    s.ledger.due = before.filterMap Job.caller? ++ n :: after.filterMap Job.caller? := by
  simp [ledger, job, Job.caller?]

theorem ledger_dequeued (s : Session) (before after : List Job) :
    { s with ready := before ++ after }.ledger =
      { s.ledger with due := before.filterMap Job.caller? ++ after.filterMap Job.caller? } := by
  simp [ledger]

end Session

/-! ### Responses and cancellations -/

namespace Outstanding

variable {m : Value} {reply : Reply}

/-- A request that waits takes every reply that its registry accepts for it. -/
theorem IsWaiting.resolves (h : o.IsWaiting R) (serves : R.ServesCallers)
    (accepted : (R.acceptResponse F o.method.name m).outcome = .ok reply) :
    ∃ p, o.pending.resolve reply = .ok p ∧ p.request = o.pending.request := by
  have hmethod := (Registry.method_of_acceptResponse accepted).symm.trans h.method
  refine PendingRequest.resolve_of_awaiting h.state ?_
  rw [Option.some.inj hmethod]
  exact serves.same _ (Registry.mem_of_find? h.method)

theorem reading_of_accepted (accepted : (R.acceptResponse F o.method.name m).outcome = .ok reply) :
    o.reading F R m = some (.ok reply) := by
  rw [reading, accepted]

end Outstanding

namespace Session

/-- What a response does to the ledger. -/
inductive Hears (s : Session) (m : Value) : Ledger → Prop
  /-- It names no request, or one that has its outcome, or it is not read. -/
  | idle (unmarked : ∀ id ∈ s.cancelledOutgoing, m.answeredId? ≠ some id)
      (unread : ∀ o : Outstanding, m.answeredId? = some o.id → s.outstanding? o.id = some o →
        o.outcome = none → o.reading s.family s.registry m = none) : Hears s m s.ledger
  /-- It names a request that was cancelled. -/
  | late (id : RequestId) (named : m.answeredId? = some id) (marked : id ∈ s.cancelledOutgoing) :
      Hears s m { s.ledger with
        cancelled := s.cancelledOutgoing.filter fun k => m.answeredId? != some k }
  /-- It names a request that waits, which fails. -/
  | failed {o : Outstanding} {e : EndpointError} (named : m.answeredId? = some o.id)
      (found : s.outstanding? o.id = some o)
      (unmarked : ∀ id ∈ s.cancelledOutgoing, m.answeredId? ≠ some id) (waits : o.outcome = none)
      (cause : o.reading s.family s.registry m = some (.error e) ∨ ∃ reply refused,
        (s.registry.acceptResponse s.family o.method.name m).outcome = .ok reply ∧
          o.pending.resolve reply = .error refused ∧ e = .transition refused) :
      Hears s m { s.ledger with
        outstanding := s.outstanding.map fun q =>
          if q.id == o.id then { q with outcome := some (.error e) } else q
        due := s.ledger.due ++ [o.caller] }
  /-- It names a request that waits, which takes the reply. -/
  | resolved {o : Outstanding} {p : PendingRequest} {reply : Reply}
      (named : m.answeredId? = some o.id) (found : s.outstanding? o.id = some o)
      (unmarked : ∀ id ∈ s.cancelledOutgoing, m.answeredId? ≠ some id) (waits : o.outcome = none)
      (accepted : (s.registry.acceptResponse s.family o.method.name m).outcome = .ok reply)
      (resolves : o.pending.resolve reply = .ok p) :
      Hears s m { s.ledger with
        outstanding := s.outstanding.map (Ledger.settled o p (.ok reply))
        due := s.ledger.due ++ [o.caller] }

theorem hears_handleResponse (s : Session) (m : Value) :
    s.Hears m ((Action.handleResponse m).run s).2.ledger := by
  unfold Action.handleResponse
  rw [Action.run_get_bind]
  dsimp only
  split
  · next hfloat =>
    have hunnamed : ∀ id, m.answeredId? ≠ some id := by
      intro id named
      rw [Value.answeredId?, hfloat] at named
      cases named
    exact .idle (fun id _ => hunnamed id) fun o named => absurd named (hunnamed o.id)
  next hfloat =>
  have hkey : m.answeredId? = RequestId.ofValue? ((m.at? "id").getD .null) := by
    unfold Value.answeredId?
    split
    · next x hx => exact absurd hx (hfloat x)
    · rfl
  rw [← hkey]
  split
  · next hcontains =>
    obtain ⟨id, named, hmem⟩ := (Option.any_eq_true _ _).1 hcontains
    exact .late id named (List.contains_iff_mem.1 hmem)
  next hunmarked =>
  have unmarked : ∀ id ∈ s.cancelledOutgoing, m.answeredId? ≠ some id := by
    intro id hmem named
    rw [named, Option.any_some] at hunmarked
    exact hunmarked (List.contains_iff_mem.2 hmem)
  split
  · next hnone =>
    refine .idle unmarked fun o named found _ => ?_
    rw [named, Option.bind_some, found] at hnone
    cases hnone
  next o hsome =>
  obtain ⟨id, named, found⟩ := Option.bind_eq_some_iff.1 hsome
  obtain ⟨_, rfl⟩ := outstanding?_eq found
  -- Any request that the response names is this one.
  have hidle : (o.outcome = none → o.reading s.family s.registry m = none) →
      s.Hears m s.ledger := by
    intro hunread
    refine .idle unmarked fun q hq hfound => ?_
    rw [Option.some.inj (hq.symm.trans named), found] at hfound
    cases hfound
    exact hunread
  split
  · next hdone =>
    refine hidle fun hopen => ?_
    rw [hopen] at hdone
    cases hdone
  next hdone =>
  have waits : o.outcome = none := Option.not_isSome_iff_eq_none.1 hdone
  rw [Action.run_bind, Action.run_attempt, Action.run_ofTraced]
  dsimp only
  cases houtcome : (s.registry.acceptResponse s.family o.method.name m).outcome with
  | error e =>
      have hreading : o.reading s.family s.registry m =
          if (EndpointError.refused e).isShape then some (.error (.refused e)) else none := by
        rw [Outstanding.reading, houtcome]
      rw [Outstanding.method] at houtcome
      rw [houtcome]
      dsimp only [mapError_error]
      split
      · next hshape =>
        -- An error that is not about the shape is no outcome.
        refine hidle fun _ => hreading.trans (if_neg ?_)
        simpa using hshape
      · next hshape =>
        rw [if_pos (by simpa using hshape)] at hreading
        refine (congrArg (s.Hears m)
          (ledger_settle (s := (s.note _).report _ _) found _)).mpr ?_
        exact .failed named found unmarked waits (.inl hreading)
  | ok reply =>
      have haccepted := houtcome
      rw [Outstanding.method] at houtcome
      rw [houtcome]
      dsimp only [mapError_ok]
      cases hresolve : o.pending.resolve reply with
      | error e =>
          refine (congrArg (s.Hears m)
            (ledger_settle (s := (s.note _).report _ _) found _)).mpr ?_
          exact .failed named found unmarked waits (.inr ⟨reply, e, haccepted, hresolve, rfl⟩)
      | ok p =>
          refine (congrArg (s.Hears m)
            (ledger_settle_moved (s := s.note _) found p (.ok reply) _)).mpr ?_
          exact .resolved named found unmarked waits haccepted hresolve

/-- What the cancellation of a request does to the ledger. -/
inductive Withdraws (s : Session) (id : Value) : Ledger → Prop
  /-- There is no such request, or it has its outcome, or it cannot be cancelled. -/
  | idle (bound : ∀ o : Outstanding, RequestId.ofValue? id = some o.id →
      s.outstanding? o.id = some o → o.outcome = none → ∀ p, o.pending.cancel ≠ .ok p) :
      Withdraws s id s.ledger
  | withdrawn {o : Outstanding} {p : PendingRequest} (named : RequestId.ofValue? id = some o.id)
      (found : s.outstanding? o.id = some o) (waits : o.outcome = none)
      (cancels : o.pending.cancel = .ok p) :
      Withdraws s id { s.ledger with
        outstanding := s.outstanding.map
          (Ledger.settled o p (.error (.replied (.cancelled p.request.method.name))))
        cancelled :=
          if s.cancelledOutgoing.contains o.id then s.cancelledOutgoing
          else o.id :: s.cancelledOutgoing
        due := s.ledger.due ++ [o.caller] }

theorem withdraws_cancelRequest (s : Session) (id : Value) :
    s.Withdraws id ((Action.cancelRequest id).run s).2.ledger := by
  unfold Action.cancelRequest
  rw [Action.run_get_bind]
  split
  · next hnone =>
    refine .idle fun o named found => ?_
    rw [named, Option.bind_some, found] at hnone
    cases hnone
  next o hsome =>
  obtain ⟨k, named, found⟩ := Option.bind_eq_some_iff.1 hsome
  obtain ⟨_, rfl⟩ := outstanding?_eq found
  -- Any request that the value names is this one.
  have hidle : (o.outcome = none → ∀ p, o.pending.cancel ≠ .ok p) → s.Withdraws id s.ledger := by
    intro hbound
    refine .idle fun q hq hfound => ?_
    rw [Option.some.inj (hq.symm.trans named), found] at hfound
    cases hfound
    exact hbound
  dsimp only
  split
  · next hdone =>
    refine hidle fun hopen => ?_
    rw [hopen] at hdone
    cases hdone
  next hdone =>
  rw [Action.run_bind, Action.run_ofTransition]
  cases hcancel : o.pending.cancel with
  | error e =>
      refine hidle fun _ p hp => ?_
      rw [hcancel] at hp
      cases hp
  | ok p =>
      dsimp only [mapError_ok]
      rw [Action.run_modify_bind, Action.run_modify_bind]
      -- The outcome is settled before the other side is told, whether that succeeds or not.
      have htold : Action.Within Agrees (do
          let _ ← Action.sendNotification Catalog.cancelName
            (Catalog.cancelParams.instanceOf [("id", o.id.value)])
          pure ()) :=
        .bind (Action.agrees_sendNotification _ _) fun _ => .pure ()
      rw [(htold _).ledger, ledger_settle_moved found]
      exact .withdrawn named found (Option.not_isSome_iff_eq_none.1 hdone) hcancel

end Session

section Moves

variable (serves : s.registry.ServesCallers) (sound : s.ledger.Sound s.registry)
include serves sound

open Session in
theorem Session.step_response (m : Value) :
    Ledger.Step s.family s.registry s.ledger (.response m)
      ((Action.handleResponse m).run s).2.ledger := by
  have hverdict : ∀ q : Outstanding, m.answeredId? = some q.id →
      q.verdict s.family s.registry (.response m) = q.reading s.family s.registry m :=
    fun q hid => if_pos hid
  have hothers : ∀ {o : Outstanding}, m.answeredId? = some o.id → ∀ q ∈ s.ledger.outstanding,
      q.id ≠ o.id → q.outcome = none → q.verdict s.family s.registry (.response m) = none := by
    intro o hid q _ hne _
    exact if_neg fun hq => hne (Option.some.inj (hq.symm.trans hid))
  have hhears := s.hears_handleResponse m
  generalize ((Action.handleResponse m).run s).2.ledger = M at hhears ⊢
  cases hhears with
  | idle _ unread =>
      refine .quiet rfl (fun o ho hopen => ?_) (List.Subset.refl _) (Nat.le_refl _)
      by_cases hid : m.answeredId? = some o.id
      · rw [hverdict o hid]
        exact unread o hid (outstanding?_of_mem sound ho) hopen
      · exact if_neg hid
  | late id named marked =>
      -- A cancelled request has its outcome, so that the response is of no use to it.
      refine .quiet rfl (fun o ho hopen => if_neg fun hid => ?_) List.filter_sublist.subset
        (Nat.le_refl _)
      have hsome := (sound.withdrawn id marked).2 o ho (Option.some.inj (hid.symm.trans named))
      rw [hopen] at hsome
      cases hsome
  | @failed o e named found _ waits cause =>
      have ho := (outstanding?_eq found).1
      have hreading : o.reading s.family s.registry m = some (.error e) := by
        rcases cause with hreading | ⟨reply, _, accepted, hrefused, _⟩
        · exact hreading
        · obtain ⟨p, hp, _⟩ := (sound.waiting o ho waits).resolves serves accepted
          cases hrefused.symm.trans hp
      refine (congrArg (fun os => Ledger.Step s.family s.registry s.ledger (.response m)
        { s.ledger with outstanding := os, due := s.ledger.due ++ [o.caller] })
        (Ledger.map_outcome sound ho _)).mpr ?_
      exact .settles _ sound rfl ho waits rfl ((hverdict o named).trans hreading) (hothers named)
        fun id hid => .inl hid
  | @resolved o p reply named found _ waits accepted resolves =>
      have hreading := Outstanding.reading_of_accepted accepted
      exact .settles _ sound rfl (outstanding?_eq found).1 waits
        (PendingRequest.request_of_resolve resolves) ((hverdict o named).trans hreading)
        (hothers named) fun id hid => .inl hid

open Session in
theorem Session.step_cancellation (id : Value) :
    Ledger.Step s.family s.registry s.ledger (.cancellation id)
      ((Action.cancelRequest id).run s).2.ledger := by
  have hothers : ∀ {o : Outstanding}, RequestId.ofValue? id = some o.id →
      ∀ q ∈ s.ledger.outstanding, q.id ≠ o.id → q.outcome = none →
        q.verdict s.family s.registry (.cancellation id) = none := by
    intro o hid q _ hne _
    exact if_neg fun hq => hne (Option.some.inj (hq.symm.trans hid))
  have hwithdraws := s.withdraws_cancelRequest id
  generalize ((Action.cancelRequest id).run s).2.ledger = M at hwithdraws ⊢
  cases hwithdraws with
  | idle bound =>
      refine .quiet rfl (fun o ho hopen => if_neg fun hid => ?_) (List.Subset.refl _)
        (Nat.le_refl _)
      have hwaiting := sound.waiting o ho hopen
      obtain ⟨p, hp, _⟩ := PendingRequest.cancel_of_awaiting hwaiting.state
        (hwaiting.cancellable.trans serves.cancels)
      exact bound o hid (outstanding?_of_mem sound ho) hopen p hp
  | @withdrawn o p named found waits cancels =>
      have hrequest := PendingRequest.request_of_cancel cancels
      have hverdict : o.verdict s.family s.registry (.cancellation id) =
          some (.error (.replied (.cancelled p.request.method.name))) := by
        rw [hrequest]
        exact if_pos named
      refine .settles _ sound rfl (outstanding?_eq found).1 waits hrequest hverdict
        (hothers named) fun i hi => ?_
      split at hi
      · exact .inl hi
      · rcases List.mem_cons.1 hi with rfl | hi
        · exact .inr rfl
        · exact .inl hi

omit serves in
open Session in
theorem Session.step_closing (failure : Option EndpointError) :
    Ledger.Step s.family s.registry s.ledger .closing (s.finish failure).ledger := by
  have hagrees : s.Agrees
      (s.tasks.foldl (fun s t => s.cancelTask t.number) { s with loop := .ended failure }) :=
    .trans (t := { s with loop := .ended failure }) ⟨rfl, rfl, rfl⟩
      (foldl_within (fun s (t : Task) => s.agrees_cancelTask t.number) _ _)
  have hledger := hagrees.ledger
  unfold finish
  dsimp only
  generalize s.tasks.foldl (fun s t => s.cancelTask t.number) { s with loop := .ended failure } = s'
    at hledger ⊢
  have houtstanding : s'.outstanding = s.outstanding := congrArg Ledger.outstanding hledger
  have hclosed := ledger_closed s'.outstanding [] (s := s') rfl
    (houtstanding ▸ sound.distinct)
  rw [hclosed, hledger, houtstanding, List.nil_append]
  have hdecided : (fun o : Outstanding => o.isDecided s.family s.registry .closing) =
      fun o => o.outcome.isNone := by
    funext o
    exact Bool.and_true _
  have hmeets : ∀ o ∈ s.ledger.outstanding, o.Meets s.family s.registry .closing (closed o) := by
    intro o _
    unfold closed
    cases hopen : o.outcome with
    | some x => exact ⟨rfl, rfl, rfl, by simp [hopen], fun _ => rfl⟩
    | none =>
        exact ⟨rfl, rfl, rfl, by simp [hopen, Outstanding.verdict], fun h => by simp [hopen] at h⟩
  have h := Ledger.Step.decided rfl hmeets (fun id hid => .inl hid)
    (Nat.le_refl s.ledger.nextNumber)
  rw [hdecided] at h
  exact h

omit serves in
open Session in
/-- The turn of a caller that has sent nothing yet: its request waits from then on, or its call ends
with the reason why it could not be sent. -/
theorem Session.step_sending {c : Caller} {before after : List Job}
    (job : s.ready = before ++ .call c.number :: after) (hc : c ∈ s.callers)
    (unsent : c.sent = none) :
    Ledger.Step s.family s.registry s.ledger
      (.resumed c.number ({ s with ready := before ++ after }.ending? c.number))
      ({ s with ready := before ++ after }.continueCall c.number).ledger := by
  have hdue := due_of_job job
  have hrest := ledger_dequeued s before after
  have hcaller : { s with ready := before ++ after }.caller? c.number = some c :=
    find?_eq_of_nodup sound.callers hc
  have hcause : ∀ e id, c.sent = some id → ∃ o ∈ s.outstanding, o.id = id ∧
      ∃ x, o.outcome = some x ∧ e = outcomeEvent c x := by
    intro e id hid
    cases unsent.symm.trans hid
  unfold continueCall ending?
  rw [hcaller, Option.bind_eq_bind, Option.bind_some]
  dsimp only
  rw [unsent]
  dsimp only
  rcases { s with ready := before ++ after }.sendRequest_cases c with
    ⟨e, t, hrun, ht⟩ | ⟨r, t, p, hrun, hwaiting, ht, _⟩
  · have htcaller : t.caller? c.number = some c := by
      have hcallers : t.callers = s.callers := congrArg Ledger.callers ht
      unfold caller? at hcaller ⊢
      rw [hcallers, hcaller]
    rw [hrun]
    dsimp only
    rw [htcaller, Option.getD_some, ledger_endCall _ _ rfl, ht, hrest]
    exact .ended hc hdue (hcause _) (Nat.le_refl _)
  · rw [hrun]
    cases r with
    | ok _ =>
        dsimp only
        rw [ht, hrest]
        exact .sent hc unsent hdue rfl rfl rfl hwaiting
    | error e =>
        have htcaller : t.caller? c.number = some { c with sent := some (.number s.nextId) } := by
          have hcallers : t.callers = s.callers.map fun d =>
              if d.number == c.number then { c with sent := some (.number s.nextId) } else d :=
            congrArg Ledger.callers ht
          unfold caller? at hcaller ⊢
          rw [hcallers, find?_map_of_key (Ledger.number_sent c _), hcaller]
          simp
        have hfresh : ∀ p ∈ s.outstanding, p.id ≠ .number s.nextId :=
          fun p hp => sound.ne_of_next hp
        dsimp only
        rw [htcaller, Option.getD_some, ledger_endCall _ _ rfl, ht, hrest]
        refine (congrArg _ (Ledger.endCall_send unsent hfresh)).mpr ?_
        exact .ended hc hdue (hcause _) (Nat.le_succ _)

omit serves in
open Session in
/-- The turn of a caller whose request has its outcome: its call ends with it. -/
theorem Session.step_taking {c : Caller} {before after : List Job}
    (job : s.ready = before ++ .call c.number :: after) (hc : c ∈ s.callers)
    (ho : o ∈ s.outstanding) (hsent : c.sent = some o.id) (hsome : o.outcome.isSome = true) :
    Ledger.Step s.family s.registry s.ledger
      (.resumed c.number ({ s with ready := before ++ after }.ending? c.number))
      ({ s with ready := before ++ after }.continueCall c.number).ledger := by
  obtain ⟨x, hx⟩ := Option.isSome_iff_exists.1 hsome
  have hcaller : { s with ready := before ++ after }.caller? c.number = some c :=
    find?_eq_of_nodup sound.callers hc
  have hfound : { s with ready := before ++ after }.outstanding? o.id = some o :=
    find?_eq_of_nodup sound.distinct ho
  unfold continueCall ending?
  rw [hcaller, Option.bind_eq_bind, Option.bind_some]
  dsimp only
  rw [hsent]
  dsimp only
  rw [hfound, Option.bind_some, hx]
  dsimp only
  rw [ledger_endCall _ _ (isEnd_outcomeEvent c x), ledger_dequeued]
  refine .ended hc (due_of_job job) (fun id hid => ⟨o, ho, ?_, x, hx, rfl⟩) (Nat.le_refl _)
  exact Option.some.inj (hsent.symm.trans hid)

omit serves in
open Session in
theorem Session.step_resumed {before after : List Job} {n : Nat}
    (job : s.ready = before ++ .call n :: after) :
    Ledger.Step s.family s.registry s.ledger
      (.resumed n ({ s with ready := before ++ after }.ending? n))
      ({ s with ready := before ++ after }.continueCall n).ledger := by
  have hdue := due_of_job job
  obtain ⟨c, hc, rfl, hgoes⟩ := (sound.due_iff n).1 (hdue ▸ List.mem_append_right _ (.head _))
  cases hsent : c.sent with
  | none => exact s.step_sending sound job hc hsent
  | some id =>
      obtain ⟨o, ho, rfl, hsome⟩ := hgoes id hsent
      exact s.step_taking sound job hc ho hsent hsome

end Moves

/-! ### All moves -/

namespace Session

/-- Two sessions with the same setting and the same ledger. -/
structure SameDealings (s t : Session) : Prop where
  setting : t.setting = s.setting
  ledger : t.ledger = s.ledger

theorem SameDealings.trans {u : Session} (h : s.SameDealings t) (k : t.SameDealings u) :
    s.SameDealings u :=
  ⟨k.setting.trans h.setting, k.ledger.trans h.ledger⟩

theorem sameDealings_endTask (s : Session) (t : Task) (failure : Option EndpointError) :
    s.SameDealings (s.endTask t failure) := by
  refine ⟨rfl, ?_⟩
  simp [endTask, setTask, enqueue, ledger, Job.caller?]

theorem sameDealings_concluded (s : Session) (t : Task) (c : Conclusion) :
    s.SameDealings (s.endTaskWith t (c.action t.request)) := by
  obtain ⟨failure, hend⟩ := s.exists_endTaskWith t (c.action t.request)
  have hserves := (c.concludes t.request).serves s
  rw [hend]
  exact .trans ⟨hserves.setting, hserves.ledger⟩ (sameDealings_endTask _ t failure)

theorem sameDealings_clear (s : Session) (n : Nat) (failure : Option EndpointError) :
    s.SameDealings (s.clear n failure) := by
  unfold clear
  cases failure with
  | none =>
      dsimp only
      split
      · exact ⟨rfl, rfl⟩
      · exact ⟨rfl, rfl⟩
  | some e =>
      dsimp only
      split
      · exact ⟨rfl, rfl⟩
      · exact ⟨rfl, rfl⟩

theorem sameDealings_cleared {before after : List Job} {n : Nat} {failure : Option EndpointError}
    (job : s.ready = before ++ .clear n failure :: after) :
    s.SameDealings ({ s with ready := before ++ after }.clear n failure) := by
  have hdue : (before ++ after).filterMap Job.caller? = s.ready.filterMap Job.caller? := by
    rw [job, List.filterMap_append, List.filterMap_append, List.filterMap_cons]
    rfl
  refine .trans (t := { s with ready := before ++ after }) ⟨rfl, ?_⟩
    (sameDealings_clear _ n failure)
  exact congrArg (fun ns => { s.ledger with due := ns }) hdue

theorem sameDealings_takeBack (s : Session) (params : Value) :
    s.SameDealings (Action.acceptNotification.takeBack params s) := by
  unfold Action.acceptNotification.takeBack
  dsimp only
  split
  · exact ⟨rfl, rfl⟩
  split
  · exact ⟨rfl, rfl⟩
  split
  · exact ⟨rfl, rfl⟩
  · exact ⟨(agrees_cancelTask _ _).setting, (agrees_cancelTask _ _).ledger⟩

/-- Each move is a step of the ledger. -/
theorem Move.step (h : Move s d t) (serves : s.registry.ServesCallers)
    (sound : s.ledger.Sound s.registry) :
    Ledger.Step s.family s.registry s.ledger d t.ledger := by
  have hpassed : ∀ {d : Deed} {t : Session}, d.isTurn = false →
      (∀ o : Outstanding, o.verdict s.family s.registry d = none) → t.ledger = s.ledger →
      Ledger.Step s.family s.registry s.ledger d t.ledger := by
    intro d t hturn hverdict hledger
    rw [hledger]
    exact .passed hturn hverdict
  cases h with
  | aside hagrees => exact hpassed rfl (fun _ => rfl) hagrees.ledger
  | transport failure => exact hpassed rfl (fun _ => rfl) rfl
  | called label method params =>
      have hledger : (s.call label method params).ledger =
          { s.ledger with
            callers := s.callers ++ [⟨s.nextNumber, label, method, params, none⟩]
            due := s.ledger.due ++ [s.nextNumber]
            nextNumber := s.nextNumber + 1 } := by
        simp [call, enqueue, ledger, Job.caller?]
      rw [hledger]
      exact .called rfl rfl
  | resumed job => exact s.step_resumed sound job
  | response m => exact s.step_response serves sound m
  | cancellation id => exact s.step_cancellation serves sound id
  | closing failure => exact s.step_closing sound failure
  | accepted requests =>
      have hledger : ∀ r,
          (s.accept r).ledger = { s.ledger with nextNumber := s.nextNumber + 1 } := by
        intro r
        simp [accept, enqueue, ledger, Job.caller?]
      rw [hledger]
      exact .quiet rfl (fun _ _ _ => rfl) (List.Subset.refl _) (Nat.le_succ _)
  | takenBack params => exact hpassed rfl (fun _ => rfl) (s.sameDealings_takeBack params).ledger
  | paused found live cancelled gate opened interrupted => exact hpassed rfl (fun _ => rfl) rfl
  | concluded found live c sent =>
      exact hpassed rfl (fun _ => rfl) (s.sameDealings_concluded _ c).ledger
  | quit found idle failure =>
      exact hpassed rfl (fun _ => rfl) (s.sameDealings_endTask _ failure).ledger
  | cleared job => exact hpassed rfl (fun _ => rfl) (sameDealings_cleared job).ledger

theorem Move.setting (h : Move s d t) : t.setting = s.setting.after d := by
  cases h with
  | aside hagrees => exact hagrees.setting
  | transport failure => rfl
  | called label method params => rfl
  | resumed job => exact (sameService_continueCall _ _).setting
  | response m => exact (Action.sameService_handleResponse m s).setting
  | cancellation id => exact (Action.sameService_cancelRequest id s).setting
  | closing failure => exact (s.sameDocket_finish failure).setting
  | accepted requests => rfl
  | takenBack params => exact (s.sameDealings_takeBack params).setting
  | paused found live cancelled gate opened interrupted => rfl
  | concluded found live c sent => exact (s.sameDealings_concluded _ c).setting
  | quit found idle failure => rfl
  | cleared job => exact (sameDealings_cleared job).setting

/-- No move changes the family or the registry. -/
theorem Move.home (h : Move s d t) : t.family = s.family ∧ t.registry = s.registry := by
  have hsetting := h.setting
  cases d with
  | transport failure =>
      exact ⟨congrArg Setting.family hsetting, congrArg Setting.registry hsetting⟩
  | _ => exact ⟨congrArg Setting.family hsetting, congrArg Setting.registry hsetting⟩

theorem Path.home (h : Path s ds t) : t.family = s.family ∧ t.registry = s.registry := by
  induction h with
  | rest s => exact ⟨rfl, rfl⟩
  | move first more ih => exact ⟨ih.1.trans first.home.1, ih.2.trans first.home.2⟩

end Session

end EditorProtocol
