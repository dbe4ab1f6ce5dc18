import EditorProtocol.Proofs.Catalog.Calls
import EditorProtocol.Proofs.Endpoint.Dispatch

/-!
Which request a response is for. The identity of a request is the one that it was sent with, for as
long as it waits and, once it was cancelled, until its response comes. A response changes the
request of the identity that it names, and no other one. An integer and a text name just themselves;
beyond that, `true` and `false` name one and zero.
-/

namespace EditorProtocol

variable {F : Family} {R : Registry} {L M : Ledger} {d : Deed} {ds : List Deed} {m v : Value}
  {id : RequestId} {r : Request} {s t u : Session}

/-- The values of JSON that a response names an identity by. -/
inductive Value.Names : Value → RequestId → Prop
  | identical (id : RequestId) : Names id.value id
  | boolean (b : Bool) : Names (.bool b) (.number (if b then 1 else 0))

/-- Of the values of JSON, integers, texts and booleans alone name an identity. -/
theorem Value.Names.wireKind (h : v.Names id) :
    v.wireKind? = some .integer ∨ v.wireKind? = some .text ∨ v.wireKind? = some .boolean := by
  cases h with
  | identical id =>
      cases id with
      | number n => exact .inl rfl
      | name s => exact .inr (.inl rfl)
  | boolean b => exact .inr (.inr rfl)

theorem Value.answeredId?_eq_some_iff (hv : v.IsJson) (hid : m.at? "id" = some v) :
    m.answeredId? = some id ↔ v.Names id := by
  rw [answeredId?, hid, Option.getD_some]
  constructor
  · intro h
    cases hv with
    | bool b =>
        cases h
        exact .boolean b
    | int n =>
        cases h
        exact .identical (.number n)
    | text s =>
        cases h
        exact .identical (.name s)
    | null | float | list | object => cases h
  · rintro (_ | b)
    · cases id <;> rfl
    · rfl

/-! ### Where identities come from -/

namespace Ledger

/-- The requests of a ledger, and the marks of those that were cancelled, are those of an earlier
one. -/
structure Continues (L M : Ledger) : Prop where
  requests : ∀ p ∈ M.outstanding, ∃ o ∈ L.outstanding,
    o.id = p.id ∧ o.pending.request = p.pending.request
  marks : ∀ id ∈ M.cancelled, id ∈ L.cancelled ∨ ∃ o ∈ L.outstanding, o.id = id

namespace Continues

theorem refl (L : Ledger) : L.Continues L := ⟨fun p hp => ⟨p, hp, rfl, rfl⟩, fun _ hid => .inl hid⟩

theorem of_eq (h : M = L) : L.Continues M := h ▸ refl L

theorem trans {N : Ledger} (h : L.Continues M) (k : M.Continues N) : L.Continues N where
  requests p hp := by
    obtain ⟨o, ho, hid, hrequest⟩ := k.requests p hp
    obtain ⟨q, hq, hid', hrequest'⟩ := h.requests o ho
    exact ⟨q, hq, hid'.trans hid, hrequest'.trans hrequest⟩
  marks id hid := by
    rcases k.marks id hid with hid | ⟨o, ho, rfl⟩
    · exact h.marks id hid
    · obtain ⟨q, hq, hid', _⟩ := h.requests o ho
      exact .inr ⟨q, hq, hid'⟩

/-- Requests change in place. -/
theorem map {f : Outstanding → Outstanding} {cancelled : List RequestId} {due : List Nat}
    (kept : ∀ p ∈ L.outstanding, ∃ o ∈ L.outstanding,
      o.id = (f p).id ∧ o.pending.request = (f p).pending.request)
    (marks : ∀ id ∈ cancelled, id ∈ L.cancelled ∨ ∃ o ∈ L.outstanding, o.id = id) :
    L.Continues { L with outstanding := L.outstanding.map f, cancelled := cancelled, due := due } :=
  ⟨List.forall_mem_map.2 kept, marks⟩

end Continues

end Ledger

/-- A request that gets another state, and its outcome, keeps its identity and what was asked. -/
theorem Ledger.settled_kept {o : Outstanding} {p : PendingRequest} (ho : o ∈ L.outstanding)
    (hp : p.request = o.pending.request) (x : Except EndpointError Reply) :
    ∀ q ∈ L.outstanding, ∃ o' ∈ L.outstanding, o'.id = (settled o p x q).id ∧
      o'.pending.request = (settled o p x q).pending.request := by
  intro q hq
  by_cases hid : q.id = o.id
  · refine ⟨o, ho, ?_⟩
    rw [settled, if_pos (beq_iff_eq.2 hid)]
    exact ⟨hid.symm, hp.symm⟩
  · rw [settled, if_neg (mt beq_iff_eq.1 hid)]
    exact ⟨q, hq, rfl, rfl⟩

namespace Session

theorem Hears.continues (h : s.Hears m M) : s.ledger.Continues M := by
  cases h with
  | idle unmarked unread => exact .refl _
  | late id named marked =>
      exact ⟨fun p hp => ⟨p, hp, rfl, rfl⟩, fun id hid => .inl (List.mem_filter.1 hid).1⟩
  | failed named found unmarked waits cause =>
      refine .map (fun q hq => ⟨q, hq, ?_⟩) fun id hid => .inl hid
      split <;> exact ⟨rfl, rfl⟩
  | resolved named found unmarked waits accepted resolves =>
      exact .map (Ledger.settled_kept (outstanding?_eq found).1
        (PendingRequest.request_of_resolve resolves) _) fun id hid => .inl hid

theorem Withdraws.continues (h : s.Withdraws v M) : s.ledger.Continues M := by
  cases h with
  | idle bound => exact .refl _
  | @withdrawn o p named found waits cancels =>
      have ho := (outstanding?_eq found).1
      refine .map (Ledger.settled_kept ho (PendingRequest.request_of_cancel cancels) _) ?_
      intro id hid
      split at hid
      · exact .inl hid
      · rcases List.mem_cons.1 hid with rfl | hid
        · exact .inr ⟨o, ho, rfl⟩
        · exact .inl hid

/-- A session whose requests, and marks of cancelled ones, are those of an earlier one. -/
def Continues (s t : Session) : Prop := s.ledger.Continues t.ledger

instance : IsPreorder Session Continues where
  refl s := .refl s.ledger
  trans _ _ _ h k := Ledger.Continues.trans h k

theorem continues_settle (s : Session) (id : RequestId) (x : Except EndpointError Reply) :
    s.Continues (s.settle id x) := by
  cases hfound : s.outstanding? id with
  | none =>
      rw [settle, hfound]
      exact .refl _
  | some o =>
      rw [Continues, ledger_settle hfound]
      refine .map (fun q hq => ⟨q, hq, ?_⟩) fun id hid => .inl hid
      split <;> exact ⟨rfl, rfl⟩

theorem continues_finish (s : Session) (failure : Option EndpointError) :
    s.Continues (s.finish failure) := by
  have hended : s.Continues { s with loop := .ended failure } := .refl s.ledger
  refine trans_of Continues (trans_of Continues hended (foldl_within ?_ s.tasks _))
    (foldl_within ?_ _ _)
  · exact fun s t => .of_eq (s.agrees_cancelTask t.number).ledger
  · intro s o
    split
    · exact .refl _
    · exact s.continues_settle _ _

theorem continues_endCall (s : Session) (c : Caller) (e : Event) : s.Continues (s.endCall c e) :=
  ⟨fun p hp => ⟨p, (List.mem_filter.1 hp).1, rfl, rfl⟩, fun _ hid => .inl hid⟩

/-- A request is handed to the transport, and waits from then on. -/
structure Sends (s t : Session) (o : Outstanding) : Prop where
  waits : t.outstanding = s.outstanding ++ [o]
  marks : t.cancelledOutgoing = s.cancelledOutgoing
  message : t.outbox = s.outbox ++ [o.pending.request.message o.id.value]

/-- In its turn a caller sends its request, or no request is new. -/
theorem continueCall_cases (s : Session) (n : Nat) :
    s.Continues (s.continueCall n) ∨ ∃ o, s.Sends (s.continueCall n) o := by
  unfold continueCall
  split
  · exact .inl (.refl _)
  next c found =>
  split
  · rcases s.sendRequest_cases c with ⟨e, t, hrun, ht⟩ | ⟨r, t, p, hrun, _, ht, houtbox⟩
    · rw [hrun]
      exact .inl (.trans (.of_eq ht) (t.continues_endCall _ _))
    rw [hrun]
    have houtstanding : t.outstanding = s.outstanding ++ [⟨.number s.nextId, p, c.number, none⟩] :=
      congrArg Ledger.outstanding ht
    cases r with
    | ok _ => exact .inr ⟨_, houtstanding, congrArg Ledger.cancelled ht, houtbox rfl⟩
    | error e =>
        have hcaller : t.caller? n = some { c with sent := some (.number s.nextId) } := by
          have hcallers : t.callers = s.callers.map fun d =>
              if d.number == c.number then { c with sent := some (.number s.nextId) } else d :=
            congrArg Ledger.callers ht
          unfold caller? at found ⊢
          rw [hcallers, find?_map_of_key (Ledger.number_sent c _), found]
          simp
        dsimp only
        rw [hcaller, Option.getD_some]
        refine .inl ⟨fun q hq => ?_, fun id hid => .inl ?_⟩
        · -- The request of this turn is taken out again.
          obtain ⟨hq, hne⟩ := List.mem_filter.1 hq
          rw [houtstanding] at hq
          rcases List.mem_append.1 hq with hq | hq
          · exact ⟨q, hq, rfl, rfl⟩
          · cases List.mem_singleton.1 hq
            exact absurd rfl (bne_iff_ne.1 hne)
        · exact congrArg Ledger.cancelled ht ▸ hid
  · split
    · exact .inl (s.continues_endCall _ _)
    · exact .inl (.refl _)

/-- In a move one request is sent, or none is new. -/
theorem Move.cases_sent (h : Move s d t) : s.Continues t ∨ ∃ o, s.Sends t o := by
  cases h with
  | aside hagrees => exact .inl (.of_eq hagrees.ledger)
  | transport failure => exact .inl (.refl _)
  | called label method params => exact .inl ⟨fun p hp => ⟨p, hp, rfl, rfl⟩, fun _ hid => .inl hid⟩
  | @resumed before after n job =>
      rcases continueCall_cases { s with ready := before ++ after } n with h | ⟨o, h⟩
      · exact .inl ⟨h.requests, h.marks⟩
      · exact .inr ⟨o, h.waits, h.marks, h.message⟩
  | response m => exact .inl (s.hears_handleResponse m).continues
  | cancellation id => exact .inl (s.withdraws_cancelRequest id).continues
  | closing failure => exact .inl (s.continues_finish failure)
  | accepted requests => exact .inl ⟨fun p hp => ⟨p, hp, rfl, rfl⟩, fun _ hid => .inl hid⟩
  | takenBack params => exact .inl (.of_eq (s.sameDealings_takeBack params).ledger)
  | paused found live cancelled gate opened interrupted =>
      exact .inl ⟨fun p hp => ⟨p, hp, rfl, rfl⟩, fun _ hid => .inl hid⟩
  | concluded found live c sent =>
      exact .inl (.of_eq (s.sameDealings_concluded _ c).ledger)
  | quit found idle failure => exact .inl (.of_eq (s.sameDealings_endTask _ failure).ledger)
  | cleared job => exact .inl (.of_eq (sameDealings_cleared job).ledger)

/-- On the way from one session to another a request was sent under an identity. -/
def HasSent (s t : Session) (id : RequestId) (r : Request) : Prop :=
  ∃ u v o d, s.Reaches u ∧ Move u d v ∧ v.Reaches t ∧ u.Sends v o ∧
    o.id = id ∧ o.pending.request = r

theorem HasSent.step (h : s.HasSent t id r) (move : Move t d u) : s.HasSent u id r := by
  obtain ⟨v, w, o, d, hv, hmove, hw, hsends⟩ := h
  exact ⟨v, w, o, d, hv, hmove, hw.trans move.reaches, hsends⟩

/-- All requests that wait, and all that were cancelled and have had no response yet, were sent
under their identities on the way from one session to another. -/
structure HasSentAll (s t : Session) : Prop where
  requests : ∀ o ∈ t.outstanding, s.HasSent t o.id o.pending.request
  marks : ∀ id ∈ t.cancelledOutgoing, ∃ r, s.HasSent t id r

theorem HasSentAll.step (h : s.HasSentAll t) (reaches : s.Reaches t) (move : Move t d u) :
    s.HasSentAll u := by
  rcases move.cases_sent with hcontinues | ⟨o, hsends⟩
  · refine ⟨fun p hp => ?_, fun id hid => ?_⟩
    · obtain ⟨q, hq, hid, hrequest⟩ := hcontinues.requests p hp
      exact hid ▸ hrequest ▸ (h.requests q hq).step move
    · rcases hcontinues.marks id hid with hid | ⟨q, hq, rfl⟩
      · obtain ⟨r, hr⟩ := h.marks id hid
        exact ⟨r, hr.step move⟩
      · exact ⟨_, (h.requests q hq).step move⟩
  · refine ⟨fun p hp => ?_, fun id hid => ?_⟩
    · rw [hsends.waits] at hp
      rcases List.mem_append.1 hp with hp | hp
      · exact (h.requests p hp).step move
      · cases List.mem_singleton.1 hp
        exact ⟨t, u, o, d, reaches, move, .refl u, hsends, rfl, rfl⟩
    · rw [hsends.marks] at hid
      obtain ⟨r, hr⟩ := h.marks id hid
      exact ⟨r, hr.step move⟩

theorem HasSentAll.path (h : s.HasSentAll t) (path : Path t ds u) (reaches : s.Reaches t) :
    s.HasSentAll u := by
  induction path with
  | rest t => exact h
  | move first more ih => exact ih (h.step reaches first) (reaches.trans first.reaches)

/-! ### What a response changes -/

theorem dispatch_hears (hobject : m.isObject = true) (hmethod : m.at? "method" = none)
    (hid : m.at? "id" = some v) : s.Hears m (s.dispatch m).2.ledger := by
  have hhears := s.hears_handleResponse m
  rw [dispatch_identified hobject hmethod hid]
  split
  · next t hrun =>
    rw [hrun] at hhears
    exact hhears
  · next e t hrun =>
    rw [hrun] at hhears
    unfold survive
    split
    · exact hhears
    · exact hhears

/-- The requests after a response are those before, changed where it names their identities. -/
theorem Hears.outstanding (h : s.Hears m M) : ∃ f : Outstanding → Outstanding,
    M.outstanding = s.outstanding.map f ∧
      ∀ o, f o ≠ o → m.answeredId? = some o.id ∧ o.id ∉ s.cancelledOutgoing := by
  have hunchanged : ∃ f : Outstanding → Outstanding, s.outstanding = s.outstanding.map f ∧
      ∀ o, f o ≠ o → m.answeredId? = some o.id ∧ o.id ∉ s.cancelledOutgoing :=
    ⟨fun o => o, (List.map_id' _).symm, fun o hne => absurd rfl hne⟩
  have hnamed : ∀ {o : Outstanding}, m.answeredId? = some o.id →
      (∀ id ∈ s.cancelledOutgoing, m.answeredId? ≠ some id) → ∀ {q p : Outstanding},
        (if q.id == o.id then p else q) ≠ q →
          m.answeredId? = some q.id ∧ q.id ∉ s.cancelledOutgoing := by
    intro o named unmarked q p hne
    by_cases hid : q.id = o.id
    · rw [hid]
      exact ⟨named, fun hmem => unmarked _ hmem named⟩
    · exact absurd (if_neg (mt beq_iff_eq.1 hid)) hne
  cases h with
  | idle unmarked unread => exact hunchanged
  | late id named marked => exact hunchanged
  | failed named found unmarked waits cause => exact ⟨_, rfl, fun q => hnamed named unmarked⟩
  | resolved named found unmarked waits accepted resolves =>
      exact ⟨_, rfl, fun q => hnamed named unmarked⟩

theorem Hears.cancelled (h : s.Hears m M) (id : RequestId) :
    id ∈ M.cancelled ↔ id ∈ s.cancelledOutgoing ∧ m.answeredId? ≠ some id := by
  have hkept : (∀ id ∈ s.cancelledOutgoing, m.answeredId? ≠ some id) →
      (id ∈ s.cancelledOutgoing ↔ id ∈ s.cancelledOutgoing ∧ m.answeredId? ≠ some id) :=
    fun unmarked => ⟨fun hid => ⟨hid, unmarked id hid⟩, And.left⟩
  cases h with
  | idle unmarked unread => exact hkept unmarked
  | late id named marked => simp
  | failed named found unmarked waits cause => exact hkept unmarked
  | resolved named found unmarked waits accepted resolves => exact hkept unmarked

/-- A response that names no identity changes no request. -/
theorem Hears.unnamed (h : s.Hears m M) (hnone : m.answeredId? = none) : M = s.ledger := by
  cases h with
  | idle unmarked unread => rfl
  | late id named marked => cases hnone.symm.trans named
  | failed named found unmarked waits cause => cases hnone.symm.trans named
  | resolved named found unmarked waits accepted resolves => cases hnone.symm.trans named

end Session

open Session

/-- What happens to an endpoint brings it to a session that it reaches. There, all requests that
wait were sent under their identities, and so were those that the marks of cancelled requests stand
for. A response changes no request but one without such a mark, of an identity that it names, and it
takes away the marks that it names. One whose identity is no integer, text or boolean changes
nothing about requests. -/
theorem response_changes_named (F : Family) (R : Registry) (hm : m.IsJson)
    (hmethod : m.at? "method" = none) (hid : m.at? "id" = some v) :
    (∀ hs, (start F R).Reaches ((start F R).life hs)) ∧
    ∀ s, (start F R).Reaches s → (start F R).HasSentAll s ∧
      (∃ f : Outstanding → Outstanding, (s.dispatch m).2.outstanding = s.outstanding.map f ∧
        ∀ o, f o ≠ o → v.Names o.id ∧ o.id ∉ s.cancelledOutgoing) ∧
      (∀ id, id ∈ (s.dispatch m).2.cancelledOutgoing ↔
        id ∈ s.cancelledOutgoing ∧ ¬ v.Names id) ∧
      (v.wireKind? ≠ some .integer → v.wireKind? ≠ some .text → v.wireKind? ≠ some .boolean →
        (s.dispatch m).2.ledger = s.ledger) := by
  have hnames : ∀ id, m.answeredId? = some id ↔ v.Names id := fun id =>
    Value.answeredId?_eq_some_iff (hm.at? hid) hid
  refine ⟨reaches_life _, fun s reaches => ?_⟩
  have hhears := s.dispatch_hears (Value.isObject_of_at? hid) hmethod hid
  refine ⟨?sent, ?requests, fun id => ?marks, fun hinteger htext hboolean => ?kinds⟩
  case sent =>
    obtain ⟨ds, path⟩ := reaches
    have hstart : (start F R).HasSentAll (start F R) := by
      constructor
      · rintro o ⟨⟩
      · rintro id ⟨⟩
    exact hstart.path path (.refl _)
  case requests =>
    obtain ⟨f, hf, hnamed⟩ := hhears.outstanding
    exact ⟨f, hf, fun o hne => (hnamed o hne).imp_left (hnames o.id).1⟩
  case marks => exact (hhears.cancelled id).trans (and_congr_right' (not_congr (hnames id)))
  case kinds =>
    refine hhears.unnamed (Option.eq_none_iff_forall_ne_some.2 fun id hsome => ?_)
    rcases ((hnames id).1 hsome).wireKind with hkind | hkind | hkind
    · exact hinteger hkind
    · exact htext hkind
    · exact hboolean hkind

section Quitting

open Catalog

/-- A caller that has asked the other side to shut down. -/
def quitter : Caller := ⟨0, "quit", .text "shutdown", .null, none⟩

/-- An endpoint that has sent one request, and waits for the reply. -/
def quitting : Session :=
  (start family legacy).life [.call quitter.label quitter.method quitter.params, .turn 1]

/-- The request that it has sent. -/
def asked : Outstanding :=
  Request.opening ⟨request "shutdown" .null .null, .null, .null⟩ legacy 0 quitter.number

theorem quitting_desk :
    quitting.setting = (start family legacy).setting ∧ quitting.cancelledOutgoing = [] ∧
      quitting.outstanding = [asked] := by
  let s := (start family legacy).call quitter.label quitter.method quitter.params
  have hsent := (continueCall_sent (s := { s with ready := s.ready.eraseIdx 1 }) (n := 0)
    (c := quitter) rfl rfl rfl buildRequest_shutdown rfl).2
  have hdesk : quitting.desk = _ := hsent
  exact ⟨congrArg Desk.setting hdesk, congrArg Desk.withdrawn hdesk,
    congrArg Desk.outstanding hdesk⟩

/-- A response with an unknown identity changes nothing. -/
theorem response_changes_named_null :
    (start family legacy).HasSentAll quitting ∧
      (quitting.dispatch (.object [("id", .null), ("result", .null)])).2.ledger =
        quitting.ledger := by
  have hjson : (Value.object [("id", .null), ("result", .null)]).IsJson := by
    refine .object ?_
    rintro e (_ | ⟨_, _ | ⟨_, ⟨⟩⟩⟩)
    · exact .null
    · exact .null
  obtain ⟨hreaches, hchanges⟩ := response_changes_named family legacy hjson rfl rfl
  obtain ⟨hsent, _, _, hsame⟩ := hchanges quitting (hreaches _)
  exact ⟨hsent, hsame nofun nofun nofun⟩

/-- A response with `false` for an identity. -/
def falseReply : Value := .object [("id", .bool false), ("result", .null)]

/-- The response to the request that was sent with 0 may say `false` instead. -/
theorem false_answers_zero :
    ∃ o ∈ quitting.outstanding, o.id.value = .int 0 ∧ o.outcome = none ∧
      ∃ p ∈ (quitting.dispatch falseReply).2.outstanding,
        p.id = o.id ∧ p.outcome.isSome = true := by
  obtain ⟨hsetting, hmarks, houtstanding⟩ := quitting_desk
  have hresponse : (legacy.acceptResponse family "shutdown" falseReply).outcome =
      .ok ⟨request "shutdown" .null .null, .null, .null, .null⟩ := by
    refine Registry.acceptResponse_result rfl rfl rfl rfl ?_
    rw [Shape.null, Shape.ofKind, decode]
    rfl
  have hfound : quitting.outstanding? (.number 0) = some asked := by
    rw [outstanding?, houtstanding]
    rfl
  have hreading : asked.reading quitting.family quitting.registry falseReply =
      some (.ok ⟨request "shutdown" .null .null, .null, .null, .null⟩) := by
    refine Outstanding.reading_of_accepted ?_
    rw [show quitting.family = Catalog.family from congrArg Setting.family hsetting,
      show quitting.registry = legacy from congrArg Setting.registry hsetting]
    exact hresponse
  have hhears : quitting.Hears falseReply (quitting.dispatch falseReply).2.ledger :=
    quitting.dispatch_hears rfl rfl rfl
  refine ⟨asked, houtstanding ▸ List.mem_cons_self, rfl, rfl, ?_⟩
  show ∃ p ∈ (quitting.dispatch falseReply).2.ledger.outstanding, _
  generalize (quitting.dispatch falseReply).2.ledger = M at hhears ⊢
  have hsettled : ∀ {o p : Outstanding}, falseReply.answeredId? = some o.id →
      (if asked.id == o.id then p else asked) = p :=
    fun named => if_pos (beq_iff_eq.2 (Option.some.inj named))
  have hasked : asked ∈ quitting.outstanding := houtstanding ▸ List.mem_cons_self
  cases hhears with
  | idle _ unread => cases hreading.symm.trans (unread asked rfl hfound rfl)
  | late id _ marked => cases hmarks ▸ marked
  | failed named _ _ _ _ =>
      refine ⟨_, List.mem_map_of_mem hasked, ?_⟩
      rw [hsettled named]
      exact ⟨rfl, rfl⟩
  | resolved named _ _ _ _ _ =>
      refine ⟨_, List.mem_map_of_mem hasked, ?_⟩
      rw [Ledger.settled, hsettled named]
      exact ⟨rfl, rfl⟩

end Quitting

end EditorProtocol
