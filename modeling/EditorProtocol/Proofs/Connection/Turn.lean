import EditorProtocol.Proofs.Catalog.Calls
import EditorProtocol.Proofs.Connection.Accord
import Mathlib.Logic.Relation

/-!
Whatever happens at one end of a connection is a row of acts, as long as both ends agree on the
calls of each. The loop dispatches the messages that have arrived one after the other; the turn of a
task calls its handler or goes on where the handler has waited; the turn of a caller sends its
request or ends its call.
-/

namespace EditorProtocol

open Session

variable {R : Registry} {x x' y : View} {a : Peer} {o : Outstanding} {v : Invocation} {m : Value}
  {t : Task}

/-- A row of acts. -/
abbrev Acts (R : Registry) (y : View) : View → View → Prop := Relation.ReflTransGen (Act R y)

/-- Both ends agree on the calls of each. -/
structure Concord (R : Registry) (x y : View) : Prop where
  calling : Accord R x y
  serving : Accord R y x

theorem Concord.symm (h : Concord R x y) : Concord R y x := ⟨h.serving, h.calling⟩

theorem Concord.acts (hR : R ∈ Catalog.registries) (acts : Acts R y x x') (h : Concord R x y) :
    Concord R x' y := by
  induction acts with
  | refl => exact h
  | tail _ act ih => exact ⟨act.calling hR ih.calling, act.serving ih.serving⟩

theorem Concord.canAnswer (h : Concord R a.view y) : a.session.CanAnswer R where
  family := congrArg Setting.family h.calling.setting
  registry := congrArg Setting.registry h.calling.setting
  accepts := congrArg Setting.sendFailure h.calling.setting

/-! ### Messages -/

/-- A handler was called for the method of the request that has its identity. -/
theorem Accord.method_eq (h : Accord R x y) (ho : o ∈ x.outstanding) (hv : v ∈ y.invoked)
    (hid : v.request.id = o.id) : v.request.method = o.method.name := by
  obtain ⟨c, hc, hasks⟩ := h.asked.asked _ (mem_questions_of_invoked hv)
  obtain ⟨d, hd, r, hasks', hrid, hmethod⟩ := h.owned o ho
  have hsent : c.sent = d.sent := by rw [hasks.sent, hasks'.sent, hrid, hid]
  cases h.eq_of_sent hc hd hsent
  exact (Except.ok.inj (hasks.named.symm.trans hasks'.named)).trans hmethod

section Loop

variable (hR : R ∈ Catalog.registries) (h : Concord R a.view y) {rest : List Incoming}
include hR h

/-- A response is dispatched as the answer to its request, if that still waits. -/
theorem Concord.dispatch_answer {reply : Reply} {u : Except EndpointError Value}
    (inbox : a.session.inbox = .message (reply.message v.request.id.value) :: rest)
    (hv : v ∈ y.invoked) (hends : v.behaviour.Ends u)
    (htells : Catalog.Tells R v.request.method u (reply.message v.request.id.value)) :
    ∃ s, { a.session with inbox := rest }.dispatch (reply.message v.request.id.value) =
        (.done, s) ∧ s.inbox = rest ∧ Acts R y a.view { a with session := s }.view := by
  obtain ⟨reading, hread, hback⟩ := htells
  obtain ⟨hfamily, hregistry, _⟩ := h.canAnswer
  have haccepts : ∀ o, { a.session with inbox := rest }.outstanding? v.request.id = some o →
      o.outcome = none → ∃ a' p, (a.session.registry.acceptResponse a.session.family
        o.method.name (reply.message v.request.id.value)).outcome = .ok a' ∧
          o.pending.resolve a' = .ok p := by
    intro o known hopen
    obtain ⟨ho, hid⟩ := outstanding?_eq known
    rw [h.calling.method_eq ho hv hid.symm] at hread
    obtain ⟨p, hp, _⟩ := (h.calling.waiting o ho hopen).resolves (Catalog.servesCallers hR) hread
    rw [hregistry, hfamily]
    exact ⟨reading, p, hread, hp⟩
  obtain ⟨s, hdispatch, hanswered⟩ := dispatch_response (s := { a.session with inbox := rest })
    h.calling.withdrawn haccepts
  have hpassed : Act R y a.view { a with session := { a.session with inbox := rest } }.view :=
    .passed inbox
  refine ⟨s, hdispatch, ?_⟩
  generalize hdesk : s.desk = D at hanswered
  have hview : { a with session := s }.view = a.viewAt D := congrArg a.viewAt hdesk
  rw [hview]
  cases hanswered with
  | idle => exact ⟨congrArg Desk.inbox hdesk, .single hpassed⟩
  | @settled o a' p known unsettled accepted resolved =>
      obtain ⟨ho, hid⟩ := outstanding?_eq known
      rw [h.calling.method_eq ho hv hid.symm] at hread
      have hwaits := h.calling.waiting o ho unsettled
      obtain ⟨q, hq, hrequest⟩ := hwaits.resolves (Catalog.servesCallers hR) hread
      dsimp only at accepted
      rw [hregistry, hfamily] at accepted
      cases hread.symm.trans accepted
      cases hq.symm.trans resolved
      refine ⟨congrArg Desk.inbox hdesk, .tail (.single hpassed) ?_⟩
      exact .settled ho hrequest hv hid.symm hends hback

/-- The first message of the inbox is dispatched, and the loop goes on. -/
theorem Concord.dispatch {i : Incoming} (inbox : a.session.inbox = i :: rest) :
    ∃ m s, i = .message m ∧ { a.session with inbox := rest }.dispatch m = (.done, s) ∧
      s.inbox = rest ∧ Acts R y a.view { a with session := s }.view := by
  have hi : i ∈ a.session.inbox := inbox ▸ List.mem_cons_self
  obtain ⟨m, hm, rfl⟩ := h.serving.inbox i hi
  rcases h.serving.messages m hm with hrequest | ⟨v, hv, reply, u, rfl, hends, htells⟩
  · obtain ⟨r, hr⟩ := Option.isSome_iff_exists.1 hrequest
    have hrequests : m.Requests a.session.family r := by
      rw [h.canAnswer.family]
      exact Value.request?_eq_some_iff.1 hr
    exact ⟨m, _, rfl, dispatch_request hrequests, rfl, .single (.accepted inbox hr)⟩
  · obtain ⟨s, hdispatch, hinbox, hacts⟩ := h.dispatch_answer hR inbox hv hends htells
    exact ⟨_, s, rfl, hdispatch, hinbox, hacts⟩

omit hR in
/-- The loop waits for messages again. -/
theorem Concord.view_receiving :
    { a with session := { a.session with loop := .receiving } }.view = a.view := by
  have hfree : a.session.loop.isFree = true := h.calling.isFree
  unfold Peer.view Session.desk
  rw [hfree]
  rfl

end Loop

/-- The loop takes all that has arrived. -/
theorem Concord.receiveAll (hR : R ∈ Catalog.registries) {rest : List Incoming}
    (h : Concord R a.view y) (inbox : a.session.inbox = rest) :
    Acts R y a.view { a with session := Session.receiveAll rest a.session }.view := by
  induction rest generalizing a with
  | nil =>
      unfold Session.receiveAll
      rw [if_pos (show a.session.isRunning = true from h.calling.isRunning), h.view_receiving]
  | cons i rest ih =>
      obtain ⟨m, s, rfl, hdispatch, hinbox, hacts⟩ := h.dispatch hR inbox
      unfold Session.receiveAll
      rw [if_pos (show a.session.isRunning = true from h.calling.isRunning), take, hdispatch]
      exact hacts.trans (ih (a := { a with session := s }) (h.acts hR hacts) hinbox)

/-- The turn of the loop. -/
theorem Concord.receive (hR : R ∈ Catalog.registries) (h : Concord R a.view y) :
    Acts R y a.view { a with session := a.session.receive }.view := by
  have hfree : a.session.loop.isFree = true := h.calling.isFree
  unfold Session.receive
  split
  · exact h.receiveAll hR rfl
  · split
    · rw [h.view_receiving]
    · next i rest hinbox =>
      obtain ⟨m, s, rfl, hdispatch, hrest, hacts⟩ := h.dispatch hR hinbox
      rw [take, hdispatch]
      exact hacts.trans
        (Concord.receiveAll (a := { a with session := s }) hR (h.acts hR hacts) hrest)
  · next hloop =>
    rw [hloop] at hfree
    cases hfree
  · exact .refl

/-! ### Tasks -/

/-- A handler that is on its way to its end goes on: it waits again, or its response is sent. -/
theorem Invocation.IsProper.goes (hR : R ∈ Catalog.registries) {s : Session} (hs : s.CanAnswer R)
    (proper : v.IsProper R) (request : v.request = t.request) (live : t.cancelled = false)
    {b : Behaviour} {u : Except EndpointError Value} (same : v.behaviour.Ends u) (ends : b.Ends u) :
    ∃ t' : Task, t'.number = t.number ∧ t'.unbegun? = none ∧
      (∀ invoked : List Invocation, v ∈ invoked → t'.Stands invoked) ∧
        ((s.goOn t b).desk = { s.desk with tasks := withTask s.tasks t' } ∨
          ∃ m, v.AnsweredBy R m ∧ (s.goOn t b).desk =
            { s.desk with tasks := withTask s.tasks t', outbox := s.outbox ++ [m] }) := by
  obtain ⟨m, replies, u', hm, _, hends, hallows⟩ := proper
  cases same.unique hends
  rw [request] at hm
  obtain ⟨reply, hsends, htells⟩ := hallows.answered hR hs hm
  rcases desk_goOn ends hsends with ⟨gate, opened, interrupted, hopened, hdesk⟩ | hdesk
  · refine ⟨{ t with progress := .waiting gate opened interrupted none }, rfl, rfl,
      fun invoked hv => ?_, .inl hdesk⟩
    rw [live, ← request]
    exact .waiting _ gate interrupted hv hopened same nofun
  · refine ⟨{ t with progress := .ended, cancelled := false }, rfl, rfl,
      fun invoked _ => .ended t.number t.request, .inr ⟨_, ?_, hdesk⟩⟩
    rw [← request] at htells ⊢
    exact ⟨reply, u, rfl, same, htells⟩

/-- For the request of a task that has not begun there is a handler, and it keeps to its method. -/
theorem Concord.exists_invocation (hR : R ∈ Catalog.registries) (h : Concord R a.view y)
    (mem : t ∈ a.session.tasks) (created : t.progress = .created) :
    ∃ m handler q, a.session.registry.find? t.request.method = some m ∧ m.isRequest = true ∧
      handlerOf a.session.requestHandlers t.request.method = some handler ∧
      (a.session.registry.decodeParams a.session.family t.request.method
        t.request.params).outcome = .ok q ∧
      Invocation.IsProper R ⟨t.request, q, handler q⟩ := by
  have hunbegun : t.request ∈ unbegun a.session.tasks := by
    refine List.mem_filterMap.2 ⟨t, mem, ?_⟩
    unfold Task.unbegun?
    rw [created]
  obtain ⟨c, hc, hasks⟩ := h.serving.asked.asked _ (mem_questions_of_unbegun hunbegun)
  obtain ⟨name, m, hname, hfound, hfits, hhandled⟩ := h.serving.fits c (.inr hc)
  cases hasks.named.symm.trans hname
  obtain ⟨e, hbuilt, hpayload⟩ := hasks.built
  obtain ⟨⟨hfound', hrequest⟩, _⟩ := Registry.buildRequest_ok_iff.1 hbuilt
  cases hfound'.symm.trans hfound
  obtain ⟨replies, hreplies⟩ := Option.isSome_iff_exists.1 hrequest
  have hm := Registry.getRequest_ok_iff.2 ⟨hfound, hreplies⟩
  obtain ⟨shape, q, hshape, _, hdecode, hconforms, _⟩ :=
    Catalog.params_delivered hR hbuilt hfits
  obtain ⟨handler, hhandler⟩ := Option.isSome_iff_exists.1 hhandled
  obtain ⟨u, hends, hallows⟩ :=
    h.serving.keeps _ handler hhandler _ replies hm shape q hshape hconforms
  rw [← hpayload] at hdecode
  rw [h.canAnswer.registry, h.canAnswer.family]
  exact ⟨e.method, handler, q, hfound, hrequest, hhandler, hdecode,
    e.method, replies, u, hm, hdecode, hends, hallows⟩

/-- What is known of an endpoint after a task has gone on. -/
theorem Concord.gone {s : Session} {invoked : List Invocation} {D : Desk} {t' : Task}
    (first : Acts R y a.view ⟨{ D with tasks := withTask D.tasks t' }, a.heard, a.sent, invoked,
      a.ended⟩)
    (mem : v ∈ invoked)
    (gone : s.desk = { D with tasks := withTask D.tasks t' } ∨
      ∃ m, v.AnsweredBy R m ∧
        s.desk = { D with tasks := withTask D.tasks t', outbox := D.outbox ++ [m] }) :
    Acts R y a.view ⟨s.desk, a.heard, a.sent, invoked, a.ended⟩ := by
  rcases gone with hdesk | ⟨m, hanswered, hdesk⟩
  · rw [hdesk]
    exact first
  · rw [hdesk]
    exact first.tail (.answered mem hanswered)

/-- A job in whose turn no request is sent, no handler called and no call ended. -/
theorem Peer.perform_eq {j : Job} (hsent : a.session.sending? j = none)
    (hinvoked : a.session.invocation? j = none) (hended : a.session.completion? j = none) :
    a.perform j = { a with session := a.session.perform j } := by
  unfold perform
  rw [hsent, hinvoked, hended]
  simp only [Option.toList_none, List.append_nil]

theorem Session.invocationFor?_eq {s : Session} {r : IncomingRequest} {method : Method}
    {handler : Handler} {q : Value} (found : s.registry.find? r.method = some method)
    (isRequest : method.isRequest = true)
    (handled : handlerOf s.requestHandlers r.method = some handler)
    (decoded : (s.registry.decodeParams s.family r.method r.params).outcome = .ok q) :
    s.invocationFor? r = some ⟨r, q, handler q⟩ := by
  unfold Session.invocationFor?
  rw [found, handled, decoded]
  exact if_pos isRequest

/-- The turn of a task that has not begun. -/
theorem Concord.begin (hR : R ∈ Catalog.registries) (h : Concord R a.view y) {number : Nat}
    {r : IncomingRequest} (found : a.session.task? number = some ⟨number, r, .created, false⟩) :
    Acts R y a.view (a.perform (.serve number)).view := by
  have hs := h.canAnswer
  have ht := List.mem_of_find?_eq_some found
  obtain ⟨m, handler, q, hm, hrequest, hhandler, hdecode, hproper⟩ := h.exists_invocation hR ht rfl
  let v : Invocation := ⟨r, q, handler q⟩
  have hinvocation : a.session.invocation? (.serve number) = some v := by
    unfold Session.invocation?
    dsimp only
    rw [found]
    exact Session.invocationFor?_eq hm hrequest hhandler hdecode
  obtain ⟨log, hbegin⟩ := beginTask_eq hm hrequest hhandler hdecode
  obtain ⟨_, _, u, _, _, hends, _⟩ := id hproper
  obtain ⟨t', hnumber, hbegun, hstands, hgone⟩ := hproper.goes hR
    (s := { a.session with log := log }.emit (.handlerCalled r.method q))
    ⟨hs.family, hs.registry, hs.accepts⟩ (t := ⟨number, r, .created, false⟩) rfl rfl hends hends
  have hview : (a.perform (.serve number)).view = ⟨(({ a.session with log := log }.emit
      (.handlerCalled r.method q)).goOn ⟨number, r, .created, false⟩ (handler q)).desk, a.heard,
        a.sent, a.invoked ++ [v], a.ended⟩ := by
    have hserve : a.session.serve number = _ := (serve_created found rfl rfl).trans hbegin
    unfold Peer.perform
    rw [hinvocation, show a.session.perform (.serve number) = a.session.serve number from rfl,
      hserve]
    show View.mk _ _ (a.sent ++ []) _ (a.ended ++ []) = _
    rw [List.append_nil, List.append_nil]
    rfl
  have hv : v ∈ a.invoked ++ [v] := List.mem_append_right _ (.head _)
  rw [hview]
  refine Concord.gone (.single (.begun hproper (fun u hu => ?_) ?_)) hv hgone
  · rcases mem_withTask hu with rfl | hu
    · exact .inr (hstands _ hv)
    · exact .inl hu
  · exact unbegun_begin ht hnumber.symm rfl hbegun

theorem Session.invocation?_of_begun {s : Session} {n : Nat} (found : s.task? n = some t)
    (begun : t.unbegun? = none) : s.invocation? (.serve n) = none := by
  unfold Session.invocation?
  dsimp only
  rw [found]
  split
  · next h =>
    cases h
    cases begun
  · rfl

/-- The turn of a task whose handler is able to go on. -/
theorem Concord.goOn (hR : R ∈ Catalog.registries) (h : Concord R a.view y) {number : Nat}
    {gate : String} {opened interrupted : Behaviour} {u : Except EndpointError Value}
    (found : a.session.task? number =
      some ⟨number, v.request, .waiting gate opened interrupted (some .opened), false⟩)
    (mem : v ∈ a.invoked) (ends : opened.Ends u) (same : v.behaviour.Ends u) :
    Acts R y a.view (a.perform (.serve number)).view := by
  have hs := h.canAnswer
  let t : Task := ⟨number, v.request, .waiting gate opened interrupted (some .opened), false⟩
  obtain ⟨t', _, hbegun, hstands, hgone⟩ := (h.serving.proper v mem).goes hR
    (s := a.session.leave (.task number)) ⟨hs.family, hs.registry, hs.accepts⟩ (t := t) rfl rfl
    same ends
  have hserve : a.session.serve number = (a.session.leave (.task number)).goOn t opened :=
    serve_opened (t := t) found rfl rfl
  rw [Peer.perform_eq rfl (Session.invocation?_of_begun found rfl) rfl]
  show Acts R y a.view { a with session := a.session.serve number }.view
  rw [hserve]
  refine Concord.gone (.single (.retasked (fun u hu => ?_) (unbegun_withTask _ hbegun))) mem hgone
  rcases mem_withTask hu with rfl | hu
  · exact hstands _ mem
  · exact h.serving.tasks u hu

/-- The turn of a task. -/
theorem Concord.serve (hR : R ∈ Catalog.registries) (h : Concord R a.view y) (n : Nat) :
    Acts R y a.view (a.perform (.serve n)).view := by
  have hidle : a.session.invocation? (.serve n) = none → a.session.serve n = a.session →
      Acts R y a.view (a.perform (.serve n)).view := by
    intro hinvocation hserve
    rw [Peer.perform_eq rfl hinvocation rfl]
    show Acts R y a.view { a with session := a.session.serve n }.view
    rw [hserve]
  cases hfound : a.session.task? n with
  | none =>
      refine hidle ?_ ?_
      · unfold Session.invocation?
        dsimp only
        rw [hfound]
      · unfold Session.serve
        rw [hfound]
  | some t =>
      have hpaused : t.unbegun? = none → (∀ s : Session, s.task? n = some t → s.serve n = s) →
          Acts R y a.view (a.perform (.serve n)).view := fun hbegun hserve =>
        hidle (Session.invocation?_of_begun hfound hbegun) (hserve _ hfound)
      obtain rfl : t.number = n := key_of_find? hfound
      cases h.serving.tasks t (List.mem_of_find?_eq_some hfound) with
      | created number r => exact h.begin hR hfound
      | @waiting v opened u signal number gate interrupted mem ends same live =>
          cases signal with
          | none =>
              refine hpaused rfl fun s found => ?_
              unfold Session.serve
              rw [found]
          | some signal =>
              cases signal with
              | opened => exact h.goOn hR hfound mem ends same
              | interrupted => exact absurd rfl live
      | ended number r =>
          refine hpaused rfl fun s found => ?_
          unfold Session.serve
          rw [found]

/-- Clearing up after a task. -/
theorem Concord.clear (h : Concord R a.view y) (n : Nat) (failure : Option EndpointError) :
    Acts R y a.view (a.perform (.clear n failure)).view := by
  rw [Peer.perform_eq rfl rfl rfl]
  show Acts R y a.view (a.viewAt (a.session.clear n failure).desk)
  rcases a.session.desk_clear n failure with hdesk | hdesk
  · rw [hdesk]
    exact .refl
  · rw [hdesk]
    refine .single (.retasked (fun t ht => ?_) (List.filter_sublist.filterMap _))
    exact h.serving.tasks t (List.mem_filter.1 ht).1

/-! ### Callers -/

section Callers

variable {c : Caller} {n : Nat} {s : Session} (found : s.caller? n = some c)
include found

theorem Session.sending?_of_unsent (unsent : c.sent = none) :
    s.sending? (.call n) = ((s.continueCall n).caller? n).filter (·.sent.isSome) := by
  unfold Session.sending?
  dsimp only
  rw [found]
  split
  · rfl
  · next hsent => exact absurd (congrArg some (by rw [← unsent])) (hsent c.number c.label _ _)

theorem Session.sending?_of_sent {id : RequestId} (sent : c.sent = some id) :
    s.sending? (.call n) = none := by
  unfold Session.sending?
  dsimp only
  rw [found]
  split
  · next h =>
    cases h
    cases sent
  · rfl

theorem Session.completion?_of_found :
    s.completion? (.call n) = (s.ending? n).map fun e => (c, e) := by
  unfold Session.completion?
  dsimp only
  rw [found]
  cases s.ending? n with
  | none => rfl
  | some e => rfl

end Callers

section Calls

variable {c : Caller} {n : Nat} (found : a.session.caller? n = some c)
include found

/-- What is known of an endpoint after the turn of a caller. -/
theorem Peer.view_call : (a.perform (.call n)).view = ⟨(a.session.continueCall n).desk, a.heard,
    a.sent ++ (a.session.sending? (.call n)).toList, a.invoked,
    a.ended ++ ((a.session.ending? n).map fun e => (c, e)).toList⟩ := by
  unfold perform
  rw [Session.completion?_of_found found]
  show View.mk _ _ _ (a.invoked ++ []) _ = _
  rw [List.append_nil]
  rfl

/-- The turn of a caller that has not sent its request. -/
theorem Concord.send (h : Concord R a.view y) (unsent : c.sent = none) :
    Acts R y a.view (a.perform (.call n)).view := by
  have hs := h.canAnswer
  have hc : c ∈ a.session.callers := List.mem_of_find?_eq_some found
  have hnumber : c.number = n := key_of_find? found
  obtain ⟨name, _, hname, _⟩ := h.calling.fits c (.inl hc)
  rw [Peer.view_call found, Session.sending?_of_unsent found unsent]
  cases hbuild : (R.buildRequest Catalog.family name c.params).outcome with
  | error e =>
      obtain ⟨hending, hdesk⟩ := continueCall_refused (e := e) found unsent hname
        (by rw [hs.registry, hs.family]; exact hbuild)
      have hgone : (a.session.continueCall n).caller? n = none := by
        unfold Session.caller?
        rw [show (a.session.continueCall n).callers = _ from congrArg Desk.callers hdesk]
        refine List.find?_eq_none.2 fun d hd hdn => ?_
        have hne := (List.mem_filter.1 hd).2
        rw [hnumber, beq_iff_eq.1 hdn, bne_self_eq_false] at hne
        cases hne
      rw [hending, hgone, hdesk]
      show Acts R y a.view ⟨_, _, a.sent ++ [], _, _⟩
      rw [List.append_nil]
      exact .single (.refused unsent hname hbuild)
  | ok e =>
      obtain ⟨hending, hdesk⟩ := continueCall_sent (r := e) found unsent hname
        (by rw [hs.registry, hs.family]; exact hbuild) hs.accepts
      have hwaits : (a.session.continueCall n).caller? n =
          some { c with sent := some (.number a.session.nextId) } := by
        unfold Session.caller? at found ⊢
        rw [show (a.session.continueCall n).callers = _ from congrArg Desk.callers hdesk,
          find?_map_of_key (Ledger.number_sent c _), found]
        simp
      rw [hending, hwaits, hdesk, hs.registry]
      show Acts R y a.view ⟨_, _, _, _, a.ended ++ []⟩
      rw [List.append_nil]
      exact .single (.sent hc hname hbuild)

/-- The turn of a caller that has sent its request. -/
theorem Peer.acts_resumed {id : RequestId} (sent : c.sent = some id) :
    Acts R y a.view (a.perform (.call n)).view := by
  have hc : c ∈ a.session.callers := List.mem_of_find?_eq_some found
  rw [Peer.view_call found, Session.sending?_of_sent found sent]
  show Acts R y a.view ⟨_, _, a.sent ++ [], _, _⟩
  rw [List.append_nil]
  cases houtcome : (a.session.outstanding? id).bind (·.outcome) with
  | none =>
      obtain ⟨hending, hwaits⟩ := continueCall_waiting found sent houtcome
      rw [hending, hwaits]
      show Acts R y a.view ⟨_, _, _, _, a.ended ++ []⟩
      rw [List.append_nil]
      exact .refl
  | some z =>
      obtain ⟨o, hfound, hz⟩ := Option.bind_eq_some_iff.1 houtcome
      obtain ⟨hending, hdesk⟩ := continueCall_taken found sent hfound hz
      obtain ⟨ho, rfl⟩ := outstanding?_eq hfound
      rw [hending, hdesk]
      exact .single (.taken hc ho sent hz)

end Calls

/-- The turn of a caller. -/
theorem Concord.call (h : Concord R a.view y) (n : Nat) :
    Acts R y a.view (a.perform (.call n)).view := by
  cases hfound : a.session.caller? n with
  | none =>
      have hsending : a.session.sending? (.call n) = none := by
        unfold Session.sending?
        dsimp only
        rw [hfound]
      have hcompletion : a.session.completion? (.call n) = none := by
        unfold Session.completion?
        dsimp only
        rw [hfound]
        rfl
      have hidle : a.session.continueCall n = a.session := by
        unfold Session.continueCall
        rw [hfound]
      rw [Peer.perform_eq hsending rfl hcompletion]
      show Acts R y a.view { a with session := a.session.continueCall n }.view
      rw [hidle]
  | some c =>
      cases hsent : c.sent with
      | none => exact h.send hfound hsent
      | some id => exact Peer.acts_resumed hfound hsent

/-! ### Steps -/

/-- The turn of a job. -/
theorem Concord.perform (hR : R ∈ Catalog.registries) (h : Concord R a.view y) (j : Job) :
    Acts R y a.view (a.perform j).view := by
  cases j with
  | receive =>
      rw [Peer.perform_eq rfl rfl rfl]
      exact h.receive hR
  | serve n => exact h.serve hR n
  | clear n failure => exact h.clear n failure
  | call n => exact h.call n

/-- Each step at one end of a connection is a row of acts. -/
theorem Peer.Step.acts (hR : R ∈ Catalog.registries) {a' b : Peer} (step : Peer.Step R b a a')
    (h : Concord R a.view b.view) : Acts R b.view a.view a'.view := by
  cases step with
  | hears next =>
      show Acts R b.view a.view
        ⟨(a.session.arrive _).desk, a.heard + 1, a.sent, a.invoked, a.ended⟩
      rw [desk_arrive]
      exact .single (.heard next)
  | turn place =>
      unfold Peer.turn
      split
      · exact .refl
      · next j _ =>
        let s : Session := { a.session with ready := a.session.ready.eraseIdx place }
        exact Concord.perform (a := { a with session := s }) hR h j
  | opens gate =>
      obtain ⟨ts, hdesk, hroused, hunbegun⟩ := a.session.rouses_openGate gate
      show Acts R b.view a.view (a.viewAt (a.session.openGate gate).desk)
      rw [hdesk]
      refine .single (.retasked (fun t ht => ?_) hunbegun)
      obtain ⟨u, hu, hrouse⟩ := hroused t ht
      exact (h.serving.tasks u hu).roused hrouse
  | @handles method handler keeps =>
      show Acts R b.view a.view
        (a.viewAt ((a.session.onRequest method handler).toOption.getD a.session).desk)
      rcases a.session.desk_onRequest method handler with hdesk | ⟨name, m, hname, hm, _, hdesk⟩
      · rw [hdesk]
        exact .refl
      · rw [hdesk]
        rw [h.canAnswer.registry] at hm
        refine .single (.handled fun m' replies hm' => ?_)
        rw [Registry.find?_name hm] at hm'
        exact keeps name m' replies hname hm'
  | @calls label method params name m named found handled fits =>
      show Acts R b.view a.view (a.viewAt (a.session.call label method params).desk)
      rw [desk_call]
      exact .single (.called rfl ⟨name, m, named, found, fits, handled⟩)

end EditorProtocol
