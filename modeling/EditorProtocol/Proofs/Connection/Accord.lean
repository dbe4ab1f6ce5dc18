import EditorProtocol.Proofs.Connection.Act

/-!
What two endpoints at the ends of a connection agree on. Each request of one side is at one place of
the other side, from the moment that it is sent until its handler is called and ever after. A
response comes from the handler of its request, and so does the outcome that the caller is told. All
that can be done at one end keeps this.
-/

namespace EditorProtocol

variable {R : Registry} {x x' y a b : View} {c : Caller} {r : IncomingRequest} {v : Invocation}
  {m : Value} {o : Outstanding}

/-- The requests of one side at the other side: those for which handlers have been called, those of
tasks that have not begun, those in the inbox and those on the way. -/
def questions (a b : View) : List IncomingRequest :=
  b.invoked.map (·.request) ++ unbegun b.tasks ++ b.inbox.filterMap Incoming.request? ++
    (a.outbox.drop b.heard).filterMap (Value.request? Catalog.family)

theorem mem_questions_of_invoked (hv : v ∈ b.invoked) : v.request ∈ questions a b := by
  unfold questions
  simp only [List.mem_append]
  exact .inl (.inl (.inl (List.mem_map_of_mem hv)))

theorem mem_questions_of_unbegun (hr : r ∈ unbegun b.tasks) : r ∈ questions a b := by
  unfold questions
  simp only [List.mem_append]
  exact .inl (.inl (.inr hr))

/-- A message that is sent is one of the questions if it is a request. -/
theorem questions_snoc (heard : b.heard ≤ a.outbox.length)
    (outbox : x.outbox = a.outbox ++ [m]) :
    questions x b = questions a b ++ (m.request? Catalog.family).toList := by
  unfold questions
  rw [outbox, List.drop_append_of_le_length heard, List.filterMap_append, ← List.append_assoc]
  cases hm : m.request? Catalog.family with
  | none => rw [List.filterMap_cons_none hm, List.filterMap_nil, Option.toList_none]
  | some r => rw [List.filterMap_cons_some hm, List.filterMap_nil, Option.toList_some]

/-- What is agreed on about the calls of one side and how the other side serves them. -/
structure Accord (R : Registry) (a b : View) : Prop where
  setting : a.setting = ⟨Catalog.family, R, none⟩
  isRunning : a.isRunning = true
  isFree : a.isFree = true
  withdrawn : a.withdrawn = []
  /-- Identities are given in the order of the requests. -/
  identities : a.sent.map (·.sent) = (List.range a.nextId).map fun k => some (.number k)
  /-- The other side has handlers for all calls. -/
  fits : ∀ c, c ∈ a.callers ∨ c ∈ a.sent → c.Fits R b.handlers
  posted : ∀ c ∈ a.callers, ∀ id, c.sent = some id → c ∈ a.sent
  /-- A request that waits or has its outcome is the one that a caller has sent, -/
  owned : ∀ o ∈ a.outstanding, ∃ c ∈ a.sent, ∃ r, c.Asks R r ∧ r.id = o.id ∧
    r.method = o.method.name
  waiting : ∀ o ∈ a.outstanding, o.outcome = none → o.IsWaiting R
  /-- and its outcome is what its handler has ended with. -/
  settled : ∀ o ∈ a.outstanding, ∀ z, o.outcome = some z → ∃ v ∈ b.invoked, v.request.id = o.id ∧
    ∃ u, v.behaviour.Ends u ∧
      ∀ c : Caller, ComesBack Catalog.family c.label u (Session.outcomeEvent c z)
  ended : ∀ p ∈ a.ended, AccountedFor R a.sent b.invoked p
  ends : a.events.filter Event.isEnd = a.ended.map (·.2)
  keeps : ∀ name h, Session.handlerOf b.handlers name = some h → ∀ m replies,
    R.getRequest name = .ok (m, replies) → h.KeepsTo m replies
  tasks : ∀ t ∈ b.tasks, t.Stands b.invoked
  proper : ∀ v ∈ b.invoked, v.IsProper R
  calls : b.events.filterMap Event.handlerCall? =
    b.invoked.map fun v => (v.request.method, v.params)
  /-- What one side receives is what the other side has sent, -/
  heard : b.heard ≤ a.outbox.length
  inbox : ∀ i ∈ b.inbox, ∃ m ∈ a.outbox, i = .message m
  /-- and that is requests and responses of its handlers. -/
  messages : ∀ m ∈ a.outbox, (m.request? Catalog.family).isSome = true ∨
    ∃ v ∈ a.invoked, v.AnsweredBy R m
  /-- No request is at two places of the other side. -/
  asked : AskedBy R a.sent (questions a b)

theorem Session.handlerOf_withHandler (handlers : List (String × Handler)) (method name : String)
    (h : Handler) : handlerOf (withHandler handlers method h) name =
      if method == name then some h else handlerOf handlers name := by
  unfold handlerOf withHandler
  rw [List.find?_cons]
  by_cases hname : method = name
  · rw [if_pos (beq_iff_eq.2 hname), beq_iff_eq.2 hname]
    rfl
  · rw [if_neg (mt beq_iff_eq.1 hname), beq_eq_false_iff_ne.2 hname, List.find?_filter]
    refine congrArg (fun p => (handlers.find? p).map Prod.snd) (funext fun e => ?_)
    by_cases he : e.1 = name
    · simp [he, Ne.symm hname]
    · simp [he]

theorem Value.request?_reply (F : Family) (reply : Reply) (id : Value) :
    (reply.message id).request? F = none := by
  have hmethod : (reply.message id).has "method" = .ok false := by
    unfold Reply.message
    cases reply.failed with
    | true => rfl
    | false => rfl
  unfold request?
  rw [hmethod]

theorem Invocation.AnsweredBy.request? (h : v.AnsweredBy R m) (F : Family) :
    m.request? F = none := by
  obtain ⟨reply, _, rfl, _⟩ := h
  exact Value.request?_reply F reply _

/-- The message of a request that a caller sends is received as that request. -/
theorem Caller.Fits.request? (hR : R ∈ Catalog.registries) {handlers : List (String × Handler)}
    {e : Request} (h : c.Fits R handlers) (named : Method.nameOf c.method = .ok e.method.name)
    (built : (R.buildRequest Catalog.family e.method.name c.params).outcome = .ok e)
    (id : RequestId) :
    (e.message id.value).request? Catalog.family = some ⟨id, e.method.name, e.payload⟩ := by
  obtain ⟨name, m, hname, hm, hfit, _⟩ := h
  cases named.symm.trans hname
  obtain ⟨⟨hfound, _⟩, _⟩ := Registry.buildRequest_ok_iff.1 built
  cases hfound.symm.trans hm
  obtain ⟨_, _, _, hjson, _⟩ := Catalog.params_delivered hR built hfit
  exact Value.request?_eq_some_iff.2 (Catalog.requests_message e id hjson)

namespace Accord

/-- The identity of a request that was sent is a number that was given. -/
theorem given (h : Accord R a b) (hc : c ∈ a.sent) : ∃ k < a.nextId, c.sent = some (.number k) := by
  have hmem : c.sent ∈ a.sent.map (·.sent) := List.mem_map_of_mem hc
  rw [h.identities] at hmem
  obtain ⟨k, hk, hsent⟩ := List.mem_map.1 hmem
  exact ⟨k, List.mem_range.1 hk, hsent.symm⟩

/-- The next number has not been given. -/
theorem fresh (h : Accord R a b) (hc : c ∈ a.sent) : c.sent ≠ some (.number a.nextId) := by
  obtain ⟨k, hk, hsent⟩ := h.given hc
  rw [hsent]
  intro hid
  cases hid
  exact Nat.lt_irrefl _ hk

/-- An identity stands for one caller. -/
theorem eq_of_sent (h : Accord R a b) {d : Caller} (hc : c ∈ a.sent) (hd : d ∈ a.sent)
    (hid : c.sent = d.sent) : c = d := by
  refine List.inj_on_of_nodup_map ?_ hc hd hid
  rw [h.identities]
  refine List.nodup_range.map fun i j hij => ?_
  injection hij with hij
  injection hij with hij
  omega

/-! ### Calling -/

section Posting

variable (h : Accord R a b)
include h

theorem heard_snoc : b.heard ≤ (a.outbox ++ [m]).length :=
  Nat.le_trans h.heard (List.sublist_append_left ..).length_le

theorem inbox_snoc : ∀ i ∈ b.inbox, ∃ n ∈ a.outbox ++ [m], i = .message n := fun i hi => by
  obtain ⟨n, hn, hmessage⟩ := h.inbox i hi
  exact ⟨n, List.mem_append_left _ hn, hmessage⟩

theorem messages_snoc (hm : (m.request? Catalog.family).isSome = true ∨
      ∃ v ∈ a.invoked, v.AnsweredBy R m) :
    ∀ n ∈ a.outbox ++ [m], (n.request? Catalog.family).isSome = true ∨
      ∃ v ∈ a.invoked, v.AnsweredBy R n := fun n hn => by
  rcases List.mem_append.1 hn with hn | hn
  · exact h.messages n hn
  · exact List.mem_singleton.1 hn ▸ hm

end Posting

section Calling

variable (h : Accord R x y)
include h

theorem called (unsent : c.sent = none) (fits : c.Fits R y.handlers) :
    Accord R { x with callers := x.callers ++ [c], nextNumber := x.nextNumber + 1 } y :=
  { h with
    fits := fun d hd => by
      rcases hd with hd | hd
      · rcases List.mem_append.1 hd with hd | hd
        · exact h.fits d (.inl hd)
        · exact List.mem_singleton.1 hd ▸ fits
      · exact h.fits d (.inr hd)
    posted := fun d hd id hid => by
      rcases List.mem_append.1 hd with hd | hd
      · exact h.posted d hd id hid
      · cases List.mem_singleton.1 hd
        cases unsent.symm.trans hid }

theorem callEnded {e : Event} {os : List Outstanding} (isEnd : e.isEnd = true)
    (sub : os ⊆ x.outstanding) (accounted : AccountedFor R x.sent y.invoked (c, e)) :
    Accord R { x with
      callers := x.callers.filter (·.number != c.number)
      outstanding := os
      events := x.events ++ [e]
      ended := x.ended ++ [(c, e)] } y :=
  { h with
    fits := fun d hd => h.fits d (hd.imp_left fun hd => (List.mem_filter.1 hd).1)
    posted := fun d hd => h.posted d (List.mem_filter.1 hd).1
    owned := fun o ho => h.owned o (sub ho)
    waiting := fun o ho => h.waiting o (sub ho)
    settled := fun o ho => h.settled o (sub ho)
    ended := fun p hp => by
      rcases List.mem_append.1 hp with hp | hp
      · exact h.ended p hp
      · exact List.mem_singleton.1 hp ▸ accounted
    ends := by
      show (x.events ++ [e]).filter Event.isEnd = (x.ended ++ [(c, e)]).map (·.2)
      rw [List.filter_append, List.map_append, h.ends, List.filter_singleton, isEnd]
      rfl }

theorem settledWith {p : PendingRequest} {z u : _} (known : o ∈ x.outstanding)
    (request : p.request = o.pending.request) (mem : v ∈ y.invoked) (id : v.request.id = o.id)
    (ends : v.behaviour.Ends u)
    (back : ∀ c : Caller, ComesBack Catalog.family c.label u (Session.outcomeEvent c z)) :
    Accord R { x with outstanding := x.outstanding.map (Ledger.settled o p z) } y := by
  have hmap : ∀ q ∈ x.outstanding.map (Ledger.settled o p z), q ∈ x.outstanding ∨
      q.id = o.id ∧ q.pending = p ∧ q.outcome = some z := by
    refine List.forall_mem_map.2 fun q hq => ?_
    unfold Ledger.settled
    split
    · next hid => exact .inr ⟨beq_iff_eq.1 hid, rfl, rfl⟩
    · exact .inl hq
  refine { h with owned := ?_, waiting := ?_, settled := ?_ }
  · intro q hq
    rcases hmap q hq with hq | ⟨hid, hp, _⟩
    · exact h.owned q hq
    · obtain ⟨c, hc, r, hasks, hrid, hmethod⟩ := h.owned o known
      refine ⟨c, hc, r, hasks, hrid.trans hid.symm, hmethod.trans ?_⟩
      unfold Outstanding.method
      rw [hp, request]
  · intro q hq hopen
    rcases hmap q hq with hq | ⟨_, _, hz⟩
    · exact h.waiting q hq hopen
    · cases hopen.symm.trans hz
  · intro q hq w hw
    rcases hmap q hq with hq | ⟨hid, _, hz⟩
    · exact h.settled q hq w hw
    · cases hw.symm.trans hz
      exact ⟨v, mem, id.trans hid.symm, u, ends, back⟩

/-- A response goes on its way. -/
theorem answered (mem : v ∈ x.invoked) (answers : v.AnsweredBy R m) :
    Accord R { x with outbox := x.outbox ++ [m] } y :=
  { h with
    heard := h.heard_snoc
    inbox := h.inbox_snoc
    messages := h.messages_snoc (.inr ⟨v, mem, answers⟩)
    asked := by
      rw [questions_snoc h.heard rfl, answers.request?, Option.toList_none, List.append_nil]
      exact h.asked }

/-- A request goes on its way. -/
theorem sent (hR : R ∈ Catalog.registries) {name : String} {e : Request} (mem : c ∈ x.callers)
    (named : Method.nameOf c.method = .ok name)
    (built : (R.buildRequest Catalog.family name c.params).outcome = .ok e) :
    Accord R { x with
      nextId := x.nextId + 1
      outstanding := x.outstanding ++ [e.opening R x.nextId c.number]
      callers := x.callers.map fun d =>
        if d.number == c.number then { c with sent := some (.number x.nextId) } else d
      outbox := x.outbox ++ [e.message (RequestId.number x.nextId).value]
      sent := x.sent ++ [{ c with sent := some (.number x.nextId) }] } y := by
  obtain ⟨⟨hfound, hrequest⟩, _⟩ := Registry.buildRequest_ok_iff.1 built
  obtain rfl : e.method.name = name := Registry.find?_name hfound
  have hfits := h.fits c (.inl mem)
  -- The caller and its request as the other side will know it.
  let d : Caller := { c with sent := some (.number x.nextId) }
  let r : IncomingRequest := ⟨.number x.nextId, e.method.name, e.payload⟩
  have hmessage : (e.message (RequestId.number x.nextId).value).request? Catalog.family = some r :=
    hfits.request? hR named built _
  have hasks : d.Asks R r := ⟨rfl, named, e, built, rfl⟩
  have hsent : x.sent ⊆ x.sent ++ [d] := List.subset_append_left _ _
  have hd : d ∈ x.sent ++ [d] := List.mem_append_right _ (.head _)
  have hcallers : ∀ b ∈ x.callers.map fun b => if b.number == c.number then d else b,
      b = d ∨ b ∈ x.callers := by
    refine List.forall_mem_map.2 fun b hb => ?_
    split
    · exact .inl rfl
    · exact .inr hb
  refine { h with
    heard := h.heard_snoc
    inbox := h.inbox_snoc
    messages := h.messages_snoc (.inl (hmessage ▸ rfl))
    ended := fun p hp => (h.ended p hp).mono hsent (List.Subset.refl _)
    identities := ?_, fits := ?_, posted := ?_, owned := ?_, waiting := ?_, settled := ?_
    asked := ?_ }
  · rw [List.map_append, h.identities, List.range_succ, List.map_append]
    rfl
  · rintro b (hb | hb)
    · rcases hcallers b hb with rfl | hb
      · exact hfits
      · exact h.fits b (.inl hb)
    · rcases List.mem_append.1 hb with hb | hb
      · exact h.fits b (.inr hb)
      · exact List.mem_singleton.1 hb ▸ hfits
  · intro b hb id hid
    rcases hcallers b hb with rfl | hb
    · exact hd
    · exact hsent (h.posted b hb id hid)
  · intro o ho
    rcases List.mem_append.1 ho with ho | ho
    · obtain ⟨b, hb, hown⟩ := h.owned o ho
      exact ⟨b, hsent hb, hown⟩
    · cases List.mem_singleton.1 ho
      exact ⟨d, hd, r, hasks, rfl, rfl⟩
  · intro o ho hopen
    rcases List.mem_append.1 ho with ho | ho
    · exact h.waiting o ho hopen
    · cases List.mem_singleton.1 ho
      exact ⟨rfl, hfound, hrequest, rfl⟩
  · intro o ho z hz
    rcases List.mem_append.1 ho with ho | ho
    · exact h.settled o ho z hz
    · cases List.mem_singleton.1 ho
      cases hz
  · rw [questions_snoc h.heard rfl, hmessage]
    exact h.asked.snoc hsent hd hasks fun b hb => h.fresh hb

theorem invoking {ts : List Task} : Accord R { x with
    tasks := ts
    events := x.events ++ [.handlerCalled v.request.method v.params]
    invoked := x.invoked ++ [v] } y :=
  { h with
    ends := by
      show (x.events ++ _).filter Event.isEnd = _
      rw [List.filter_append, h.ends, List.filter_singleton]
      exact List.append_nil _
    messages := fun n hn => (h.messages n hn).imp_right fun hanswer => by
      obtain ⟨w, hw, hanswers⟩ := hanswer
      exact ⟨w, List.mem_append_left _ hw, hanswers⟩ }

end Calling

/-! ### Serving -/

section Serving

variable (h : Accord R a b)
include h

theorem heardNext (next : a.outbox[b.heard]? = some m) :
    Accord R a { b with heard := b.heard + 1, inbox := b.inbox ++ [.message m] } := by
  obtain ⟨hlt, hget⟩ := List.getElem?_eq_some_iff.1 next
  refine { h with heard := hlt, inbox := ?_, asked := ?_ }
  · intro i hi
    rcases List.mem_append.1 hi with hi | hi
    · exact h.inbox i hi
    · exact ⟨m, List.mem_of_getElem? next, List.mem_singleton.1 hi⟩
  · -- The message leaves the channel and comes to the end of the inbox.
    have hquestions : questions a { b with
        heard := b.heard + 1, inbox := b.inbox ++ [.message m] } = questions a b := by
      have hdrop : (a.outbox.drop b.heard).filterMap (Value.request? Catalog.family) =
          [Incoming.message m].filterMap Incoming.request? ++
            (a.outbox.drop (b.heard + 1)).filterMap (Value.request? Catalog.family) := by
        rw [List.drop_eq_getElem_cons hlt, hget, ← List.singleton_append, List.filterMap_append]
        rfl
      unfold questions
      dsimp only
      rw [hdrop, List.filterMap_append]
      simp only [List.append_assoc]
    exact hquestions ▸ h.asked

theorem handled {name : String} {handler : Handler}
    (keeps : ∀ m replies, R.getRequest name = .ok (m, replies) → handler.KeepsTo m replies) :
    Accord R a { b with handlers := Session.withHandler b.handlers name handler } :=
  { h with
    fits := fun c hc => (h.fits c hc).mono fun k hk => by
      show (Session.handlerOf (Session.withHandler b.handlers name handler) k).isSome = true
      rw [Session.handlerOf_withHandler]
      split
      · rfl
      · exact hk
    keeps := fun k g hg m replies hm => by
      replace hg : Session.handlerOf (Session.withHandler b.handlers name handler) k = some g := hg
      rw [Session.handlerOf_withHandler] at hg
      split at hg
      · next hname =>
        cases hg
        exact keeps m replies (beq_iff_eq.1 hname ▸ hm)
      · exact h.keeps k g hg m replies hm }

theorem passed {i : Incoming} {rest : List Incoming} (inbox : b.inbox = i :: rest) :
    Accord R a { b with inbox := rest } :=
  { h with
    inbox := fun j hj => h.inbox j (inbox ▸ .tail _ hj)
    asked := by
      refine h.asked.subperm (List.Sublist.subperm ?_)
      unfold questions
      rw [inbox]
      refine ((List.Sublist.refl _).append ?_).append (.refl _)
      exact (List.sublist_cons_self i rest).filterMap _ }

theorem accepted {rest : List Incoming} (inbox : b.inbox = .message m :: rest)
    (request : m.request? Catalog.family = some r) :
    Accord R a { b with
      inbox := rest
      tasks := b.tasks ++ [⟨b.nextNumber, r, .created, false⟩]
      nextNumber := b.nextNumber + 1 } :=
  { h with
    inbox := fun j hj => h.inbox j (inbox ▸ .tail _ hj)
    tasks := fun t ht => by
      rcases List.mem_append.1 ht with ht | ht
      · exact h.tasks t ht
      · cases List.mem_singleton.1 ht
        exact .created _ r
    asked := by
      have hquestions : questions a { b with
          inbox := rest
          tasks := b.tasks ++ [⟨b.nextNumber, r, .created, false⟩]
          nextNumber := b.nextNumber + 1 } = questions a b := by
        have hrequest : (Incoming.message m).request? = some r := request
        have hunbegun : unbegun [⟨b.nextNumber, r, .created, false⟩] = [r] := rfl
        unfold questions
        dsimp only
        rw [inbox, List.filterMap_cons_some hrequest, unbegun_append, hunbegun]
        simp only [List.append_assoc, List.singleton_append]
      exact hquestions ▸ h.asked }

theorem retasked {ts : List Task} (stands : ∀ t ∈ ts, t.Stands b.invoked)
    (hunbegun : (unbegun ts).Sublist (unbegun b.tasks)) : Accord R a { b with tasks := ts } :=
  { h with
    tasks := stands
    asked := by
      refine h.asked.subperm (List.Sublist.subperm ?_)
      exact (((List.Sublist.refl _).append hunbegun).append (.refl _)).append (.refl _) }

theorem begun {ts : List Task} (proper : v.IsProper R)
    (stands : ∀ t ∈ ts, t ∈ b.tasks ∨ t.Stands (b.invoked ++ [v]))
    (hunbegun : (v.request :: unbegun ts).Subperm (unbegun b.tasks)) :
    Accord R a { b with
      tasks := ts
      events := b.events ++ [.handlerCalled v.request.method v.params]
      invoked := b.invoked ++ [v] } := by
  have hsub : b.invoked ⊆ b.invoked ++ [v] := List.subset_append_left _ _
  refine { h with
    settled := ?_, ended := fun p hp => (h.ended p hp).mono (List.Subset.refl _) hsub
    tasks := ?_, proper := ?_, calls := ?_, asked := ?_ }
  · intro o ho z hz
    obtain ⟨w, hw, hown⟩ := h.settled o ho z hz
    exact ⟨w, hsub hw, hown⟩
  · intro t ht
    rcases stands t ht with ht | ht
    · exact (h.tasks t ht).mono hsub
    · exact ht
  · intro w hw
    rcases List.mem_append.1 hw with hw | hw
    · exact h.proper w hw
    · exact List.mem_singleton.1 hw ▸ proper
  · show (b.events ++ _).filterMap _ = (b.invoked ++ [v]).map _
    rw [List.filterMap_append, h.calls, List.map_append]
    rfl
  · -- The request is no longer one of a task that has not begun.
    refine h.asked.subperm ?_
    unfold questions
    dsimp only
    rw [List.map_append, List.append_assoc (b.invoked.map _)]
    refine List.Subperm.append (List.Subperm.append ?_ (.refl _)) (.refl _)
    exact (List.subperm_append_left _).2 hunbegun

end Serving

end Accord

/-- Whatever is done at one end, both ends still agree on the calls that it makes. -/
theorem Act.calling (hR : R ∈ Catalog.registries) (act : Act R y x x') (h : Accord R x y) :
    Accord R x' y := by
  cases act with
  | heard next => exact { h with }
  | handled keeps => exact { h with }
  | called unsent fits => exact h.called unsent fits
  | refused unsent named refused =>
      exact h.callEnded rfl (List.Subset.refl _) (.refused unsent named refused)
  | sent mem named built => exact h.sent hR mem named built
  | @taken c o z mem known sent outcome =>
      obtain ⟨v, hv, hid, u, hends, hback⟩ := h.settled o known z outcome
      refine h.callEnded (Session.isEnd_outcomeEvent c z) List.filter_sublist.subset ?_
      exact .answered (h.posted c mem _ sent) hv (sent.trans (congrArg _ hid.symm)) hends (hback c)
  | accepted inbox request => exact { h with }
  | passed inbox => exact { h with }
  | settled known request mem id ends back => exact h.settledWith known request mem id ends back
  | retasked stands unbegun => exact { h with }
  | begun proper stands unbegun => exact h.invoking
  | answered mem answers => exact h.answered mem answers

/-- Whatever is done at one end, both ends still agree on the calls of the other end. -/
theorem Act.serving (act : Act R y x x') (h : Accord R y x) : Accord R y x' := by
  have hend : ∀ {e : Event}, e.isEnd = true →
      (x.events ++ [e]).filterMap Event.handlerCall? =
        x.invoked.map fun v => (v.request.method, v.params) := by
    intro e he
    have hnone : e.handlerCall? = none := by
      cases e with
      | handlerCalled method params => cases he
      | _ => rfl
    rw [List.filterMap_append, h.calls, List.filterMap_cons_none hnone, List.filterMap_nil,
      List.append_nil]
  cases act with
  | heard next => exact h.heardNext next
  | handled keeps => exact h.handled keeps
  | called unsent fits => exact { h with }
  | refused unsent named refused => exact { h with calls := hend rfl }
  | sent mem named built => exact { h with }
  | @taken c o z mem known sent outcome =>
      exact { h with calls := hend (Session.isEnd_outcomeEvent c z) }
  | accepted inbox request => exact h.accepted inbox request
  | passed inbox => exact h.passed inbox
  | settled known request mem id ends back => exact { h with }
  | retasked stands unbegun => exact h.retasked stands unbegun
  | begun proper stands unbegun => exact h.begun proper stands unbegun
  | answered mem answers => exact { h with }

end EditorProtocol
