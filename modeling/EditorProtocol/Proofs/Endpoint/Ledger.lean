import EditorProtocol.Proofs.Endpoint.Keyed
import EditorProtocol.Proofs.Endpoint.Move

/-!
The ledger of the requests that were sent. A request that has no outcome meets every deed with a
verdict or without one, and the first verdict is its outcome. The turn of a caller sends its request
or ends its call. All steps keep the ledger sound: identities are fresh, requests and callers belong
together, and the callers that are able to go on are those with something to go on with.
-/

namespace EditorProtocol

variable {F : Family} {R : Registry} {L M : Ledger} {d : Deed} {o : Outstanding} {c : Caller}

/-! ### Verdicts -/

/-- The identity of the request that a message is the response to. -/
def Value.answeredId? (m : Value) : Option RequestId :=
  match (m.at? "id").getD .null with
  | .float _ => none
  | id => RequestId.ofValue? id

namespace Outstanding

def method (o : Outstanding) : Method := o.pending.request.method

/-- What a response says to a request: the reply, or that it has the wrong shape. -/
def reading (F : Family) (R : Registry) (o : Outstanding) (m : Value) :
    Option (Except EndpointError Reply) :=
  match (R.acceptResponse F o.method.name m).outcome with
  | .ok reply => some (.ok reply)
  | .error e => if (EndpointError.refused e).isShape then some (.error (.refused e)) else none

/-- The outcome that a deed has in store for a request that waits for one. -/
def verdict (F : Family) (R : Registry) (o : Outstanding) :
    Deed → Option (Except EndpointError Reply)
  | .response m => if m.answeredId? = some o.id then o.reading F R m else none
  | .cancellation id =>
    if RequestId.ofValue? id = some o.id then some (.error (.replied (.cancelled o.method.name)))
    else none
  | .closing => some (.error (.connectionClosed o.method.name))
  | _ => none

/-- Whether a deed gives a request its outcome. -/
def isDecided (F : Family) (R : Registry) (d : Deed) (o : Outstanding) : Bool :=
  o.outcome.isNone && (o.verdict F R d).isSome

/-- A request before and after a deed: an outcome is taken from the deed only if there was none, and
nothing else changes a request. -/
structure Meets (F : Family) (R : Registry) (d : Deed) (o p : Outstanding) : Prop where
  id : p.id = o.id
  caller : p.caller = o.caller
  request : p.pending.request = o.pending.request
  outcome : p.outcome = o.outcome.or (o.verdict F R d)
  same : p.outcome = o.outcome → p = o

/-- Without a verdict nothing changes. -/
theorem Meets.of_silent (h : o.outcome = none → o.verdict F R d = none) : o.Meets F R d o := by
  refine ⟨rfl, rfl, rfl, ?_, fun _ => rfl⟩
  cases hopen : o.outcome with
  | none => rw [h hopen, Option.or_none]
  | some x => rw [Option.some_or]

/-- A request has an outcome after a deed if it had one, or if the deed gives it one. -/
theorem Meets.isSome_iff {p : Outstanding} (h : o.Meets F R d p) :
    p.outcome.isSome = true ↔ o.outcome.isSome = true ∨ o.isDecided F R d = true := by
  rw [h.outcome, isDecided]
  cases o.outcome with
  | none => simp
  | some x => simp

/-- A request that was sent, with all that it takes to accept its reply or to cancel it. -/
structure IsWaiting (R : Registry) (o : Outstanding) : Prop where
  state : o.pending.state = .awaitingReply
  method : R.find? o.method.name = some o.method
  isRequest : o.method.isRequest = true
  cancellable : o.pending.cancellable = R.contains Catalog.cancelName

end Outstanding

/-! ### Steps -/

/-- The end of a call that a deed is. -/
def Deed.ending? : Deed → Option Event
  | .resumed _ ending => ending
  | _ => none

/-- Whether a deed is the turn of a caller. -/
def Deed.isTurn : Deed → Bool
  | .resumed .. => true
  | _ => false

namespace Ledger

/-- The ledger without a call that has ended. -/
def endCall (L : Ledger) (c : Caller) (e : Event) : Ledger :=
  { L with callers := L.callers.filter (·.number != c.number)
           outstanding := L.outstanding.filter fun o => c.sent != some o.id
           ends := L.ends ++ [e] }

/-- The ledger with a request that a caller has sent. -/
def send (L : Ledger) (c : Caller) (o : Outstanding) : Ledger :=
  { L with nextId := L.nextId + 1
           outstanding := L.outstanding ++ [o]
           callers := L.callers.map fun d =>
             if d.number == c.number then { c with sent := some o.id } else d }

theorem number_sent (c : Caller) (id : RequestId) (d : Caller) :
    (if d.number == c.number then { c with sent := some id } else d).number = d.number := by
  by_cases h : d.number = c.number
  · simp [h]
  · simp [h]

/-- What can be done to a ledger. -/
inductive Step (F : Family) (R : Registry) : Ledger → Deed → Ledger → Prop
  | called {L : Ledger} {c : Caller} (unsent : c.sent = none) (number : c.number = L.nextNumber) :
      Step F R L .called
        { L with callers := L.callers ++ [c], due := L.due ++ [c.number],
                 nextNumber := L.nextNumber + 1 }
  | sent {L : Ledger} {c : Caller} {o : Outstanding} {before after : List Nat}
      (mem : c ∈ L.callers) (unsent : c.sent = none)
      (due : L.due = before ++ c.number :: after)
      (id : o.id = .number L.nextId) (caller : o.caller = c.number) (unsettled : o.outcome = none)
      (waiting : o.IsWaiting R) :
      Step F R L (.resumed c.number none)
        { L.send c o with due := before ++ after }
  | ended {L : Ledger} {c : Caller} {e : Event} {before after : List Nat} {nextId : Nat}
      (mem : c ∈ L.callers) (due : L.due = before ++ c.number :: after)
      (cause : ∀ id, c.sent = some id → ∃ o ∈ L.outstanding, o.id = id ∧
        ∃ x, o.outcome = some x ∧ e = Session.outcomeEvent c x)
      (le : L.nextId ≤ nextId) :
      Step F R L (.resumed c.number (some e))
        { L.endCall c e with nextId := nextId, due := before ++ after }
  | decided {L : Ledger} {d : Deed} {f : Outstanding → Outstanding} {cancelled : List RequestId}
      {nextNumber : Nat} (isTurn : d.isTurn = false)
      (meets : ∀ o ∈ L.outstanding, o.Meets F R d (f o))
      (withdrawn : ∀ id ∈ cancelled, id ∈ L.cancelled ∨
        ∃ o ∈ L.outstanding, o.id = id ∧ (f o).outcome.isSome = true)
      (le : L.nextNumber ≤ nextNumber) :
      Step F R L d
        { L with outstanding := L.outstanding.map f, cancelled := cancelled,
                 due := L.due ++ (L.outstanding.filter (·.isDecided F R d)).map (·.caller),
                 nextNumber := nextNumber }

/-- A caller has something to go on with: its request to send, or the outcome of it. -/
def CanGoOn (L : Ledger) (c : Caller) : Prop :=
  ∀ id, c.sent = some id → ∃ o ∈ L.outstanding, o.id = id ∧ o.outcome.isSome = true

theorem mem_outstanding_send (c : Caller) {p : Outstanding} :
    p ∈ (L.send c o).outstanding ↔ p ∈ L.outstanding ∨ p = o := by
  simp [send]

theorem mem_callers_send {b : Caller} (mem : c ∈ L.callers) :
    b ∈ (L.send c o).callers ↔
      b = { c with sent := some o.id } ∨ b ∈ L.callers ∧ b.number ≠ c.number := by
  constructor
  · intro hb
    obtain ⟨d, hd, rfl⟩ := List.mem_map.1 hb
    by_cases hn : d.number = c.number
    · simp [hn]
    · simp [hn, hd]
  · rintro (rfl | ⟨hb, hne⟩)
    · exact List.mem_map.2 ⟨c, mem, if_pos (beq_self_eq_true _)⟩
    · exact List.mem_map.2 ⟨b, hb, if_neg (mt beq_iff_eq.1 hne)⟩

/-- A request without an outcome lets nobody go on. -/
theorem canGoOn_send (c b : Caller) (unsettled : o.outcome = none) :
    (L.send c o).CanGoOn b ↔ L.CanGoOn b := by
  refine forall₂_congr fun i _ => ⟨?_, ?_⟩
  · rintro ⟨p, hp, hid, hsome⟩
    rcases (mem_outstanding_send c).1 hp with hp | rfl
    · exact ⟨p, hp, hid, hsome⟩
    · rw [unsettled] at hsome
      cases hsome
  · rintro ⟨p, hp, hsettled⟩
    exact ⟨p, (mem_outstanding_send c).2 (.inl hp), hsettled⟩

theorem mem_outstanding_endCall {p : Outstanding} (e : Event) :
    p ∈ (L.endCall c e).outstanding ↔ p ∈ L.outstanding ∧ c.sent ≠ some p.id := by
  simp [endCall]

theorem mem_callers_endCall {b : Caller} (e : Event) :
    b ∈ (L.endCall c e).callers ↔ b ∈ L.callers ∧ b.number ≠ c.number := by
  simp [endCall]

/-- What all steps keep of a ledger. -/
structure Sound (R : Registry) (L : Ledger) : Prop where
  /-- An identity is a number that was given before. -/
  fresh : ∀ o ∈ L.outstanding, ∃ k < L.nextId, o.id = .number k
  distinct : (L.outstanding.map (·.id)).Nodup
  callers : (L.callers.map (·.number)).Nodup
  young : ∀ c ∈ L.callers, c.number < L.nextNumber
  /-- A request has a caller that waits for it, -/
  owner : ∀ o ∈ L.outstanding, ∃ c ∈ L.callers, c.number = o.caller ∧ c.sent = some o.id
  /-- and what a caller waits for is a request of its own. -/
  owned : ∀ c ∈ L.callers, ∀ id, c.sent = some id →
    ∃ o ∈ L.outstanding, o.id = id ∧ o.caller = c.number
  waiting : ∀ o ∈ L.outstanding, o.outcome = none → o.IsWaiting R
  /-- A request that was cancelled has its outcome. -/
  withdrawn : ∀ id ∈ L.cancelled, (∃ k < L.nextId, id = .number k) ∧
    ∀ o ∈ L.outstanding, o.id = id → o.outcome.isSome = true
  /-- A caller is woken once, when it has something to go on with. -/
  due : L.due.Nodup
  due_iff : ∀ n, n ∈ L.due ↔ ∃ c ∈ L.callers, c.number = n ∧ L.CanGoOn c

namespace Sound

/-- An identity stands for one request. -/
theorem eq_of_id (h : L.Sound R) {p : Outstanding} (ho : o ∈ L.outstanding)
    (hp : p ∈ L.outstanding) (hid : o.id = p.id) : o = p :=
  List.inj_on_of_nodup_map h.distinct ho hp hid

theorem eq_of_number (h : L.Sound R) {b : Caller} (hc : c ∈ L.callers) (hb : b ∈ L.callers)
    (hnumber : c.number = b.number) : c = b :=
  List.inj_on_of_nodup_map h.callers hc hb hnumber

/-- A caller has one request. -/
theorem eq_of_caller (h : L.Sound R) {p : Outstanding} (ho : o ∈ L.outstanding)
    (hp : p ∈ L.outstanding) (hcaller : o.caller = p.caller) : o = p := by
  obtain ⟨b, hb, hbn, hbsent⟩ := h.owner o ho
  obtain ⟨b', hb', hbn', hbsent'⟩ := h.owner p hp
  cases h.eq_of_number hb hb' (hbn.trans (hcaller.trans hbn'.symm))
  exact h.eq_of_id ho hp (Option.some.inj (hbsent.symm.trans hbsent'))

/-- Two callers do not wait for the same request. -/
theorem sent_ne (h : L.Sound R) {b : Caller} (hc : c ∈ L.callers) (hb : b ∈ L.callers)
    (hne : b.number ≠ c.number) {id : RequestId} (hid : b.sent = some id) : c.sent ≠ some id := by
  intro hsent
  obtain ⟨o, ho, hoid, hcaller⟩ := h.owned b hb id hid
  obtain ⟨p, hp, hpid, hcaller'⟩ := h.owned c hc id hsent
  cases h.eq_of_id ho hp (hoid.trans hpid.symm)
  exact hne (hcaller.symm.trans hcaller')

/-- The identity that is given next is that of no request. -/
theorem ne_of_next (h : L.Sound R) {p : Outstanding} (hp : p ∈ L.outstanding) :
    p.id ≠ .number L.nextId := by
  intro hpid
  obtain ⟨k, hk, hpk⟩ := h.fresh p hp
  rw [hpid] at hpk
  injection hpk with hk'
  omega

/-- The caller of a request has something to go on with if the request has an outcome. -/
theorem mem_due_iff (h : L.Sound R) (ho : o ∈ L.outstanding) :
    o.caller ∈ L.due ↔ o.outcome.isSome = true := by
  obtain ⟨c, hc, hnumber, hsent⟩ := h.owner o ho
  rw [h.due_iff]
  constructor
  · rintro ⟨b, hb, hbnumber, hgoes⟩
    cases h.eq_of_number hb hc (hbnumber.trans hnumber.symm)
    obtain ⟨p, hp, hid, hsome⟩ := hgoes o.id hsent
    cases h.eq_of_id hp ho hid
    exact hsome
  · intro hsome
    refine ⟨c, hc, hnumber, fun id hid => ⟨o, ho, ?_, hsome⟩⟩
    exact Option.some.inj (hsent.symm.trans hid)

/-- The turn of a caller is taken from those that are due. -/
theorem mem_dequeued (h : L.Sound R) {before after : List Nat} {n : Nat}
    (due : L.due = before ++ n :: after) (m : Nat) :
    m ∈ before ++ after ↔ m ∈ L.due ∧ m ≠ n := by
  rw [due]
  exact mem_without (due ▸ h.due) m

/-! ### Steps keep the ledger sound -/

theorem called (h : L.Sound R) (unsent : c.sent = none) (number : c.number = L.nextNumber) :
    Sound R { L with callers := L.callers ++ [c], due := L.due ++ [c.number],
                     nextNumber := L.nextNumber + 1 } where
  fresh := h.fresh
  distinct := h.distinct
  callers := by
    rw [List.map_append, List.nodup_append]
    refine ⟨h.callers, List.nodup_singleton _, ?_⟩
    rintro n hn _ (_ | ⟨_, ⟨⟩⟩)
    obtain ⟨b, hb, rfl⟩ := List.mem_map.1 hn
    show b.number ≠ c.number
    rw [number]
    exact Nat.ne_of_lt (h.young b hb)
  young b hb := by
    rcases List.mem_append.1 hb with hb | hb
    · exact Nat.lt_succ_of_lt (h.young b hb)
    · cases List.mem_singleton.1 hb
      exact number ▸ Nat.lt_succ_self _
  owner o ho := by
    obtain ⟨b, hb, hown⟩ := h.owner o ho
    exact ⟨b, List.mem_append_left _ hb, hown⟩
  owned b hb id hid := by
    rcases List.mem_append.1 hb with hb | hb
    · exact h.owned b hb id hid
    · cases List.mem_singleton.1 hb
      cases unsent.symm.trans hid
  waiting := h.waiting
  withdrawn := h.withdrawn
  due := by
    rw [List.nodup_append]
    refine ⟨h.due, List.nodup_singleton _, ?_⟩
    rintro n hn _ (_ | ⟨_, ⟨⟩⟩)
    obtain ⟨b, hb, rfl, _⟩ := (h.due_iff n).1 hn
    have := h.young b hb
    omega
  due_iff n := by
    rw [List.mem_append, h.due_iff, List.mem_singleton]
    constructor
    · rintro (⟨b, hb, hn, hgoes⟩ | rfl)
      · exact ⟨b, List.mem_append_left _ hb, hn, hgoes⟩
      · refine ⟨c, List.mem_append_right _ (.head _), rfl, fun id hid => ?_⟩
        cases unsent.symm.trans hid
    · rintro ⟨b, hb, hn, hgoes⟩
      rcases List.mem_append.1 hb with hb | hb
      · exact .inl ⟨b, hb, hn, hgoes⟩
      · cases List.mem_singleton.1 hb
        exact .inr hn.symm

theorem sent (h : L.Sound R) {before after : List Nat} (mem : c ∈ L.callers)
    (unsent : c.sent = none) (due : L.due = before ++ c.number :: after)
    (id : o.id = .number L.nextId) (caller : o.caller = c.number) (unsettled : o.outcome = none)
    (waiting : o.IsWaiting R) :
    Sound R { L.send c o with due := before ++ after } where
  fresh p hp := by
    rcases (mem_outstanding_send c).1 hp with hp | rfl
    · obtain ⟨k, hk, hpk⟩ := h.fresh p hp
      exact ⟨k, Nat.lt_succ_of_lt hk, hpk⟩
    · exact ⟨L.nextId, Nat.lt_succ_self _, id⟩
  distinct := by
    show ((L.outstanding ++ [o]).map (·.id)).Nodup
    rw [List.map_append, List.nodup_append]
    refine ⟨h.distinct, List.nodup_singleton _, ?_⟩
    rintro _ hid _ (_ | ⟨_, ⟨⟩⟩)
    obtain ⟨p, hp, rfl⟩ := List.mem_map.1 hid
    exact fun hpid => h.ne_of_next hp (hpid.trans id)
  callers := by
    have hnumbers : (L.send c o).callers.map (·.number) = L.callers.map (·.number) := by
      refine (List.map_map ..).trans (List.map_congr_left fun b _ => ?_)
      exact number_sent c _ b
    exact hnumbers ▸ h.callers
  young b hb := by
    rcases (mem_callers_send mem).1 hb with rfl | ⟨hb, _⟩
    · exact h.young c mem
    · exact h.young b hb
  owner p hp := by
    rcases (mem_outstanding_send c).1 hp with hp | rfl
    · obtain ⟨b, hb, hn, hsent⟩ := h.owner p hp
      refine ⟨b, (mem_callers_send mem).2 (.inr ⟨hb, fun hne => ?_⟩), hn, hsent⟩
      cases h.eq_of_number hb mem hne
      cases unsent.symm.trans hsent
    · exact ⟨_, (mem_callers_send mem).2 (.inl rfl), caller.symm, rfl⟩
  owned b hb i hi := by
    rcases (mem_callers_send mem).1 hb with rfl | ⟨hb, _⟩
    · exact ⟨o, (mem_outstanding_send c).2 (.inr rfl), Option.some.inj hi, caller⟩
    · obtain ⟨p, hp, hown⟩ := h.owned b hb i hi
      exact ⟨p, (mem_outstanding_send c).2 (.inl hp), hown⟩
  waiting p hp hnone := by
    rcases (mem_outstanding_send c).1 hp with hp | rfl
    · exact h.waiting p hp hnone
    · exact waiting
  withdrawn i hi := by
    obtain ⟨⟨k, hk, rfl⟩, hsettled⟩ := h.withdrawn i hi
    refine ⟨⟨k, Nat.lt_succ_of_lt hk, rfl⟩, fun p hp hpid => ?_⟩
    rcases (mem_outstanding_send c).1 hp with hp | rfl
    · exact hsettled p hp hpid
    · rw [id] at hpid
      injection hpid with hk'
      omega
  due := nodup_without (due ▸ h.due)
  due_iff n := by
    rw [h.mem_dequeued due, h.due_iff]
    constructor
    · rintro ⟨⟨b, hb, rfl, hgoes⟩, hne⟩
      exact ⟨b, (mem_callers_send mem).2 (.inr ⟨hb, hne⟩), rfl,
        (canGoOn_send c b unsettled).2 hgoes⟩
    · rintro ⟨b, hb, rfl, hgoes⟩
      replace hgoes := (canGoOn_send c b unsettled).1 hgoes
      rcases (mem_callers_send mem).1 hb with rfl | ⟨hb, hne⟩
      · obtain ⟨p, hp, hpid, _⟩ := hgoes o.id rfl
        exact absurd (hpid.trans id) (h.ne_of_next hp)
      · exact ⟨⟨b, hb, rfl, hgoes⟩, hne⟩

/-- The end of a call stops no other caller. -/
theorem canGoOn_endCall (h : L.Sound R) (e : Event) {b : Caller} (mem : c ∈ L.callers)
    (hb : b ∈ L.callers) (hne : b.number ≠ c.number) :
    (L.endCall c e).CanGoOn b ↔ L.CanGoOn b := by
  refine forall₂_congr fun i hi => ⟨?_, ?_⟩
  · rintro ⟨p, hp, hsettled⟩
    exact ⟨p, ((mem_outstanding_endCall e).1 hp).1, hsettled⟩
  · rintro ⟨p, hp, rfl, hsome⟩
    exact ⟨p, (mem_outstanding_endCall e).2 ⟨hp, h.sent_ne mem hb hne hi⟩, rfl, hsome⟩

theorem ended (h : L.Sound R) {before after : List Nat} {e : Event} {nextId : Nat}
    (mem : c ∈ L.callers) (due : L.due = before ++ c.number :: after) (le : L.nextId ≤ nextId) :
    Sound R { L.endCall c e with nextId := nextId, due := before ++ after } where
  fresh p hp := by
    obtain ⟨k, hk, hpk⟩ := h.fresh p ((mem_outstanding_endCall e).1 hp).1
    exact ⟨k, Nat.lt_of_lt_of_le hk le, hpk⟩
  distinct := h.distinct.sublist (List.filter_sublist.map _)
  callers := h.callers.sublist (List.filter_sublist.map _)
  young b hb := h.young b ((mem_callers_endCall e).1 hb).1
  owner p hp := by
    obtain ⟨hp, hne⟩ := (mem_outstanding_endCall e).1 hp
    obtain ⟨b, hb, hn, hsent⟩ := h.owner p hp
    refine ⟨b, (mem_callers_endCall e).2 ⟨hb, fun hnumber => hne ?_⟩, hn, hsent⟩
    cases h.eq_of_number hb mem hnumber
    exact hsent
  owned b hb i hi := by
    obtain ⟨hb, hne⟩ := (mem_callers_endCall e).1 hb
    obtain ⟨p, hp, rfl, hown⟩ := h.owned b hb i hi
    exact ⟨p, (mem_outstanding_endCall e).2 ⟨hp, h.sent_ne mem hb hne hi⟩, rfl, hown⟩
  waiting p hp := h.waiting p ((mem_outstanding_endCall e).1 hp).1
  withdrawn i hi := by
    obtain ⟨⟨k, hk, hik⟩, hsettled⟩ := h.withdrawn i hi
    exact ⟨⟨k, Nat.lt_of_lt_of_le hk le, hik⟩,
      fun p hp => hsettled p ((mem_outstanding_endCall e).1 hp).1⟩
  due := nodup_without (due ▸ h.due)
  due_iff n := by
    rw [h.mem_dequeued due, h.due_iff]
    constructor
    · rintro ⟨⟨b, hb, rfl, hgoes⟩, hne⟩
      exact ⟨b, (mem_callers_endCall e).2 ⟨hb, hne⟩, rfl, (h.canGoOn_endCall e mem hb hne).2 hgoes⟩
    · rintro ⟨b, hb, rfl, hgoes⟩
      obtain ⟨hb, hne⟩ := (mem_callers_endCall e).1 hb
      exact ⟨⟨b, hb, rfl, (h.canGoOn_endCall e mem hb hne).1 hgoes⟩, hne⟩

section Decided

variable {f : Outstanding → Outstanding} (meets : ∀ o ∈ L.outstanding, o.Meets F R d (f o))
include meets

/-- After a deed, callers can go on that could before, and those of the requests that it decides. -/
theorem canGoOn_decided (h : L.Sound R) (hc : c ∈ L.callers) :
    CanGoOn { L with outstanding := L.outstanding.map f } c ↔
      L.CanGoOn c ∨ ∃ o ∈ L.outstanding, o.isDecided F R d = true ∧ o.caller = c.number := by
  constructor
  · intro hgoes
    cases hsent : c.sent with
    | none =>
        refine .inl fun i hi => ?_
        cases hsent.symm.trans hi
    | some id =>
        obtain ⟨o, ho, hid, hown⟩ := h.owned c hc id hsent
        obtain ⟨p, hp, hpid, hdone⟩ := hgoes id hsent
        obtain ⟨q, hq, rfl⟩ := List.mem_map.1 hp
        cases h.eq_of_id ho hq (hid.trans (hpid.symm.trans (meets q hq).id))
        rcases (meets o ho).isSome_iff.1 hdone with hdone | hdecided
        · refine .inl fun i hi => ⟨o, ho, hid.trans ?_, hdone⟩
          exact Option.some.inj (hsent.symm.trans hi)
        · exact .inr ⟨o, ho, hdecided, hown⟩
  · rintro (hgoes | ⟨o, ho, hdecided, hown⟩) i hi
    · obtain ⟨o, ho, hid, hdone⟩ := hgoes i hi
      exact ⟨f o, List.mem_map_of_mem ho, (meets o ho).id.trans hid,
        (meets o ho).isSome_iff.2 (.inl hdone)⟩
    · obtain ⟨b, hb, hn, hsent⟩ := h.owner o ho
      cases h.eq_of_number hc hb (hown.symm.trans hn.symm)
      exact ⟨f o, List.mem_map_of_mem ho,
        (meets o ho).id.trans (Option.some.inj (hsent.symm.trans hi)),
        (meets o ho).isSome_iff.2 (.inr hdecided)⟩

omit meets in
/-- The callers that a deed wakes have not been woken before. -/
theorem nodup_decided (h : L.Sound R) :
    (L.due ++ (L.outstanding.filter (·.isDecided F R d)).map (·.caller)).Nodup := by
  rw [List.nodup_append]
  refine ⟨h.due, ?_, ?_⟩
  · refine List.Nodup.map_on (fun o ho p hp hcaller => ?_) (h.distinct.of_map.filter _)
    exact h.eq_of_caller (List.mem_filter.1 ho).1 (List.mem_filter.1 hp).1 hcaller
  · intro n hn m hm hnm
    obtain ⟨o, ho, rfl⟩ := List.mem_map.1 hm
    obtain ⟨ho, hdecided⟩ := List.mem_filter.1 ho
    have hopen := (Bool.and_eq_true_iff.1 hdecided).1
    rw [hnm, h.mem_due_iff ho] at hn
    rw [Option.isNone_iff_eq_none] at hopen
    rw [hopen] at hn
    cases hn

theorem decided (h : L.Sound R) {cancelled : List RequestId} {nextNumber : Nat}
    (withdrawn : ∀ id ∈ cancelled, id ∈ L.cancelled ∨
      ∃ o ∈ L.outstanding, o.id = id ∧ (f o).outcome.isSome = true)
    (le : L.nextNumber ≤ nextNumber) :
    Sound R { L with outstanding := L.outstanding.map f, cancelled := cancelled,
                     due := L.due ++ (L.outstanding.filter (·.isDecided F R d)).map (·.caller),
                     nextNumber := nextNumber } where
  fresh := by
    refine List.forall_mem_map.2 fun o ho => ?_
    exact (meets o ho).id ▸ h.fresh o ho
  distinct := by
    have hids : (L.outstanding.map f).map (·.id) = L.outstanding.map (·.id) :=
      (List.map_map ..).trans (List.map_congr_left fun o ho => (meets o ho).id)
    exact hids ▸ h.distinct
  callers := h.callers
  young b hb := Nat.lt_of_lt_of_le (h.young b hb) le
  owner := by
    refine List.forall_mem_map.2 fun o ho => ?_
    rw [(meets o ho).id, (meets o ho).caller]
    exact h.owner o ho
  owned b hb i hi := by
    obtain ⟨o, ho, hid, hcaller⟩ := h.owned b hb i hi
    exact ⟨f o, List.mem_map_of_mem ho, (meets o ho).id.trans hid,
      (meets o ho).caller.trans hcaller⟩
  waiting := by
    refine List.forall_mem_map.2 fun o ho hnone => ?_
    have houtcome := (meets o ho).outcome
    rw [hnone] at houtcome
    have hopen := (Option.or_eq_none_iff.1 houtcome.symm).1
    rw [(meets o ho).same (hnone.trans hopen.symm)]
    exact h.waiting o ho hopen
  withdrawn i hi := by
    rcases withdrawn i hi with hold | ⟨o, ho, rfl, hdone⟩
    · obtain ⟨hused, hsettled⟩ := h.withdrawn i hold
      refine ⟨hused, List.forall_mem_map.2 fun o ho hid => (meets o ho).isSome_iff.2 (.inl ?_)⟩
      exact hsettled o ho ((meets o ho).id.symm.trans hid)
    · refine ⟨h.fresh o ho, List.forall_mem_map.2 fun p hp hid => ?_⟩
      cases h.eq_of_id hp ho ((meets p hp).id.symm.trans hid)
      exact hdone
  due := h.nodup_decided
  due_iff n := by
    rw [List.mem_append, h.due_iff]
    constructor
    · rintro (⟨b, hb, rfl, hgoes⟩ | hn)
      · exact ⟨b, hb, rfl, (h.canGoOn_decided meets hb).2 (.inl hgoes)⟩
      · obtain ⟨o, ho, rfl⟩ := List.mem_map.1 hn
        obtain ⟨ho, hdecided⟩ := List.mem_filter.1 ho
        obtain ⟨b, hb, hbn, _⟩ := h.owner o ho
        exact ⟨b, hb, hbn, (h.canGoOn_decided meets hb).2 (.inr ⟨o, ho, hdecided, hbn.symm⟩)⟩
    · rintro ⟨b, hb, rfl, hgoes⟩
      rcases (h.canGoOn_decided meets hb).1 hgoes with hgoes | ⟨o, ho, hdecided, hown⟩
      · exact .inl ⟨b, hb, rfl, hgoes⟩
      · exact .inr (List.mem_map.2 ⟨o, List.mem_filter.2 ⟨ho, hdecided⟩, hown⟩)

end Decided

end Sound

/-- Every step keeps the ledger sound. -/
theorem Step.sound (step : Step F R L d M) (h : L.Sound R) : M.Sound R := by
  cases step with
  | called unsent number => exact h.called unsent number
  | sent mem unsent due id caller unsettled waiting =>
      exact h.sent mem unsent due id caller unsettled waiting
  | ended mem due _ le => exact h.ended mem due le
  | decided _ meets withdrawn le => exact h.decided meets withdrawn le

end Ledger

end EditorProtocol
