import EditorProtocol.Proofs.Endpoint.Dispatch
import EditorProtocol.Proofs.Endpoint.Flight

/-!
What the other side cancels when it takes back a request. The identity of the request stands for the
task that was made for it last, until a task of that identity is cleared away. Where that is an
earlier task, the identity stands for none from then on, and the task that is being served cannot be
cancelled any more.
-/

namespace EditorProtocol

variable {F : Family} {R : Registry} {D E : Docket} {d : Deed} {ds es : List Deed} {e : Errand}
  {id : RequestId} {r : IncomingRequest} {n : Nat} {m params : Value} {s t : Session} {u : Task}

/-! ### What an identity stands for -/

/-- Among later deeds, a task is cleared away that earlier ones made for an identity. -/
def ClearsTaskOf (id : RequestId) (earlier later : List Deed) : Prop :=
  ∃ k m r, .accepted m k r ∈ earlier ∧ r.id = id ∧ .cleared k ∈ later

namespace Docket

/-- The identity of a request that is accepted stands for its task. -/
theorem Step.entry_accepted (step : Step F D (.accepted m n r) E) :
    E.taskOf.find? (·.1 == r.id) = some (r.id, n) := by
  cases step with
  | idle isService le => cases isService
  | accepted requests => exact List.find?_cons_of_pos (beq_self_eq_true r.id)

/-- When a task is cleared away, its identity stands for none, whichever it stood for before. -/
theorem Step.entry_cleared (step : Step F D (.cleared n) E) (found : D.errand? n = some e) :
    E.taskOf.find? (·.1 == e.request.id) = none := by
  cases step with
  | idle isService le => cases isService
  | cleared clearing =>
      show (D.clear n).taskOf.find? _ = none
      unfold clear
      rw [found]
      refine List.find?_eq_none.2 fun x hx heq => ?_
      exact bne_iff_ne.1 (List.mem_filter.1 hx).2 (beq_iff_eq.1 heq)

/-- A task was made for no request but its own. -/
theorem History.request_eq (h : History F ds D) (found : D.errand? n = some e)
    (made : .accepted m n r ∈ ds) : e.request = r := by
  obtain ⟨m', made', _⟩ := h.known n e found
  cases eq_of_nodup_filterMap h.acceptedOnce made' made rfl rfl
  rfl

end Docket

namespace Session

/-- A task that has not ended had not ended before, and has not been cleared away. -/
theorem Path.unended (path : Path s ds t) (sound : s.docket.Sound) (old : n < s.docket.nextNumber)
    (found : t.docket.errand? n = some e) (live : e.stage ≠ .ended) :
    (∃ e', s.docket.errand? n = some e' ∧ e'.stage ≠ .ended) ∧ .cleared n ∉ ds := by
  induction path with
  | rest s => exact ⟨⟨e, found, live⟩, nofun⟩
  | @move s u t d ds first more ih =>
      have hstep := first.docket
      obtain ⟨⟨e₁, he₁, hlive₁⟩, hmore⟩ :=
        ih (hstep.sound sound) (Nat.lt_of_lt_of_le old hstep.nextNumber_le) found
      obtain ⟨e₀, he₀, hlive₀⟩ : ∃ e', s.docket.errand? n = some e' ∧ e'.stage ≠ .ended := by
        rcases hstep.origin he₁ with ⟨e₀, he₀, _, hended⟩ | ⟨hnew, _⟩
        · exact ⟨e₀, he₀, mt hended hlive₁⟩
        · exact absurd hnew (Nat.ne_of_lt old)
      refine ⟨⟨e₀, he₀, hlive₀⟩, fun hmem => ?_⟩
      rcases List.mem_cons.1 hmem with rfl | hmem
      · obtain ⟨e', he', hended⟩ := hstep.clears sound
        cases he₀.symm.trans he'
        exact hlive₀ hended
      · exact hmore hmem

/-- While no other request of an identity is accepted, the identity stands for the same task; from
when a task of it is cleared away, it stands for none. -/
theorem Path.entry (path : Path s ds t) (h : s.docket.History s.family es)
    (others : ∀ d ∈ ds, d.reuses id = false) :
    (ClearsTaskOf id es ds ∧ t.taskOf.find? (·.1 == id) = none) ∨
      (¬ ClearsTaskOf id es ds ∧
        t.taskOf.find? (·.1 == id) = s.taskOf.find? (·.1 == id)) := by
  -- Induction on the path: the tasks of the identity are the same all along.
  induction path generalizing es with
  | rest s =>
      refine .inr ⟨?_, rfl⟩
      rintro ⟨_, _, _, _, _, ⟨⟩⟩
  | @move s u t d ds first more ih =>
      have hstep := first.docket
      have hother := others d (.head _)
      have hmade : ∀ {k m r}, .accepted m k r ∈ es ++ [d] → r.id = id → .accepted m k r ∈ es := by
        intro k m r hmem hid
        rcases List.mem_append.1 hmem with hmem | hmem
        · exact hmem
        · cases List.mem_singleton.1 hmem
          exact absurd hid (beq_eq_false_iff_ne.1 hother)
      have hmore := ih ((Path.move first (.rest u)).history h) fun d hd => others d (.tail _ hd)
      by_cases hclears : ∃ k m r, .accepted m k r ∈ es ∧ r.id = id ∧ d = .cleared k
      · obtain ⟨k, m, r, hmem, rfl, rfl⟩ := hclears
        refine .inl ⟨⟨k, m, r, hmem, rfl, .head _⟩, ?_⟩
        obtain ⟨e, he, _⟩ := hstep.clears h.sound
        have hnone := hstep.entry_cleared he
        rw [h.request_eq he hmem] at hnone
        rcases hmore with ⟨_, hmore⟩ | ⟨_, hmore⟩
        · exact hmore
        · exact hmore.trans hnone
      · have hsame := hstep.entry_eq hother fun k e hk he hid => by
          obtain ⟨m, hmem, _⟩ := h.known k e he
          exact hclears ⟨k, m, e.request, hmem, hid, hk⟩
        refine hmore.imp ?_ ?_
        · rintro ⟨⟨k, m, r, hmem, hid, hcleared⟩, hnone⟩
          exact ⟨⟨k, m, r, hmade hmem hid, hid, .tail _ hcleared⟩, hnone⟩
        · rintro ⟨hkept, hmore⟩
          refine ⟨?_, hmore.trans hsame⟩
          rintro ⟨k, m, r, hmem, hid, hcleared⟩
          rcases List.mem_cons.1 hcleared with rfl | hcleared
          · exact hclears ⟨k, m, r, hmem, hid, rfl⟩
          · exact hkept ⟨k, m, r, List.mem_append_left _ hmem, hid, hcleared⟩

/-- The identity of the request that was accepted last stands for its task, until a task of the
identity is cleared away. -/
theorem Path.entry_latest (path : Path (start F R) (ds ++ .accepted m n r :: es) s)
    (latest : ∀ d ∈ es, d.reuses r.id = false) :
    (ClearsTaskOf r.id (ds ++ [.accepted m n r]) es ∧ s.taskOf.find? (·.1 == r.id) = none) ∨
      (¬ ClearsTaskOf r.id (ds ++ [.accepted m n r]) es ∧
        s.taskOf.find? (·.1 == r.id) = some (r.id, n)) := by
  obtain ⟨s₀, before, after⟩ := path.of_append
  cases after with
  | @move _ s₁ _ _ _ accepted more =>
      have hhistory := (before.append (.move accepted (.rest s₁))).history (Docket.history_empty F)
      refine (more.entry hhistory latest).imp_right (And.imp_right fun hsame => ?_)
      exact hsame.trans accepted.docket.entry_accepted

/-- As long as the task of that request has not ended, it is an earlier task that was cleared away
if one was. -/
theorem Path.clears_earlier (path : Path (start F R) (ds ++ .accepted m n r :: es) s)
    (found : s.task? n = some u) (live : u.progress.stage ≠ .ended) :
    ClearsTaskOf r.id (ds ++ [.accepted m n r]) es ↔ ClearsTaskOf r.id ds es := by
  obtain ⟨s₀, before, after⟩ := path.of_append
  cases after with
  | @move _ s₁ _ _ _ accepted more =>
      have hhistory := (before.append (.move accepted (.rest s₁))).history (Docket.history_empty F)
      have hold : n < s₁.docket.nextNumber :=
        hhistory.accepted n (List.mem_filterMap.2 ⟨_, List.mem_append_right ds (.head _), rfl⟩)
      obtain ⟨_, huncleared⟩ := more.unended hhistory.sound hold (errand?_of_task? found) live
      constructor
      · rintro ⟨k, m', r', hmem, hid, hcleared⟩
        rcases List.mem_append.1 hmem with hmem | hmem
        · exact ⟨k, m', r', hmem, hid, hcleared⟩
        · cases List.mem_singleton.1 hmem
          exact absurd hcleared huncleared
      · rintro ⟨k, m', r', hmem, hid, hcleared⟩
        exact ⟨k, m', r', List.mem_append_left _ hmem, hid, hcleared⟩

/-- What is left when a task is cleared away: neither it nor what its identity stands for. -/
theorem clear_of_found (found : s.task? n = some u) (failure : Option EndpointError) :
    (s.clear n failure).tasks = s.tasks.filter (·.number != n) ∧
      (s.clear n failure).taskOf = s.taskOf.filter (·.1 != u.request.id) := by
  unfold clear
  cases failure with
  | none =>
      dsimp only [Option.map, Option.getD]
      rw [found]
      exact ⟨rfl, rfl⟩
  | some e =>
      have hreported : (s.report .error e.message).task? n = some u := found
      dsimp only [Option.map, Option.getD]
      rw [hreported]
      exact ⟨rfl, rfl⟩

end Session

/-! ### Cancelled tasks -/

/-- A task that was cancelled: it is marked before its first turn, or it is able to go on and will
do so as after an interruption. -/
inductive Task.IsCancelled (t : Task) : Prop
  | unbegun (created : t.progress = .created) (cancelled : t.cancelled = true)
  | begun {gate : String} {opened interrupted : Behaviour} {signal : Signal}
      (waiting : t.progress = .waiting gate opened interrupted (some signal))
      (cancelled : t.cancelled = true ∨ signal = .interrupted)

/-- The task of a number is cancelled: in its turn it ends without having begun, or its handler goes
on as it does when it is interrupted. -/
inductive Session.HasCancelled (s : Session) (n : Nat) : Prop
  | unbegun {t : Task} (found : s.task? n = some t) (cancelled : t.IsCancelled)
      (created : t.progress = .created) (turn : s.serve n = s.endTask t none)
  | begun {t : Task} {gate : String} {opened interrupted : Behaviour} {signal : Signal}
      (found : s.task? n = some t) (cancelled : t.IsCancelled)
      (waiting : t.progress = .waiting gate opened interrupted (some signal))
      (turn : s.serve n = ((s.leave (.task n)).emit (.handlerInterrupted gate)).goOn
        { t with cancelled := false } interrupted)

namespace Session

/-- The turn of a task that was cancelled before ends the task and sends nothing. -/
theorem serve_of_cancelled (found : s.task? u.number = some u) (created : u.progress = .created)
    (cancelled : u.cancelled = true) : s.serve u.number = s.endTask u none := by
  unfold serve
  rw [found]
  dsimp only
  rw [created]
  dsimp only
  rw [if_pos cancelled]

theorem hasCancelled_of_task (found : s.task? n = some u) (h : u.IsCancelled) :
    s.HasCancelled n := by
  cases number_of_task? found
  cases h with
  | unbegun created cancelled =>
      exact .unbegun found (.unbegun created cancelled) created
        (serve_of_cancelled found created cancelled)
  | @begun gate opened interrupted signal waiting cancelled =>
      refine .begun found (.begun waiting cancelled) waiting ?_
      unfold serve
      rw [found]
      dsimp only
      rw [waiting]
      dsimp only
      rw [if_pos (by simpa using cancelled)]

theorem HasCancelled.task (h : s.HasCancelled n) : ∃ u, s.task? n = some u ∧ u.IsCancelled := by
  cases h with
  | unbegun found cancelled => exact ⟨_, found, cancelled⟩
  | begun found cancelled => exact ⟨_, found, cancelled⟩

/-- A task that has not ended can be cancelled. -/
theorem cancelTask_cancels (found : s.task? n = some u) (live : u.progress.stage ≠ .ended) :
    ∃ v, (s.cancelTask n).task? n = some v ∧ v.IsCancelled := by
  cases number_of_task? found
  have hset : ∀ v : Task, v.number = u.number → (s.setTask v).task? u.number = some v := by
    intro v hv
    rw [task?_setTask, found, Option.map_some, if_pos hv.symm]
  unfold cancelTask
  rw [found]
  dsimp only
  split
  · next ended => exact absurd (congrArg Progress.stage ended) live
  · exact ⟨_, hset _ rfl, .begun rfl (.inr rfl)⟩
  · next hended hidle =>
    refine ⟨_, hset _ rfl, ?_⟩
    rcases hprogress : u.progress with _ | ⟨gate, opened, interrupted, _ | signal⟩ | _
    · exact .unbegun rfl rfl
    · exact absurd hprogress (hidle gate opened interrupted)
    · exact .begun rfl (.inl rfl)
    · exact absurd hprogress hended

/-- Taking back a request cancels the task that its identity stands for. -/
theorem takeBack_of_entry (named : params.namedId? = some id)
    (entry : s.taskOf.find? (·.1 == id) = some (id, n)) (found : s.task? n = some u)
    (live : u.progress.stage ≠ .ended) :
    ∃ ids, Action.acceptNotification.takeBack params s =
      { s with cancelledIncoming := ids }.cancelTask n := by
  cases number_of_task? found
  rw [takeBack_eq, named]
  simp only [entry, Option.bind_some, found]
  split
  · next ended => exact absurd (congrArg Progress.stage ended) live
  · exact ⟨_, rfl⟩

/-- Where the identity stands for no task, nothing is cancelled. -/
theorem takeBack_of_none (named : params.namedId? = some id)
    (entry : s.taskOf.find? (·.1 == id) = none) :
    Action.acceptNotification.takeBack params s = s := by
  rw [takeBack_eq, named]
  simp only [entry, Option.bind_none]

end Session

/-! ### Messages -/

/-- A message that takes back the request of an identity. -/
def Value.TakesBack (s : Session) (m : Value) (id : RequestId) : Prop :=
  ∃ n params, m.Notifies s n ∧ n.method = Catalog.cancelName ∧
    (s.registry.decodeParams s.family n.method n.params).outcome = .ok params ∧
    params.namedId? = some id

/-- A notification that takes back a request does so, and its handler is called after that. -/
theorem Action.acceptNotification_takesBack {n : IncomingNotification} {d : Method}
    (hfind : s.registry.find? n.method = some d) (hkind : d.isRequest = false)
    (hname : n.method = Catalog.cancelName)
    (hdecode : (s.registry.decodeParams s.family n.method n.params).outcome = .ok params) :
    ∃ t, s.Notes t ∧
      (acceptNotification n).run s = (.ok (some params), acceptNotification.takeBack params t) := by
  have hreport := s.notes_report .debug ("Notification received: " ++ n.method)
  have hknown : (s.registry.find? n.method).all (·.isRequest) = false := by
    rw [hfind]
    exact hkind
  unfold acceptNotification
  rw [run_modify_bind, run_get_bind]
  dsimp only
  split
  · next hunknown => exact absurd hunknown (Bool.eq_false_iff.1 hknown)
  rw [run_bind, run_attempt, run_ofTraced]
  have hdecoded : ((s.report .debug ("Notification received: " ++ n.method)).registry.decodeParams
      (s.report .debug ("Notification received: " ++ n.method)).family n.method n.params).outcome =
        .ok params := hdecode
  rw [hdecoded, mapError_ok]
  dsimp only
  rw [if_pos (beq_iff_eq.2 hname), run_modify_bind]
  exact ⟨_, trans_of Session.Notes hreport (Session.notes_note _ _), rfl⟩

namespace Session

/-- Beyond what taking back a request does, its message leaves all tasks as they are. -/
theorem dispatch_takesBack (h : m.TakesBack s id) :
    ∃ t params, s.Notes t ∧ params.namedId? = some id ∧
      (Action.acceptNotification.takeBack params t).SameService (s.dispatch m).2 := by
  obtain ⟨n, params, ⟨hmethod, hid, ⟨v, hv, hn⟩, ⟨d, hfind, hkind⟩, _⟩, hname, hdecode, hnamed⟩ := h
  obtain ⟨t, hnotes, hrun⟩ := Action.acceptNotification_takesBack hfind hkind hname hdecode
  refine ⟨t, params, hnotes, hnamed, ?_⟩
  unfold dispatch
  rw [hmethod, hid]
  dsimp only
  rw [hv]
  dsimp only
  rw [← hn, dispatchNotification, hrun]
  dsimp only
  split
  · exact refl_of SameService _
  · next handler _ =>
    have hcalled : (Action.acceptNotification.takeBack params t).SameService
        ((Action.acceptNotification.takeBack params t).emit (.handlerCalled n.method params)) :=
      ⟨rfl, rfl, rfl, rfl⟩
    exact trans_of SameService hcalled (sameService_advanceHandler _ (handler params))

theorem dispatch_cancels (h : m.TakesBack s id)
    (entry : s.taskOf.find? (·.1 == id) = some (id, n)) (found : s.task? n = some u)
    (live : u.progress.stage ≠ .ended) : (s.dispatch m).2.HasCancelled n := by
  obtain ⟨t, params, ⟨entries, rfl⟩, named, hservice⟩ := dispatch_takesBack h
  obtain ⟨ids, hcancel⟩ := takeBack_of_entry (s := s.note entries) named entry found live
  have hfound : { s.note entries with cancelledIncoming := ids }.task? n = some u := found
  obtain ⟨v, hv, hcancelled⟩ := cancelTask_cancels hfound live
  rw [hcancel] at hservice
  exact hasCancelled_of_task ((task?_of_tasks hservice.tasks n).trans hv) hcancelled

theorem dispatch_misses (h : m.TakesBack s id) (entry : s.taskOf.find? (·.1 == id) = none) :
    s.SameService (s.dispatch m).2 := by
  obtain ⟨t, params, ⟨entries, rfl⟩, named, hservice⟩ := dispatch_takesBack h
  rw [takeBack_of_none (s := s.note entries) named entry] at hservice
  exact trans_of SameService (s.sameService_note entries) hservice

end Session

end EditorProtocol
