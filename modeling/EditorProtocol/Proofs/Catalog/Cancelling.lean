import EditorProtocol.Proofs.Catalog.Exchange

/-!
Requests that can be cancelled. The notification of the catalogs that takes back a request cancels
the task that its identity stands for: the one that was accepted last, unless an earlier task of the
identity was cleared away since then. In that case the notification reaches no task at all.
-/

namespace EditorProtocol.Catalog

open Session

variable {R : Registry} {s : Session}

/-- The notification that takes back a request. -/
def takingBack (id : RequestId) : Value :=
  .object [("jsonrpc", .text "2.0"), ("method", .text cancelName),
    ("params", .object [("id", id.value)])]

theorem find_cancelName (hR : R ∈ registries) :
    R.find? cancelName = some (notification cancelName cancelParams.shape) := by
  rcases hR with _ | ⟨_, _ | ⟨_, ⟨⟩⟩⟩
  · rfl
  · rfl

theorem takesBack_takingBack (hfamily : s.family = family) (hregistry : s.registry ∈ registries)
    (id : RequestId) : (takingBack id).TakesBack s id := by
  have hpayload : (Value.object [("id", id.value)]).IsJson := isJson_cancelParams id nofun
  have hfilled : notificationMessage.Filled family fun d =>
      Value.lookup [("jsonrpc", .text "2.0"), ("method", .text cancelName),
        ("params", .object [("id", id.value)])] d.name := by
    refine Model.filled_of_fields (List.forall_mem_cons.2 ⟨.inl ⟨_, rfl, ?_⟩,
      List.forall_mem_cons.2 ⟨.inl ⟨_, rfl, .text rfl cancelName⟩,
        List.forall_mem_cons.2 ⟨.inl ⟨_, rfl, .any hpayload⟩, List.forall_mem_nil _⟩⟩⟩)
    exact .code rfl rfl (.text "2.0")
  have hfound : family.find? notificationMessage.ref = some notificationMessage := rfl
  have hregular := (family_regular.model hfound).1
  have hvalid := Model.make_of_fitFields hregular
    (Model.fitFields_entries family_regular hregular hfilled) rfl
  have hknown := find_cancelName hregistry
  have hdecode : (s.registry.decodeParams s.family cancelName
      (.object [("id", id.value)])).outcome =
        .ok (.record cancelParams.ref [⟨"id", id.value, .given⟩]) := by
    rw [hfamily]
    exact (Registry.decodeParams_ok_iff hknown rfl).2 (decode_cancelParams id nofun)
  refine ⟨⟨cancelName, .object [("id", id.value)]⟩, _, ?_, rfl, hdecode,
    RequestId.ofValue?_value id⟩
  exact ⟨rfl, rfl, ⟨_, hfamily ▸ hvalid, rfl⟩, ⟨_, hknown, rfl⟩, ⟨_, hdecode⟩⟩

/-- An identity stands for the task that was accepted last under it, or for none. A task that was
accepted last and has not ended is cancelled by a message that takes its request back, unless an
earlier task of the identity was cleared away since it was accepted: then the identity stands for
none, and the message changes no task. With a catalog every identity has such a message. -/
theorem cancellable_until_cleared (F : Family) (R : Registry) :
    (∀ hs, (start F R).Reaches ((start F R).life hs)) ∧
    (∀ s : Session, s.family = family → s.registry ∈ registries →
      ∀ id, (takingBack id).TakesBack s id) ∧
    ∀ before m n r after s, Path (start F R) (before ++ .accepted m n r :: after) s →
      (∀ d ∈ after, d.reuses r.id = false) →
      (s.taskOf.find? (·.1 == r.id) = none ∨ s.taskOf.find? (·.1 == r.id) = some (r.id, n)) ∧
      ∀ t, s.task? n = some t → t.progress.stage ≠ .ended → t.request = r ∧
        (ClearsTaskOf r.id before after → s.taskOf.find? (·.1 == r.id) = none ∧
          ∀ c, c.TakesBack s r.id → s.SameService (s.dispatch c).2) ∧
        (¬ ClearsTaskOf r.id before after → s.taskOf.find? (·.1 == r.id) = some (r.id, n) ∧
          ∀ c, c.TakesBack s r.id → (s.dispatch c).2.HasCancelled n) := by
  refine ⟨reaches_life _, fun s => takesBack_takingBack, ?_⟩
  intro before m n r after s path latest
  have hentry := path.entry_latest latest
  refine ⟨hentry.imp And.right And.right, fun t found live => ⟨?request, fun hcleared => ?cleared,
    fun hkept => ?kept⟩⟩
  case request =>
    exact (path.history (Docket.history_empty F)).request_eq (errand?_of_task? found)
      (List.mem_append_right before (.head _))
  case cleared =>
    rw [path.clears_earlier found live] at hentry
    have hnone := (hentry.resolve_right fun h => h.1 hcleared).2
    exact ⟨hnone, fun c hc => dispatch_misses hc hnone⟩
  case kept =>
    rw [path.clears_earlier found live] at hentry
    have hsome := (hentry.resolve_left fun h => hkept h.1).2
    exact ⟨hsome, fun c hc => dispatch_cancels hc hsome found live⟩

/-- Of two tasks that overlap under one identity, the first has ended without an answer. The second
one waits, and is cancelled as long as the first one is not cleared away. -/
theorem cancellable_until_cleared_reused :
    let m : Value :=
      .object [("jsonrpc", .text "2.0"), ("id", .int 1), ("method", .text "shutdown")]
    let r : IncomingRequest := ⟨.number 1, "shutdown", .null⟩
    ∃ s, Path (start family legacy)
        [.accepted m 0 r, .accepted m 1 r, .concluded 0 .gaveUp [], .paused 1] s ∧
      (∃ t, s.task? 1 = some t ∧ t.progress.stage = .begun) ∧
      (s.dispatch (takingBack (.number 1))).2.HasCancelled 1 := by
  intro m r
  let s₁ := (start family legacy).accept r
  let s₂ := s₁.accept r
  let first : Task := ⟨0, r, .created, false⟩
  let second : Task := ⟨1, r, .created, false⟩
  let s₃ := s₂.endTask first none
  let s := s₃.afterStop second (.waiting "gate" .giveUp .giveUp)
  have requests : m.Requests family r := requests_bare (.number 1) "shutdown"
  have path : Path (start family legacy)
      ([.accepted m 0 r] ++ .accepted m 1 r :: [.concluded 0 .gaveUp [], .paused 1]) s :=
    .move (.accepted requests) (.move (.accepted (s := s₁) requests)
      (.move (.concluded (s := s₂) (t := first) rfl (by rintro ⟨⟩) .gaveUp rfl)
        (.move (.paused (s := s₃) (t := second) rfl (by rintro ⟨⟩) false "gate" .giveUp .giveUp)
          (.rest s))))
  obtain ⟨_, hmessage, hentry⟩ := cancellable_until_cleared family legacy
  refine ⟨s, path, ⟨_, rfl, rfl⟩, ?_⟩
  obtain ⟨_, htask⟩ := hentry _ _ _ _ _ _ path (by simp [Deed.reuses])
  refine ((htask _ rfl (by rintro ⟨⟩)).2.2 ?_).2 _ (hmessage s rfl (.tail _ (.head _)) _)
  rintro ⟨k, m', r', _, _, hcleared⟩
  simp at hcleared

/-- Two requests arrive under one identity. The first one is served, and its task is cleared away
before the second one has its turn: then the message that takes the second one back changes no
task, and it goes on to be served. -/
theorem later_request_uncancellable :
    let m : Value :=
      .object [("jsonrpc", .text "2.0"), ("id", .int 1), ("method", .text "shutdown")]
    let r : IncomingRequest := ⟨.number 1, "shutdown", .null⟩
    let s := (start family legacy).life
      [.arrival (.message m), .arrival (.message m), .turn 0, .turn 0, .turn 1]
    s.task? 1 = some ⟨1, r, .created, false⟩ ∧ (takingBack (.number 1)).TakesBack s (.number 1) ∧
      s.SameService (s.dispatch (takingBack (.number 1))).2 ∧
      ¬ (s.dispatch (takingBack (.number 1))).2.HasCancelled 1 := by
  intro m r s
  let first : Task := ⟨0, r, .created, false⟩
  let second : Task := ⟨1, r, .created, false⟩
  let arrived : Session :=
    { start family legacy with ready := [], inbox := [.message m, .message m] }
  let received : Session := { { arrived with inbox := [.message m] }.accept r with inbox := [] }
  let accepted : Session := { received.accept r with loop := .receiving }
  have requests : m.Requests family r := requests_bare (.number 1) "shutdown"
  -- The loop takes both requests.
  have hreceived : (start family legacy).life
      [.arrival (.message m), .arrival (.message m), .turn 0] = accepted := by
    show Session.receiveAll [Incoming.message m, Incoming.message m] arrived = accepted
    rw [receiveAll_request rfl requests, receiveAll_request rfl requests]
    rfl
  -- Then the first task has its turn, and is cleared away before the second one has.
  obtain ⟨t, failure, hserves, hserve⟩ := serve_unhandled
    (s := { accepted with ready := [.serve 1] }) (t := first) rfl rfl rfl rfl
  let ended : Session := { t.endTask first failure with ready := [.serve 1] }
  have hcleared : s = ended.clear 0 failure := by
    have hready : (t.endTask first failure).ready = [.serve 1, .clear 0 failure] :=
      congrArg (· ++ [Job.clear 0 failure]) hserves.ready
    have hs : s = (accepted.turn 0).turn 1 := congrArg (fun u => (u.turn 0).turn 1) hreceived
    have hturn : accepted.turn 0 = t.endTask first failure := hserve
    rw [hs, hturn, turn, hready]
    rfl
  have htasks : ended.tasks = [{ first with progress := .ended }, second] :=
    congrArg (List.map _) hserves.tasks
  obtain ⟨hleft, hentry⟩ := clear_of_found (s := ended) (n := 0)
    (u := { first with progress := .ended }) (by rw [task?, htasks]; rfl) failure
  rw [← hcleared, htasks] at hleft
  rw [← hcleared, show ended.taskOf = [(.number 1, 1)] from hserves.taskOf] at hentry
  have hsecond : s.task? 1 = some second := by
    rw [task?, hleft]
    rfl
  have hmessage : (takingBack (.number 1)).TakesBack s (.number 1) := by
    obtain ⟨ds, path⟩ := reaches_life (start family legacy) _
    obtain ⟨hfamily, hregistry⟩ := path.home
    exact takesBack_takingBack hfamily (hregistry ▸ .tail _ (.head _)) _
  have hmissed := dispatch_misses hmessage (by rw [hentry]; rfl)
  refine ⟨hsecond, hmessage, hmissed, fun h => ?_⟩
  obtain ⟨u, found, cancelled⟩ := h.task
  cases ((task?_of_tasks hmissed.tasks 1).trans hsecond).symm.trans found
  rcases cancelled with ⟨_, ⟨⟩⟩ | ⟨⟨⟩, _⟩

end EditorProtocol.Catalog
