import EditorProtocol.Proofs.Endpoint.Outgoing

/-!
What becomes of a request that was sent. From the moment that it waits, the first verdict of what is
done at the endpoint is its outcome. The outcome stays until the caller takes it, which is the end
of the call, and no other request ever has the same identity.
-/

namespace EditorProtocol

variable {F : Family} {R : Registry} {L M : Ledger} {d : Deed} {ds : List Deed} {o p : Outstanding}
  {c : Caller} {s t : Session}

/-- What has become of a request, given the outcome that it should have. -/
inductive Outstanding.Fate (o : Outstanding) (c : Caller) (ds : List Deed) (t : Session) :
    Option (Except EndpointError Reply) → Prop
  /-- It waits as it did before. -/
  | waits (mem : o ∈ t.outstanding) : Fate o c ds t none
  /-- It has the outcome, which the caller has not taken yet. -/
  | decided {p : Outstanding} {x : Except EndpointError Reply} (mem : p ∈ t.outstanding)
      (id : p.id = o.id) (caller : p.caller = o.caller)
      (request : p.pending.request = o.pending.request) (outcome : p.outcome = some x) :
      Fate o c ds t (some x)
  /-- The caller has taken the outcome. -/
  | taken {x : Except EndpointError Reply}
      (ended : .resumed c.number (some (Session.outcomeEvent c x)) ∈ ds)
      (gone : ∀ p ∈ t.outstanding, p.id ≠ o.id) : Fate o c ds t (some x)

namespace Outstanding.Fate

variable {x : Option (Except EndpointError Reply)} {y : Except EndpointError Reply}

theorem cons (h : o.Fate c ds t x) (d : Deed) : o.Fate c (d :: ds) t x := by
  cases h with
  | waits mem => exact .waits mem
  | decided mem id caller request outcome => exact .decided mem id caller request outcome
  | taken ended gone => exact .taken (.tail d ended) gone

/-- What becomes of a request that has met a deed becomes of it. -/
theorem of_meets (h : p.Fate c ds t (some y)) (hmeets : o.Meets F R d p) :
    o.Fate c (d :: ds) t (some y) := by
  cases h with
  | decided mem id caller request outcome =>
      exact .decided mem (id.trans hmeets.id) (caller.trans hmeets.caller)
        (request.trans hmeets.request) outcome
  | taken ended gone => exact .taken (.tail d ended) fun q hq => hmeets.id ▸ gone q hq

end Outstanding.Fate

namespace Ledger

/-! ### Steps -/

/-- A request that is there meets every step, unless its caller takes the outcome. -/
theorem Step.meets (step : Step F R L d M) (sound : L.Sound R) (ho : o ∈ L.outstanding)
    (hc : c ∈ L.callers) (hsent : c.sent = some o.id) :
    (∃ p ∈ M.outstanding, o.Meets F R d p ∧ c ∈ M.callers) ∨
      ∃ x, o.outcome = some x ∧ d = .resumed c.number (some (Session.outcomeEvent c x)) ∧
        ∀ p ∈ M.outstanding, p.id ≠ o.id := by
  cases step with
  | called unsent number =>
      exact .inl ⟨o, ho, .of_silent fun _ => rfl, List.mem_append_left _ hc⟩
  | @sent b q before after mem unsent due id caller unsettled waiting =>
      refine .inl ⟨o, List.mem_append_left _ ho, .of_silent fun _ => rfl,
        List.mem_map.2 ⟨c, hc, ?_⟩⟩
      refine if_neg fun hnumber => ?_
      cases sound.eq_of_number hc mem (beq_iff_eq.1 hnumber)
      cases unsent.symm.trans hsent
  | @ended b e before after nextId mem due cause le =>
      by_cases hnumber : c.number = b.number
      · cases sound.eq_of_number hc mem hnumber
        obtain ⟨q, hq, hid, x, hx, rfl⟩ := cause o.id hsent
        cases sound.eq_of_id hq ho hid
        refine .inr ⟨x, hx, rfl, fun p hp hpid => ?_⟩
        exact bne_iff_ne.1 (List.mem_filter.1 hp).2 (hsent.trans (congrArg some hpid.symm))
      · have hkept := sound.sent_ne mem hc hnumber hsent
        exact .inl ⟨o, (mem_outstanding_endCall e).2 ⟨ho, hkept⟩, .of_silent fun _ => rfl,
          (mem_callers_endCall e).2 ⟨hc, hnumber⟩⟩
  | decided isTurn meets withdrawn le =>
      exact .inl ⟨_, List.mem_map_of_mem ho, meets o ho, hc⟩

/-- An identity that was used and is not there does not come back. -/
theorem Step.gone (step : Step F R L d M) {i : RequestId} (used : ∃ k < L.nextId, i = .number k)
    (gone : ∀ p ∈ L.outstanding, p.id ≠ i) :
    (∃ k < M.nextId, i = .number k) ∧ ∀ p ∈ M.outstanding, p.id ≠ i := by
  obtain ⟨k, hk, rfl⟩ := used
  cases step with
  | called unsent number => exact ⟨⟨k, hk, rfl⟩, gone⟩
  | sent mem unsent due id caller unsettled waiting =>
      refine ⟨⟨k, Nat.lt_succ_of_lt hk, rfl⟩, fun p hp hpid => ?_⟩
      rcases List.mem_append.1 hp with hp | hp
      · exact gone p hp hpid
      · cases List.mem_singleton.1 hp
        have hsame := id.symm.trans hpid
        injection hsame with hnumber
        exact absurd (Int.ofNat.inj hnumber).symm (Nat.ne_of_lt hk)
  | ended mem due cause le =>
      exact ⟨⟨k, Nat.lt_of_lt_of_le hk le, rfl⟩, fun p hp => gone p (List.mem_filter.1 hp).1⟩
  | decided isTurn meets withdrawn le =>
      refine ⟨⟨k, hk, rfl⟩, fun p hp => ?_⟩
      obtain ⟨o, ho, rfl⟩ := List.mem_map.1 hp
      rw [(meets o ho).id]
      exact gone o ho

theorem Step.nextId_le (step : Step F R L d M) : L.nextId ≤ M.nextId := by
  cases step with
  | called unsent number => exact Nat.le_refl _
  | sent mem unsent due id caller unsettled waiting => exact Nat.le_succ _
  | ended mem due cause le => exact le
  | decided isTurn meets withdrawn le => exact Nat.le_refl _

theorem Step.ends (step : Step F R L d M) : M.ends = L.ends ++ d.ending?.toList := by
  cases step with
  | called unsent number => exact (List.append_nil _).symm
  | sent mem unsent due id caller unsettled waiting => exact (List.append_nil _).symm
  | ended mem due cause le => rfl
  | decided isTurn meets withdrawn le =>
      cases d with
      | resumed n ending => cases isTurn
      | _ => exact (List.append_nil _).symm

/-- A ledger with nothing in it. -/
theorem sound_empty (R : Registry) : Sound R ⟨0, [], [], [], [], [], 0⟩ where
  fresh := by simp
  distinct := by simp
  callers := by simp
  young := by simp
  owner := by simp
  owned := by simp
  waiting := by simp
  withdrawn := by simp
  due := by simp
  due_iff := by simp

/-- The identities in the table are those that callers wait for. -/
theorem Sound.table (h : L.Sound R) :
    (L.outstanding.map (·.id)).Perm (L.callers.filterMap (·.sent)) := by
  refine (List.perm_ext_iff_of_nodup h.distinct ?_).2 fun i => ?_
  · refine List.pairwise_filterMap.2 ((List.pairwise_map.1 h.callers).imp_of_mem ?_)
    rintro b b' hb hb' hne i hi _ hj rfl
    exact h.sent_ne hb' hb hne hi hj
  · rw [List.mem_map, List.mem_filterMap]
    constructor
    · rintro ⟨o, ho, rfl⟩
      obtain ⟨c, hc, _, hsent⟩ := h.owner o ho
      exact ⟨c, hc, hsent⟩
    · rintro ⟨c, hc, hsent⟩
      obtain ⟨o, ho, hid, _⟩ := h.owned c hc i hsent
      exact ⟨o, ho, hid⟩

end Ledger

namespace Session

/-! ### Paths -/

/-- An endpoint whose ledger is sound, over a registry that lets requests be answered. -/
structure KeepsBooks (s : Session) : Prop where
  serves : s.registry.ServesCallers
  sound : s.ledger.Sound s.registry

theorem KeepsBooks.step (h : s.KeepsBooks) (move : Move s d t) :
    Ledger.Step s.family s.registry s.ledger d t.ledger :=
  move.step h.serves h.sound

theorem KeepsBooks.move (h : s.KeepsBooks) (move : Move s d t) : t.KeepsBooks := by
  refine ⟨move.home.2 ▸ h.serves, ?_⟩
  rw [move.home.2]
  exact (h.step move).sound h.sound

theorem KeepsBooks.path (h : s.KeepsBooks) (path : Path s ds t) : t.KeepsBooks := by
  induction path with
  | rest s => exact h
  | move first more ih => exact ih (h.move first)

/-- An identity that was used and is not there does not come back. -/
theorem KeepsBooks.gone (h : s.KeepsBooks) (path : Path s ds t) {i : RequestId}
    (used : ∃ k < s.nextId, i = .number k) (gone : ∀ p ∈ s.outstanding, p.id ≠ i) :
    ∀ p ∈ t.outstanding, p.id ≠ i := by
  induction path with
  | rest s => exact gone
  | move first more ih =>
      obtain ⟨hused, hgone⟩ := (h.step first).gone used gone
      exact ih (h.move first) hused hgone

/-- The first verdict is the outcome of a request. -/
theorem KeepsBooks.fate (h : s.KeepsBooks) (path : Path s ds t) (ho : o ∈ s.outstanding)
    (hc : c ∈ s.callers) (hsent : c.sent = some o.id) :
    o.Fate c ds t (o.outcome.or (ds.findSome? (o.verdict s.family s.registry))) := by
  -- Induction on the path: a move without a verdict leaves the request as it is, one with a verdict
  -- gives it the outcome, which all later moves keep until the caller takes it.
  induction path generalizing o with
  | rest s =>
      rw [List.findSome?_nil, Option.or_none]
      cases hx : o.outcome with
      | none => exact .waits ho
      | some x => exact .decided ho rfl rfl rfl hx
  | @move s u t d ds first more ih =>
      rcases (h.step first).meets h.sound ho hc hsent with
        ⟨p, hp, hmeets, hcu⟩ | ⟨x, hx, rfl, hgone⟩
      · have hfate := ih (h.move first) hp hcu (hsent.trans (congrArg some hmeets.id.symm))
        rw [first.home.1, first.home.2, hmeets.outcome] at hfate
        rw [List.findSome?_cons]
        cases hopen : o.outcome with
        | some x =>
            rw [hopen, Option.some_or, Option.some_or] at hfate
            rw [Option.some_or]
            exact hfate.of_meets hmeets
        | none =>
            rw [hopen, Option.none_or] at hfate
            rw [Option.none_or]
            cases hverdict : o.verdict s.family s.registry d with
            | some x =>
                rw [hverdict, Option.some_or] at hfate
                exact hfate.of_meets hmeets
            | none =>
                have hsame : p = o := by
                  refine hmeets.same (hmeets.outcome.trans ?_)
                  rw [hverdict, Option.or_none]
                rw [hverdict, Option.none_or, hsame] at hfate
                exact hfate.cons d
      · have hused : ∃ k < u.nextId, o.id = .number k := by
          obtain ⟨k, hk, hid⟩ := h.sound.fresh o ho
          exact ⟨k, Nat.lt_of_lt_of_le hk (h.step first).nextId_le, hid⟩
        rw [hx, Option.some_or]
        exact .taken (.head _) ((h.move first).gone more hused hgone)

/-- An identity stands for one request for good. -/
theorem KeepsBooks.identity (h : s.KeepsBooks) (path : Path s ds t) (ho : o ∈ s.outstanding)
    (hp : p ∈ t.outstanding) (hid : p.id = o.id) :
    p.caller = o.caller ∧ p.pending.request = o.pending.request := by
  obtain ⟨c, hc, _, hsent⟩ := h.sound.owner o ho
  have hsound := (h.path path).sound
  have hfate := h.fate path ho hc hsent
  generalize o.outcome.or (ds.findSome? (o.verdict s.family s.registry)) = x at hfate
  cases hfate with
  | waits mem =>
      cases hsound.eq_of_id hp mem hid
      exact ⟨rfl, rfl⟩
  | decided mem id caller request outcome =>
      cases hsound.eq_of_id hp mem (hid.trans id.symm)
      exact ⟨caller, request⟩
  | taken ended gone => exact absurd hid (gone p hp)

/-- The events that end calls are those of the turns that end them. -/
theorem KeepsBooks.ends (h : s.KeepsBooks) (path : Path s ds t) :
    t.ledger.ends = s.ledger.ends ++ ds.filterMap Deed.ending? := by
  induction path with
  | rest s => exact (List.append_nil _).symm
  | @move s u t d ds first more ih =>
      rw [ih (h.move first), (h.step first).ends, List.append_assoc]
      cases hending : d.ending? with
      | none => rw [List.filterMap_cons_none hending, Option.toList_none, List.nil_append]
      | some e => rw [List.filterMap_cons_some hending, Option.toList_some, List.singleton_append]

end Session

end EditorProtocol
