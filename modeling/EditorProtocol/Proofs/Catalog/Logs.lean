import EditorProtocol.Proofs.Catalog.Messages
import EditorProtocol.Proofs.Catalog.Errors
import EditorProtocol.Proofs.Endpoint.Course
import EditorProtocol.Proofs.Endpoint.Flushing

/-!
Entries of the log as they are sent with the catalogs. Every entry that a collector makes has a
message; so only the transport can keep it from being sent. The entry that the transport does not
take is lost, as it is out of the buffer by then.
-/

namespace EditorProtocol

variable {R : Registry} {b : Buffered} {m : Value}

/-- An entry of a type that the other side knows. -/
def Buffered.IsTyped (b : Buffered) : Prop := b.type ∈ Catalog.messageType.members

/-- The notification of an entry. -/
def Buffered.message (b : Buffered) : Value :=
  .object [("jsonrpc", .text "2.0"), ("method", .text "window/logMessage"),
    ("params", .object [("type", .ofScalar b.type.code), ("message", .text b.text)])]

theorem members_messageType : Catalog.messageType.members =
    [⟨"MessageType", .integer, "ERROR", .int 1⟩, ⟨"MessageType", .integer, "WARNING", .int 2⟩,
      ⟨"MessageType", .integer, "INFO", .int 3⟩, ⟨"MessageType", .integer, "LOG", .int 4⟩] := by
  decide +kernel

theorem isTyped_messageTypeOf (text : String) (level : Int) :
    Buffered.IsTyped ⟨text, messageTypeOf level⟩ := by
  unfold Buffered.IsTyped messageTypeOf
  rw [members_messageType]
  dsimp only
  split
  · exact .head _
  split
  · exact .tail _ (.head _)
  split
  · exact .tail _ (.tail _ (.head _))
  · exact .tail _ (.tail _ (.tail _ (.head _)))

/-- Whatever a collector takes has a type that the other side knows. -/
theorem isTyped_of_collected {logger template : String} {level : Int} {args : List Value}
    (h : Buffered.of? logger level template args = some b) : b.IsTyped := by
  obtain ⟨text, _, rfl⟩ := Option.map_eq_some_iff.1 h
  exact isTyped_messageTypeOf _ level

namespace Catalog

/-- The attributes of the parameters of an entry. -/
def logSlots (b : Buffered) : List (Slot Value) :=
  [⟨"type", .member b.type, .given⟩, ⟨"message", .text b.text, .given⟩]

/-- The shape of the types of messages. -/
def messageTypeShape : EnumShape :=
  ⟨"MessageType", .integers [1, 2, 3, 4], ["1", "2", "3", "4"], messageType.members⟩

theorem shape_messageType :
    (FieldDecl.required "type" messageType.type).asField.shape = .enumeration messageTypeShape := by
  decide +kernel

theorem find_logMessageParams : family.find? logMessageParams.ref = some logMessageParams := rfl

theorem member_conforms (hb : b.IsTyped) :
    Conforms family (FieldDecl.required "type" messageType.type).asField.shape
      (.member b.type) := by
  rw [shape_messageType]
  exact .member hb

theorem make_logMessageParams (hb : b.IsTyped) :
    logMessageParams.make family [("type", .member b.type), ("message", .text b.text)] =
      .ok (.record logMessageParams.ref (logSlots b)) := by
  have hregular := (family_regular.model find_logMessageParams).1
  have hfilled : logMessageParams.Filled family fun d =>
      Value.lookup [("type", .member b.type), ("message", .text b.text)] d.name :=
    Model.filled_of_fields (List.forall_mem_cons.2 ⟨.inl ⟨_, rfl, member_conforms hb⟩,
      List.forall_mem_cons.2 ⟨.inl ⟨_, rfl, .text rfl b.text⟩, List.forall_mem_nil _⟩⟩)
  exact Model.make_of_fitFields hregular
    (Model.fitFields_entries family_regular hregular hfilled) rfl

theorem log_conforms (hb : b.IsTyped) : Conforms family logMessageParams.shape
    (.record logMessageParams.ref (logSlots b)) :=
  .of_forall₂ (family_regular.model find_logMessageParams).1 find_logMessageParams
    (.cons ⟨rfl, nofun, fun _ => member_conforms hb⟩
      (.cons ⟨rfl, nofun, fun _ => .text rfl b.text⟩ .nil))
    nofun

theorem encode_log (hb : b.IsTyped) :
    encode family (.record logMessageParams.ref (logSlots b)) logMessageParams.shape =
      .ok (.object [("type", .ofScalar b.type.code), ("message", .text b.text)]) := by
  have htype : encode family (.member b.type) (.enumeration messageTypeShape) =
      .ok (.ofScalar b.type.code) := by
    rw [encode]
    unfold Buffered.IsTyped at hb
    rw [members_messageType] at hb
    generalize b.type = type at hb
    rcases hb with _ | ⟨_, _ | ⟨_, _ | ⟨_, _ | ⟨_, ⟨⟩⟩⟩⟩⟩
    all_goals rfl
  have htext : encode family (.text b.text) (.ofKind .string) = .ok (.text b.text) := by
    rw [Shape.ofKind, encode]
    rfl
  obtain ⟨w, hw, _⟩ := (log_conforms hb).delivers family_regular rfl
  have hready : ∀ d ∈ logMessageParams.fields, d.IsReady family (logSlots b) :=
    List.forall_mem_cons.2 ⟨⟨_, rfl, (by rintro ⟨⟩), fun _ => ⟨_, shape_messageType ▸ htype⟩⟩,
      List.forall_mem_cons.2 ⟨⟨_, rfl, (by rintro ⟨⟩), fun _ => ⟨_, htext⟩⟩, List.forall_mem_nil _⟩⟩
  have hwritten : logMessageParams.written family (logSlots b) =
      [("type", .ofScalar b.type.code), ("message", .text b.text)] := by
    have htypeSent : (FieldDecl.required "type" messageType.type).sent family (logSlots b) =
        some (.ofScalar b.type.code) :=
      FieldDecl.sent_of_isSent rfl rfl (shape_messageType ▸ htype)
    have htextSent : (FieldDecl.required "message" .text).sent family (logSlots b) =
        some (.text b.text) :=
      FieldDecl.sent_of_isSent rfl rfl htext
    show [FieldDecl.required "type" messageType.type, .required "message" .text].filterMap _ = _
    rw [List.filterMap_cons, htypeSent, List.filterMap_cons, htextSent]
    rfl
  rw [← hwritten, ← encode_written family_regular find_logMessageParams hready hw.encoded]
  exact hw.encoded

/-- With a catalog an entry is carried by its message, and by no other one. -/
theorem carriedBy_iff (hR : R ∈ registries) (hb : b.IsTyped) :
    b.CarriedBy family R m ↔ m = b.message := by
  have hfind : R.find? logName = some (notification logName logMessageParams.shape) := by
    rcases hR with _ | ⟨_, _ | ⟨_, ⟨⟩⟩⟩
    · rfl
    · rfl
  have hconform : ∀ v w, ((notification logName logMessageParams.shape).conform family
      (.record logMessageParams.ref (logSlots b))).outcome = .ok (v, w) ↔
        .record logMessageParams.ref (logSlots b) = v ∧
          encode family v logMessageParams.shape = .ok w :=
    fun _ _ => Method.conform_typed_iff rfl rfl
  constructor
  · rintro ⟨params, ⟨method, typed, payload⟩, hparams, hn, rfl⟩
    cases (make_logMessageParams hb).symm.trans hparams
    obtain ⟨⟨hmethod, _⟩, hn⟩ := Registry.buildNotification_ok_iff.1 hn
    cases hfind.symm.trans hmethod
    obtain ⟨rfl, hpayload⟩ := (hconform _ _).1 hn
    cases (encode_log hb).symm.trans hpayload
    rfl
  · rintro rfl
    refine ⟨_, ⟨notification logName logMessageParams.shape, _, _⟩, make_logMessageParams hb,
      Registry.buildNotification_ok_iff.2
        ⟨⟨hfind, rfl⟩, (hconform _ _).2 ⟨rfl, encode_log hb⟩⟩, rfl⟩

open Session in
/-- A flush that ends well has sent all entries of the buffer in order, and leaves none. One that
fails has sent those before some entry, and leaves those after it: the entry itself, which could not
be sent, is in the buffer no longer, and a later flush sends the others only. With a catalog, each
entry is sent as its message. -/
theorem flush_loses_failed (s : Session) :
    s.Flushes (Action.flushLogs.run s).1 (Action.flushLogs.run s).2 ∧
      (s.family = family → s.registry ∈ registries →
        ∀ logger level template args b, Buffered.of? logger level template args = some b →
          ∀ m, b.CarriedBy s.family s.registry m ↔ m = b.message) ∧
      ∀ r t, s.Flushes r t →
        (r = .ok () → t.logBuffer = [] ∧
          ∃ ms, List.Forall₂ (Buffered.CarriedBy s.family s.registry) s.logBuffer ms ∧
            t.outbox = s.outbox ++ ms) ∧
        ∀ e, r = .error e → ∃ before b ms, s.logBuffer = before ++ b :: t.logBuffer ∧
          List.Forall₂ (Buffered.CarriedBy s.family s.registry) before ms ∧
          t.outbox = s.outbox ++ ms ∧
          ((∃ f, e = .transport f) ∨ ∀ m, ¬ b.CarriedBy s.family s.registry m) ∧
          ∀ u v, t.Meanwhile u → u.Flushes (.ok ()) v → v.logBuffer = [] ∧
            ∃ later, List.Forall₂ (Buffered.CarriedBy s.family s.registry) t.logBuffer later ∧
              v.outbox = t.outbox ++ later := by
  refine ⟨s.flushes_flushLogs, ?_, fun r t h => ?_⟩
  · intro hfamily hregistry logger level template args b hb m
    rw [hfamily]
    exact carriedBy_iff hregistry (isTyped_of_collected hb)
  · obtain ⟨hfamily, hregistry, before, ms, hms, hsent, hok, herror⟩ := h.accounts
    refine ⟨fun hr => ?_, fun e he => ?_⟩
    · obtain ⟨hbefore, hempty⟩ := hok hr
      exact ⟨hempty, ms, hbefore ▸ hms, hsent⟩
    · obtain ⟨b, hbuffer, hcause⟩ := herror e he
      refine ⟨before, b, ms, hbuffer, hms, hsent, hcause, fun u v meanwhile hlater => ?_⟩
      obtain ⟨_, _, after, later, hafter, hthen, hdone, _⟩ := hlater.accounts
      obtain ⟨rfl, hempty⟩ := hdone rfl
      rw [meanwhile.logBuffer, meanwhile.family, meanwhile.registry, hfamily, hregistry] at hafter
      exact ⟨hempty, later, hafter, meanwhile.outbox ▸ hthen⟩

/-- An entry of a logger. -/
def indexed (file : String) : Buffered := ⟨"server: indexed " ++ file, messageTypeOf 20⟩

def resetFailure : TransportFailure := ⟨.closed, "ConnectionError", "reset"⟩

open Session in
/-- Of three entries the first one is sent, and then the transport fails. -/
theorem flush_loses_failed_second :
    ∃ e t, Flushes
        { start family standard with logBuffer := [indexed "a", indexed "b", indexed "c"] }
        (.error e) t ∧
      t.outbox = [(indexed "a").message] ∧ t.logBuffer = [indexed "c"] := by
  let s := { start family standard with logBuffer := [indexed "a", indexed "b", indexed "c"] }
  have hcarried : ∀ file m, (indexed file).CarriedBy family standard m ↔
      m = (indexed file).message :=
    fun _ _ => carriedBy_iff (.head _) (isTyped_messageTypeOf _ 20)
  obtain ⟨entries, m, hm, hsent⟩ := Action.logMessage_of_works
    (s := { s with logBuffer := [indexed "b", indexed "c"] }) rfl ((hcarried "a" _).2 rfl)
  let u := { s.note entries with
    logBuffer := [indexed "b", indexed "c"], outbox := [m], sendFailure := some resetFailure }
  obtain ⟨more, e, hfailed⟩ := Action.logMessage_of_failure
    (s := { u with logBuffer := [indexed "c"] }) rfl (indexed "b")
  have h : s.Flushes (.error e) ({ u with logBuffer := [indexed "c"] }.note more) :=
    .sent rfl hsent (u := u) ⟨rfl, rfl, rfl, rfl⟩ (.failed rfl hfailed)
  refine ⟨e, _, h, ?_, rfl⟩
  obtain ⟨before, b, ms, hbuffer, hms, hout, -⟩ := ((flush_loses_failed s).2.2 _ _ h).2 e rfl
  obtain ⟨rfl, -⟩ : [indexed "a"] = before ∧ [indexed "b", indexed "c"] = [b, indexed "c"] :=
    List.append_inj' hbuffer rfl
  rw [hout]
  obtain ⟨m', hm', rfl⟩ : ∃ m', (indexed "a").CarriedBy family standard m' ∧ ms = [m'] := by
    cases hms with
    | cons hfirst hrest =>
        cases hrest
        exact ⟨_, hfirst, rfl⟩
  rw [(hcarried "a" m').1 hm']
  rfl

open Session in
/-- An entry that the transport does not take is never sent, although the transport recovers. -/
theorem failed_entry_lost :
    let failing := (start family standard).life
      [.collect (indexed "a"), .transport (some resetFailure)]
    failing.logBuffer = [indexed "a"] ∧ (∃ e, (Action.flushLogs.run failing).1 = .error e) ∧
      (failing.after .flush).logBuffer = [] ∧
      (failing.life [.flush, .transport none, .flush]).outbox = [] := by
  let failing := (start family standard).life
    [.collect (indexed "a"), .transport (some resetFailure)]
  obtain ⟨entries, e, hrun⟩ := Action.logMessage_of_failure
    (s := { failing with logBuffer := [] }) rfl (indexed "a")
  have hflush : Action.flushLogs.run failing =
      (.error e, { failing with logBuffer := [] }.note entries) := by
    show (Action.sendLogs [indexed "a"]).run failing = _
    unfold Action.sendLogs
    rw [Action.run_modify_bind, Action.run_bind, hrun]
  refine ⟨rfl, ⟨e, congrArg Prod.fst hflush⟩, ?_, ?_⟩
  · exact congrArg (fun r => r.2.logBuffer) hflush
  · exact congrArg (fun r => (r.2.life [.transport none, .flush]).outbox) hflush

end Catalog

end EditorProtocol
