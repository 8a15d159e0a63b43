/-
**What becomes of the messages that are sent.**

Both sends should pass every message to `MQTTPublish`, once and in call order, and return what that
returned. They ask `malloc` for the packed size of the message and take NULL for exhausted memory;
for a message with an empty encoding, such as a status with no field set, `malloc(0)` may return
NULL when nothing is exhausted.

* `send_step` — one send, on one of any number of sessions.
* `sends_faithful_iff` — every sequence of sends in every reachable process: all of them are
  faithful exactly when every empty message gets a block; `sends_in_order` — what they log together.
* `send_not_faithful` — an empty status.
-/

import GatewayConnector.Model.Embedded
import GatewayConnector.Proof.Sessions

namespace GatewayConnector

open Lib

section Sends

variable {Up St Dn : Type} (protobuf : Protobuf Up St Dn) (paho : Paho) {p p' : Process Dn}

/-! ### The parts of a send -/

/-- The variable of the session a message is sent on. -/
def Send.session : Send Up St → Nat
  | .uplink session _ _ | .status session _ _ => session

def Send.outcome : Send Up St → SendOutcome
  | .uplink _ _ o | .status _ _ o => o

/-- The size that is asked of `malloc`. -/
def Send.packedSize : Send Up St → Nat
  | .uplink _ message _ => protobuf.uplinkMessage.getPackedSize message
  | .status _ message _ => protobuf.status.getPackedSize message

/-- The publish that a send stands for, with its result. -/
def Send.event (id : String) (rc : Int) : Send Up St → Event Dn
  | .uplink _ message _ =>
    .publish (upTopic id) (published protobuf.uplinkMessage QOS_UP message) rc
  | .status _ message _ =>
    .publish (statusTopic id) (published protobuf.status QOS_STATUS message) rc

/-! ### The property and the condition -/

/-- **A faithful send**: it makes one publish, on the topic of its session, with the encoding of its
message, returns the result of that, and leaves all sessions and all memory as they were. -/
structure Faithful (p : Process Dn) (send : Send Up St) (rc : Int) (p' : Process Dn) : Prop where
  published : ∃ id, (p.slots send.session).id = some id ∧
    p'.log = p.log ++ [send.event protobuf id rc]
  sessions : p'.slots = p.slots
  memory : p'.heap.cell = p.heap.cell

/-- Memory is not exhausted: the topic is formatted, and a `malloc` that returns NULL was asked for
no byte. -/
def Send.Available (send : Send Up St) : Prop :=
  send.outcome.topic = true ∧ (send.outcome.payload = false → send.packedSize protobuf = 0)

instance Send.decidableAvailable (send : Send Up St) : Decidable (send.Available protobuf) :=
  inferInstanceAs (Decidable (_ ∧ (_ → _)))

/-- The condition: a message of packed size `0` gets a block. -/
def Send.EmptyStored (send : Send Up St) : Prop :=
  send.packedSize protobuf = 0 → send.outcome.payload = true

instance Send.decidableEmptyStored (send : Send Up St) : Decidable (send.EmptyStored protobuf) :=
  inferInstanceAs (Decidable (_ → _))

theorem Send.Available.stored_iff {send : Send Up St} (available : send.Available protobuf) :
    send.EmptyStored protobuf ↔ send.outcome.payload = true := by
  constructor
  · intro stored
    by_contra refused
    exact refused (stored (available.2 (Bool.eq_false_iff.mpr refused)))
  · intro payload _
    exact payload

/-! ### One send -/

section Message

variable {M : Type} (codec : Codec M) (topicOf : String → String) (qos : QoS) (message : M)
  {o : SendOutcome} {session : Nat} {id : String}

/-- A call that leaves the handle and the session leaves every variable. -/
theorem slots_store_kept (p : Process Dn) (session : Nat) {s : State Dn}
    (handle : s.handle = (p.slots session).handle)
    (fields : s.session = (p.slots session).session) :
    (p.store session ((p.slots session).keep s) s).slots = p.slots := by
  have kept : (p.slots session).keep s = p.slots session := by
    unfold Slot.keep
    rw [handle, fields]
  show Function.update p.slots session _ = p.slots
  rw [kept, Function.update_eq_self]

/-- A message that got a block is published. -/
theorem onSession_published (intact : Intact id (p.state session)) (payload : o.payload = true)
    (topic : o.topic = true) :
    ∃ rc p', (onSession session (sendMessage paho codec topicOf qos message o)).run p =
        .ok (rc, p') ∧
      p'.log = p.log ++ [.publish (topicOf id) (published codec qos message) rc] ∧
      p'.slots = p.slots ∧ p'.heap.cell = p.heap.cell := by
  have sent := send_served paho codec topicOf qos message o intact payload topic
  exact ⟨_, _, onSession_run intact sent, rfl, slots_store_kept p session rfl rfl, rfl⟩

/-- A message that got no block is dropped. -/
theorem onSession_dropped (intact : Intact id (p.state session)) (refused : o.payload = false) :
    ∃ p', (onSession session (sendMessage paho codec topicOf qos message o)).run p =
        .ok (FAILURE, p') ∧
      p'.log = p.log ∧ p'.slots = p.slots ∧ p'.heap.cell = p.heap.cell := by
  have dropped := send_payload_unserved paho codec topicOf qos message o (s := p.state session)
    refused
  exact ⟨_, onSession_run intact dropped, rfl, slots_store_kept p session rfl rfl, rfl⟩

end Message

/-- A message that got a block is published on the topic of its session. -/
theorem send_published (send : Send Up St) {id : String}
    (intact : Intact id (p.state send.session)) (topic : send.outcome.topic = true)
    (payload : send.outcome.payload = true) :
    ∃ rc p', (send.exec protobuf paho).run p = .ok (rc, p') ∧
      p'.log = p.log ++ [send.event protobuf id rc] ∧
      p'.slots = p.slots ∧ p'.heap.cell = p.heap.cell := by
  cases send with
  | uplink session message o =>
    exact onSession_published paho protobuf.uplinkMessage upTopic QOS_UP message intact payload topic
  | status session message o =>
    exact onSession_published paho protobuf.status statusTopic QOS_STATUS message intact payload
      topic

/-- A message that got no block is dropped. -/
theorem send_dropped (send : Send Up St) {id : String} (intact : Intact id (p.state send.session))
    (refused : send.outcome.payload = false) :
    ∃ p', (send.exec protobuf paho).run p = .ok (FAILURE, p') ∧ p'.log = p.log ∧
      p'.slots = p.slots ∧ p'.heap.cell = p.heap.cell := by
  cases send with
  | uplink session message o =>
    exact onSession_dropped paho protobuf.uplinkMessage upTopic QOS_UP message intact refused
  | status session message o =>
    exact onSession_dropped paho protobuf.status statusTopic QOS_STATUS message intact refused

/-- **One send** returns and leaves all sessions and all memory as they were; it is faithful exactly
when its message got a block. -/
theorem send_step (separate : Separate p) (send : Send Up St)
    (opened : (p.slots send.session).id ≠ none) (topic : send.outcome.topic = true) :
    ∃ rc p', (send.exec protobuf paho).run p = .ok (rc, p') ∧ Separate p' ∧
      p'.slots = p.slots ∧ p'.heap.cell = p.heap.cell ∧
      (Faithful protobuf p send rc p' ↔ send.outcome.payload = true) := by
  obtain ⟨id, known⟩ := Option.ne_none_iff_exists'.mp opened
  have intact := (separate.holds send.session).intact known
  cases payload : send.outcome.payload with
  | true =>
    obtain ⟨rc, p', returned, log, sessions, memory⟩ :=
      send_published protobuf paho send intact topic payload
    refine ⟨rc, p', returned, send_separate protobuf paho separate send returned, sessions, memory,
      ?_⟩
    exact iff_of_true ⟨⟨id, known, log⟩, sessions, memory⟩ rfl
  | false =>
    obtain ⟨p', returned, log, sessions, memory⟩ := send_dropped protobuf paho send intact payload
    refine ⟨FAILURE, p', returned, send_separate protobuf paho separate send returned, sessions,
      memory, iff_of_false (fun faithful => ?_) Bool.noConfusion⟩
    obtain ⟨_, _, grown⟩ := faithful.published
    rw [log] at grown
    exact List.cons_ne_nil _ _ (List.self_eq_append_right.mp grown)

/-! ### Every sequence of sends -/

/-- **Faithful sends, over runs.** In a process reached by any requests, calls with any outcomes
among them, any sequence of sends on its sessions while memory is not exhausted: every send of it
returns and is faithful exactly when every message of packed size `0` in it gets a block. -/
theorem sends_faithful_iff (requests : List (Request Up St)) (replies : List (Option Int))
    (p : Process Dn)
    (ran : (runAll (Request.exec protobuf paho) requests).run Process.boot = .ok (replies, p))
    (sends : List (Send Up St)) (opened : ∀ send ∈ sends, (p.slots send.session).id ≠ none)
    (available : ∀ send ∈ sends, send.Available protobuf) :
    Throughout (Send.exec protobuf paho) (Faithful protobuf) sends p ↔
      ∀ send ∈ sends, send.EmptyStored protobuf := by
  have valids : ∀ send ∈ sends,
      (p.slots send.session).id ≠ none ∧ send.Available protobuf :=
    fun send member => ⟨opened send member, available send member⟩
  -- the sends leave the variables, so a session that was open stays so
  refine throughout_iff_forall (I := fun q : Process Dn => Separate q ∧ q.slots = p.slots)
    (fun q send kept valid => ?_) valids ⟨requests_separate protobuf paho ran, rfl⟩
  obtain ⟨separate, unchanged⟩ := kept
  obtain ⟨known, enough⟩ := valid
  rw [← unchanged] at known
  obtain ⟨rc, q', returned, separate', sessions, _, exact_send⟩ :=
    send_step protobuf paho separate send known enough.1
  refine ⟨rc, q', returned, ⟨separate', sessions.trans unchanged⟩, ?_⟩
  rw [exact_send, enough.stored_iff]

/-- **What faithful sends log together**: their publishes in call order, with their results. -/
theorem sends_in_order (ids : Nat → String) {sends : List (Send Up St)} {p : Process Dn}
    (named : ∀ send ∈ sends, (p.slots send.session).id = some (ids send.session))
    (faithful : Throughout (Send.exec protobuf paho) (Faithful protobuf) sends p) :
    ∃ rcs last, (runAll (Send.exec protobuf paho) sends).run p = .ok (rcs, last) ∧
      rcs.length = sends.length ∧ last.slots = p.slots ∧ last.heap.cell = p.heap.cell ∧
      last.log = p.log ++
        List.zipWith (fun send rc => send.event protobuf (ids send.session) rc) sends rcs := by
  induction sends generalizing p with
  | nil => exact ⟨[], p, rfl, rfl, rfl, rfl, (List.append_nil _).symm⟩
  | cons send rest ih =>
    obtain ⟨rc, q, returned, here, later⟩ := faithful
    obtain ⟨id, known, logged⟩ := here.published
    rw [named send List.mem_cons_self] at known
    cases known
    have namedThen : ∀ other ∈ rest, (q.slots other.session).id = some (ids other.session) := by
      rw [here.sessions]
      exact fun other member => named other (List.mem_cons_of_mem _ member)
    obtain ⟨rcs, last, ran, lengths, sessions, memory, log⟩ := ih namedThen later
    refine ⟨rc :: rcs, last, runAll_cons _ returned ran, congrArg Nat.succ lengths,
      sessions.trans here.sessions, memory.trans here.memory, ?_⟩
    rw [log, logged, List.append_assoc, List.zipWith_cons_cons]
    rfl

end Sends

/-! ### A status with no field set -/

/-- Two sessions, of which the first is connected. -/
def twoGateways : List (Request Bytes Bytes) :=
  [.init 0 "gw" (some 7) 42, .init 1 "other" none 0,
    .call 0 (connectCall none SUCCESS SUCCESS SUCCESS SUCCESS)]

theorem twoGateways_run :
    ∃ p, (runAll (Request.exec wireProtobuf embeddedPaho) twoGateways).run Process.boot =
        .ok ([none, none, some SUCCESS], p) ∧
      (p.slots 0).id = some "gw" ∧ (p.slots 1).id = some "other" := by
  have begun : (runAll (Request.exec wireProtobuf embeddedPaho)
      [.init 0 "gw" (some 7) 42, .init 1 "other" none 0]).run Process.boot = .ok ([none, none], _) :=
    runAll_cons _ (init_request_run ..) (runAll_cons _ (init_request_run ..) rfl)
  have intact : Intact "gw" _ :=
    ((requests_separate wireProtobuf embeddedPaho begun).holds 0).intact rfl
  obtain ⟨p, connected, ids⟩ := call_request_run wireProtobuf embeddedPaho intact
    (connectCall none SUCCESS SUCCESS SUCCESS SUCCESS) (connectCall_served ..)
  refine ⟨p, ?_, (ids 0).trans rfl, (ids 1).trans rfl⟩
  exact runAll_cons _ (init_request_run ..)
    (runAll_cons _ (init_request_run ..) (runAll_cons _ connected rfl))

/-- An uplink on one session, an empty status and an uplink on the other. -/
theorem sends_faithful_both :
    ∃ p, (runAll (Request.exec wireProtobuf embeddedPaho) twoGateways).run Process.boot =
        .ok ([none, none, some SUCCESS], p) ∧
      Throughout (Send.exec wireProtobuf embeddedPaho) (Faithful wireProtobuf)
        [.uplink 1 [1, 2] ⟨true, true, SUCCESS⟩, .status 0 [] ⟨true, true, SUCCESS⟩,
          .uplink 0 [3] ⟨true, true, FAILURE⟩] p := by
  obtain ⟨p, ran, first, second⟩ := twoGateways_run
  refine ⟨p, ran, (sends_faithful_iff wireProtobuf embeddedPaho twoGateways _ p ran _ ?_
    (by decide)).mpr (by decide)⟩
  simp [Send.session, first, second]

/-- **The dropped status.** A status with no field set, on a connected session, while `malloc(0)`
returns NULL: the send returns `FAILURE` and publishes nothing. -/
theorem send_not_faithful :
    ∃ p p', (runAll (Request.exec wireProtobuf embeddedPaho) twoGateways).run Process.boot =
        .ok ([none, none, some SUCCESS], p) ∧
      (.status 0 [] ⟨false, true, SUCCESS⟩ : Send Bytes Bytes).Available wireProtobuf ∧
      (Send.exec wireProtobuf embeddedPaho (.status 0 [] ⟨false, true, SUCCESS⟩)).run p =
        .ok (FAILURE, p') ∧ p'.log = p.log ∧
      ¬ Throughout (Send.exec wireProtobuf embeddedPaho) (Faithful wireProtobuf)
        [.status 0 [] ⟨false, true, SUCCESS⟩] p := by
  obtain ⟨p, ran, known, _⟩ := twoGateways_run
  have intact := ((requests_separate wireProtobuf embeddedPaho ran).holds 0).intact known
  obtain ⟨p', returned, log, _⟩ := onSession_dropped embeddedPaho wireProtobuf.status statusTopic
    QOS_STATUS [] (o := ⟨false, true, SUCCESS⟩) intact rfl
  refine ⟨p, p', ran, by decide, returned, log, ?_⟩
  rintro ⟨rc, q, again, faithful, _⟩
  have same := again.symm.trans returned
  cases same
  obtain ⟨_, _, grown⟩ := faithful.published
  rw [log] at grown
  exact List.cons_ne_nil _ _ (List.self_eq_append_right.mp grown)

end GatewayConnector
