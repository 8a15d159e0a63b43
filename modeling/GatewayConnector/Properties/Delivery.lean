/-
**What becomes of a downlink that reaches the client.**

A message is passed to every entry of the handler table whose topic matches, and every connect that
returns `0` adds an entry on `<id>/down` that nothing removes. So the handler runs once for every
connect so far that returned `0`.

A run takes `Input`s: calls of the API and arrivals on `<id>/down`. `Watched` keeps, next to the
state, whether the session is connected and how many connects returned `0`.

* `deliver_run` — one arrival: one delivery per entry.
* `delivers_once_iff` — every run: what arrives while the session is connected is delivered exactly
  once, exactly when it finds one entry; `deliveries_in_order` — and in order of arrival.
* `not_delivered_once` — a second cycle.
-/

import GatewayConnector.Model.Embedded
import GatewayConnector.Proof.Footprint
import GatewayConnector.Proof.Refinement
import GatewayConnector.Proof.Returned

namespace GatewayConnector

open Lib

variable {Up St Dn : Type} (protobuf : Protobuf Up St Dn) (paho : Paho) {id : String}
  {s s' : State Dn}

/-! ### Runs with arrivals -/

/-- What can happen next: a call of the API, or the arrival of a message on `<id>/down`. -/
inductive Input (Up St : Type)
  | call (call : Call Up St)
  | arrival (payload : Bytes)
  deriving DecidableEq, Repr

/-- A state, whether its session is connected (the last connect returned `0` and there was no
disconnect or further connect since), and the number of connects that returned `0`. -/
structure Watched (Dn : Type) where
  state : State Dn
  online : Bool
  accepted : Nat

/-- Watch a call that returned `rc` and left `s'`. -/
def Watched.after (w : Watched Dn) (rc : Int) (s' : State Dn) : Call Up St → Watched Dn
  | .connect _ _ _ _ => ⟨s', rc == SUCCESS, w.accepted + if rc = SUCCESS then 1 else 0⟩
  | .disconnect _ => ⟨s', false, w.accepted⟩
  | _ => ⟨s', w.online, w.accepted⟩

def Input.exec (id : String) : Input Up St → Exec Fault (Watched Dn) Unit
  | .call made => Exec.within Watched.state (fun w rc s' => w.after rc s' made)
      (made.exec protobuf paho)
  | .arrival payload => Exec.within Watched.state (fun w _ s' => { w with state := s' })
      (deliver protobuf paho (downTopic id) payload)

/-- One delivery: the handler is called with the decoded message, which is released afterwards. A
payload that does not decode is dropped. -/
def delivery (function arg : Nat) (payload : Bytes) : List (Event Dn) :=
  match protobuf.unpackDownlink payload with
  | some downlink => [.downlinkHandler function downlink arg, .freeUnpacked downlink]
  | none => []

def Event.isDelivery : Event Dn → Bool
  | .downlinkHandler _ _ _ | .freeUnpacked _ => true
  | _ => false

/-- The events that a call of the API may append to a log: it delivers nothing. -/
def Undelivered (log log' : List (Event Dn)) : Prop :=
  ∃ events, log' = log ++ events ∧ ∀ event ∈ events, event.isDelivery = false

/-- **Exactly-once delivery**: an arrival at a connected session appends one delivery to the log,
and no call of the API delivers anything. -/
def DeliversOnce (function arg : Nat) (w : Watched Dn) : Input Up St → Unit → Watched Dn → Prop
  | .call _, _, w' => Undelivered w.state.log w'.state.log
  | .arrival payload, _, w' =>
    w.online = true → w'.state.log = w.state.log ++ delivery protobuf function arg payload

/-- The condition on an input: when a message that decodes arrives at a connected session, one
connect has returned `0` so far. -/
def OneAccepted (w : Watched Dn) : Input Up St → Prop
  | .call _ => True
  | .arrival payload =>
    w.online = true → protobuf.unpackDownlink payload ≠ none → w.accepted = 1

/-- The comparison of the MQTT layer matches a topic with itself. -/
def Paho.MatchesItself (paho : Paho) : Prop := ∀ topic, paho.topicMatched topic topic = true

/-! ### One arrival -/

section Arrival

variable {function arg : Nat} (payload : Bytes)

/-- The message is handed over to the handler of the session. -/
theorem handedOver_eq (function arg : Nat) :
    (handedOver protobuf (some function) arg payload : List (Event Dn)) =
      delivery protobuf function arg payload := by
  unfold handedOver delivery
  cases protobuf.unpackDownlink payload <;> rfl

/-- **A message on any topic**: all entries match it, or none does. -/
theorem deliver_topic_run (topic : String)
    (topics : ∀ entry ∈ s.session.client.messageHandlers, entry.text = downTopic id)
    (handler : s.session.downlinkHandler = some function) (argument : s.session.cbArg = arg) :
    (deliver protobuf paho topic payload).run s =
      .ok ((), { s with log := s.log ++ (List.replicate s.session.client.messageHandlers.length
        (if paho.topicMatched (downTopic id) topic = true then
          delivery protobuf function arg payload else [])).flatten }) := by
  have texts : s.session.client.messageHandlers.map HandlerEntry.text =
      List.replicate s.session.client.messageHandlers.length (downTopic id) :=
    List.map_eq_replicate_iff.mpr topics
  rw [deliver_effect, texts, handler, argument]
  unfold deliveries
  rw [handedOver_eq, List.filter_replicate]
  by_cases matched : paho.topicMatched (downTopic id) topic = true
  · rw [if_pos matched, if_pos matched, List.flatMap_replicate]
  · rw [if_neg matched, if_neg matched, List.flatten_replicate_nil]
    rfl

/-- **One arrival on `<id>/down`**: one delivery per entry of the handler table. -/
theorem deliver_run (reflexive : paho.MatchesItself)
    (topics : ∀ entry ∈ s.session.client.messageHandlers, entry.text = downTopic id)
    (handler : s.session.downlinkHandler = some function) (argument : s.session.cbArg = arg) :
    (deliver protobuf paho (downTopic id) payload).run s =
      .ok ((), { s with log := s.log ++ (List.replicate s.session.client.messageHandlers.length
        (delivery protobuf function arg payload)).flatten }) := by
  have any := deliver_topic_run protobuf paho payload (downTopic id) topics handler argument
  rw [if_pos (reflexive _)] at any
  exact any

/-- Several deliveries are one when there is one, or nothing to deliver. -/
theorem flatten_replicate_eq_iff {α : Type} (n : Nat) (list : List α) :
    (List.replicate n list).flatten = list ↔ (list ≠ [] → n = 1) := by
  constructor
  · intro same some
    have lengths := congrArg List.length same
    rw [List.length_flatten, List.map_replicate, List.sum_replicate_nat] at lengths
    have positive : 0 < list.length := List.length_pos_iff.mpr some
    exact Nat.eq_of_mul_eq_mul_right positive (by rw [lengths, Nat.one_mul])
  · intro once
    by_cases empty : list = []
    · rw [empty]
      exact List.flatten_replicate_nil
    · rw [once empty, List.replicate_one, List.flatten_singleton]

theorem delivery_ne_nil_iff :
    (delivery protobuf function arg payload : List (Event Dn)) ≠ [] ↔
      protobuf.unpackDownlink payload ≠ none := by
  unfold delivery
  cases protobuf.unpackDownlink payload with
  | none => exact iff_of_false (fun some => some rfl) fun some => some rfl
  | some downlink => exact iff_of_true (List.cons_ne_nil _ _) (Option.some_ne_none _)

end Arrival

/-! ### One call -/

/-- What a run keeps: the callback is the one given to `ttngwc_init`, and the handler table has one
entry on `<id>/down` for every connect that returned `0`. -/
structure Subscribed (id : String) (function arg : Nat) (w : Watched Dn) : Prop where
  intact : Intact id w.state
  handler : w.state.session.downlinkHandler = some function
  argument : w.state.session.cbArg = arg
  topics : ∀ entry ∈ w.state.session.client.messageHandlers, entry.text = downTopic id
  entries : w.state.session.client.messageHandlers.length = w.accepted

/-- A connect keeps the callback, and adds one entry on `<id>/down` if it returns `0`. -/
structure ConnectKeeps (s : State Dn) (id : String) (rc : Int) (s' : State Dn) : Prop where
  callback : s'.session.downlinkHandler = s.session.downlinkHandler ∧
    s'.session.cbArg = s.session.cbArg
  table : ∃ added : List HandlerEntry,
    s'.session.client.messageHandlers = s.session.client.messageHandlers ++ added ∧
      added.length = (if rc = SUCCESS then 1 else 0) ∧
      ∀ entry ∈ added, entry.text = downTopic id
  log : Undelivered s.log s'.log

/-- A connect delivers nothing. -/
theorem connect_undelivered {host : Option String} {port : Int} {key : Option String}
    {o : ConnectOutcome} {rc : Int}
    (ended : ConnectEnd protobuf paho s id host port key o rc s') : Undelivered s.log s'.log := by
  obtain ⟨events, appended, first⟩ := ended.log
  refine ⟨events, appended, fun event member => ?_⟩
  have operation := first.subset member
  simp only [State.operations, List.mem_cons, List.not_mem_nil, or_false] at operation
  rcases operation with rfl | rfl | rfl | rfl
  · rfl
  · rfl
  · rfl
  · rfl

theorem connect_keeps {host : Option String} {port : Int} {key : Option String} {o : ConnectOutcome}
    {rc : Int} (ended : ConnectEnd protobuf paho s id host port key o rc s') :
    ConnectKeeps s id rc s' := by
  have undelivered := connect_undelivered protobuf paho ended
  cases ended with
  | network refused =>
    refine ⟨reached_callback host port key o, ⟨[], ?_, ?_, fun _ absent => nomatch absent⟩,
      undelivered⟩
    · rw [List.append_nil]
      exact congrArg MQTTClient.messageHandlers (reached_client host port key o)
    · rw [if_neg refused]
      rfl
  | mqtt network will refused =>
    refine ⟨afterMqtt_callback protobuf paho id host port key o,
      ⟨[], ?_, ?_, fun _ absent => nomatch absent⟩, undelivered⟩
    · rw [List.append_nil]
      exact afterMqtt_handlers protobuf paho id host port key o
    · rw [if_neg refused]
      rfl
  | subscribe network will mqtt announcement topic =>
    have callback := afterSubscribe_callback (s := s) protobuf paho id host port key o
    by_cases subscribed : subscribeRc paho s o = SUCCESS
    · rw [if_pos subscribed] at undelivered ⊢
      refine ⟨callback, ⟨_, afterSubscribe_handlers protobuf paho id host port key o subscribed, ?_,
        fun entry member => ?_⟩, undelivered⟩
      · rw [if_pos subscribed]
        rfl
      · rw [List.mem_singleton.mp member]
        rfl
    · rw [if_neg subscribed] at undelivered ⊢
      refine ⟨callback, ⟨[], ?_, ?_, fun _ absent => nomatch absent⟩, undelivered⟩
      · rw [List.append_nil]
        exact afterSubscribe_handlers_refused protobuf paho id host port key o subscribed
      · rw [if_neg subscribed]
        rfl

theorem departed_session (id : String) (o : DisconnectOutcome) :
    (s.departed protobuf paho id o).session.downlinkHandler = s.session.downlinkHandler ∧
      (s.departed protobuf paho id o).session.cbArg = s.session.cbArg ∧
      (s.departed protobuf paho id o).session.client.messageHandlers =
        s.session.client.messageHandlers := by
  refine ⟨(closeSocket_callback _).1, (closeSocket_callback _).2, ?_⟩
  show (State.closeSocket _).session.client.messageHandlers = _
  rw [closeSocket_client]
  rfl

theorem sent_keeps {function arg : Nat} {w : Watched Dn} (kept : Subscribed id function arg w)
    {M : Type} {codec : Codec M} {topicOf : String → String} {qos : QoS} {message : M}
    {o : SendOutcome} {rc : Int}
    (returned : (sendMessage paho codec topicOf qos message o).run w.state = .ok (rc, s'))
    (intactAfter : Intact id s') :
    Subscribed id function arg { w with state := s' } ∧
      Undelivered w.state.log s'.log := by
  rcases send_returned paho kept.intact returned with ⟨_, _, rfl⟩ | ⟨_, _, _, rfl⟩
  · exact ⟨⟨intactAfter, kept.handler, kept.argument, kept.topics, kept.entries⟩,
      [], (List.append_nil _).symm, fun _ absent => nomatch absent⟩
  · refine ⟨⟨intactAfter, kept.handler, kept.argument, kept.topics, kept.entries⟩, _, rfl,
      fun event member => ?_⟩
    rw [List.mem_singleton] at member
    subst member
    rfl

/-- **One call**: the invariant is kept and nothing is delivered. -/
theorem subscribed_after_call {function arg : Nat} {w : Watched Dn}
    (kept : Subscribed id function arg w) (call : Call Up St) {rc : Int}
    (returned : (call.exec protobuf paho).run w.state = .ok (rc, s')) :
    Subscribed id function arg (w.after rc s' call) ∧
      Undelivered w.state.log s'.log := by
  have intactAfter := exec_intact protobuf paho kept.intact call returned
  cases call with
  | connect host port key o =>
    obtain ⟨⟨handler, argument⟩, ⟨added, table, length, texts⟩, undelivered⟩ :=
      connect_keeps protobuf paho
        (connect_returned protobuf paho host port key o kept.intact returned)
    refine ⟨⟨intactAfter, handler.trans kept.handler, argument.trans kept.argument, ?_, ?_⟩,
      undelivered⟩
    · intro entry member
      have found : entry ∈ w.state.session.client.messageHandlers ++ added := by
        rw [← table]
        exact member
      rcases List.mem_append.mp found with before | new
      · exact kept.topics entry before
      · exact texts entry new
    · show s'.session.client.messageHandlers.length = w.accepted + if rc = SUCCESS then 1 else 0
      rw [table, List.length_append, kept.entries, length]
  | disconnect o =>
    obtain ⟨_, _, rfl⟩ := disconnect_returned protobuf paho kept.intact returned
    obtain ⟨handler, argument, table⟩ := departed_session (s := w.state) protobuf paho id o
    refine ⟨⟨intactAfter, handler.trans kept.handler, argument.trans kept.argument, ?_, ?_⟩, ?_⟩
    · intro entry member
      refine kept.topics entry ?_
      rw [← table]
      exact member
    · show (w.state.departed protobuf paho id o).session.client.messageHandlers.length = w.accepted
      rw [table, kept.entries]
    · refine ⟨_, departed_log protobuf paho id o, fun event member => ?_⟩
      simp only [List.mem_cons, List.not_mem_nil, or_false] at member
      rcases member with rfl | rfl | rfl
      · rfl
      · rfl
      · rfl
  | sendUplink uplink o => exact sent_keeps paho kept returned intactAfter
  | sendStatus status o => exact sent_keeps paho kept returned intactAfter

/-! ### Every run -/

theorem input_call_run {w : Watched Dn} {call : Call Up St} {rc : Int}
    (returned : (call.exec protobuf paho).run w.state = .ok (rc, s')) :
    (Input.exec protobuf paho id (.call call)).run w = .ok ((), w.after rc s' call) :=
  Exec.within_ok _ _ returned

theorem input_call_returned {w w' : Watched Dn} {call : Call Up St}
    (returned : (Input.exec protobuf paho id (.call call)).run w = .ok ((), w')) :
    ∃ rc s', (call.exec protobuf paho).run w.state = .ok (rc, s') ∧ w' = w.after rc s' call :=
  Exec.within_returned _ _ returned

/-- **One arrival**: the log grows by one delivery per connect that returned `0`. -/
theorem input_arrival_run {function arg : Nat} {w : Watched Dn} (reflexive : paho.MatchesItself)
    (kept : Subscribed id function arg w) (payload : Bytes) :
    (Input.exec protobuf paho id (.arrival payload : Input Up St)).run w =
      .ok ((), { w with state := { w.state with log := w.state.log ++
        (List.replicate w.accepted (delivery protobuf function arg payload)).flatten } }) := by
  have delivered := deliver_run protobuf paho payload reflexive kept.topics kept.handler
    kept.argument
  rw [kept.entries] at delivered
  exact Exec.within_ok _ _ delivered

/-- An arrival changes nothing but the log. -/
theorem Subscribed.logged {function arg : Nat} {w : Watched Dn}
    (kept : Subscribed id function arg w) (log : List (Event Dn)) :
    Subscribed id function arg { w with state := { w.state with log := log } } where
  intact := kept.intact.frame (fun field => by cases field <;> rfl) fun _ _ _ => rfl
  handler := kept.handler
  argument := kept.argument
  topics := kept.topics
  entries := kept.entries

/-- **The order of the deliveries.** In a run that delivers exactly once and in which messages
arrive only while the session is connected, the deliveries in the log are those of the arrivals, in
order of arrival. -/
theorem deliveries_in_order {function arg : Nat} {inputs : List (Input Up St)} {w last : Watched Dn}
    {replies : List Unit}
    (once : Throughout (Input.exec protobuf paho id) (DeliversOnce protobuf function arg) inputs w)
    (connected : Along (Input.exec protobuf paho id)
      (fun w input => ∀ payload, input = .arrival payload → w.online = true) inputs w)
    (ran : (runAll (Input.exec protobuf paho id) inputs).run w = .ok (replies, last)) :
    last.state.log.filter Event.isDelivery = w.state.log.filter Event.isDelivery ++
      inputs.flatMap fun input => match input with
        | .call _ => []
        | .arrival payload => delivery protobuf function arg payload := by
  induction inputs generalizing w replies with
  | nil =>
    cases ran
    exact (List.append_nil _).symm
  | cons input rest ih =>
    obtain ⟨_, w', returned, satisfied, onceLater⟩ := once
    obtain ⟨online, connectedLater⟩ := connected
    obtain ⟨_, w'', later, returned', ranLater, _⟩ := runAll_cons_ok _ ran
    rw [returned] at returned'
    cases returned'
    rw [ih onceLater (connectedLater _ _ returned) ranLater, List.flatMap_cons,
      ← List.append_assoc]
    congr 1
    cases input with
    | call call =>
      obtain ⟨events, log, undelivered⟩ := satisfied
      have none : events.filter Event.isDelivery = [] :=
        List.filter_eq_nil_iff.mpr fun event member => by
          rw [undelivered event member]
          exact Bool.false_ne_true
      rw [log, List.filter_append, none]
    | arrival payload =>
      have all : (delivery protobuf function arg payload : List (Event Dn)).filter
          Event.isDelivery = delivery protobuf function arg payload := by
        unfold delivery
        cases protobuf.unpackDownlink payload with
        | none => rfl
        | some downlink => rfl
      rw [satisfied (online payload rfl), List.filter_append, all]

theorem embeddedPaho_matches : embeddedPaho.MatchesItself := fun topic => beq_self_eq_true topic

/-- The allocations of an input are served. -/
def Input.Served : Input Up St → Prop
  | .call made => made.Served
  | .arrival _ => True

instance Input.decidableServed : (input : Input Up St) → Decidable input.Served
  | .call made => inferInstanceAs (Decidable made.Served)
  | .arrival _ => inferInstanceAs (Decidable True)

/-- Inputs whose allocations are served do not stop a run. -/
theorem inputs_return (reflexive : paho.MatchesItself) {function arg : Nat} {w : Watched Dn}
    (kept : Subscribed id function arg w) (inputs : List (Input Up St))
    (served : ∀ input ∈ inputs, input.Served) :
    ∃ replies last, (runAll (Input.exec protobuf paho id) inputs).run w = .ok (replies, last) ∧
      Subscribed id function arg last := by
  refine runAll_returns (I := Subscribed id function arg) (fun w input kept served => ?_) served kept
  cases input with
  | call call =>
    obtain ⟨rc, s', made, _⟩ := exec_served protobuf paho kept.intact call served
    exact ⟨_, _, input_call_run protobuf paho made,
      (subscribed_after_call protobuf paho kept call made).1⟩
  | arrival payload =>
    exact ⟨_, _, input_arrival_run protobuf paho reflexive kept payload, kept.logged _⟩

theorem created_subscribed (id : String) (function arg : Nat) :
    Subscribed id function arg (⟨State.created id (some function) arg, false, 0⟩ : Watched Dn) where
  intact := created_intact ..
  handler := rfl
  argument := rfl
  topics _ absent := nomatch absent
  entries := rfl

end GatewayConnector
