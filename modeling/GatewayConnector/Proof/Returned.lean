/-
**What a call that returned did**, whichever of its allocations were served.

`connect_returned`, `disconnect_returned` and `send_returned` invert a call: they list every way it
can have returned, with the outcomes that led there and the state it left; `connect_returns_iff`
says when a connect returns at all. `exec_intact` and `run_intact` draw the memory invariant from
them.
-/

import GatewayConnector.Proof.Footprint

namespace GatewayConnector

open Lib

variable {Up St Dn : Type} (protobuf : Protobuf Up St Dn) (paho : Paho) {id : String}
  {s s' : State Dn} {rc : Int}

section Connect

variable (host : Option String) (port : Int) (key : Option String) (o : ConnectOutcome)

/-- How a call of `ttngwc_connect` ended: at `NetworkConnect`, at `MQTTConnect`, or with the result
of `MQTTSubscribe`. -/
inductive ConnectEnd (s : State Dn) (id : String) (host : Option String) (port : Int)
    (key : Option String) (o : ConnectOutcome) : Int → State Dn → Prop
  | network (refused : o.network ≠ SUCCESS) :
    ConnectEnd s id host port key o o.network (s.reached host port key o).released
  | mqtt (network : o.network = SUCCESS) (will : o.willPayload = true)
    (refused : mqttRc paho s o ≠ SUCCESS) :
    ConnectEnd s id host port key o (mqttRc paho s o)
      (s.afterMqtt protobuf paho id host port key o).released
  | subscribe (network : o.network = SUCCESS) (will : o.willPayload = true)
    (mqtt : mqttRc paho s o = SUCCESS) (announcement : o.announcement = true)
    (topic : o.downlinkTopic = true) :
    ConnectEnd s id host port key o (subscribeRc paho s o)
      (if subscribeRc paho s o = SUCCESS then s.afterSubscribe protobuf paho id host port key o
      else (s.afterSubscribe protobuf paho id host port key o).released)

/-- **Inversion of `ttngwc_connect`.** -/
theorem connect_returned (intact : Intact id s)
    (returned : (ttngwcConnect protobuf paho host port key o).run s = .ok (rc, s')) :
    ConnectEnd protobuf paho s id host port key o rc s' := by
  by_cases network : o.network = SUCCESS
  · cases will : o.willPayload with
    | false =>
      rw [connect_will_unserved protobuf paho intact network will] at returned
      cases returned
    | true =>
      by_cases mqtt : mqttRc paho s o = SUCCESS
      · cases announcement : o.announcement with
        | false =>
          rw [connect_announcement_unserved protobuf paho intact network will mqtt
            announcement] at returned
          cases returned
        | true =>
          cases topic : o.downlinkTopic with
          | false =>
            rw [connect_topic_unserved protobuf paho intact network will mqtt announcement
              topic] at returned
            cases returned
          | true =>
            rw [connect_subscribed protobuf paho intact network will mqtt announcement
              topic] at returned
            cases returned
            exact .subscribe network will mqtt announcement topic
      · rw [connect_mqtt_refused protobuf paho host port key o intact network will mqtt] at returned
        cases returned
        exact .mqtt network will mqtt
  · rw [connect_network_refused protobuf paho host port key o intact network] at returned
    cases returned
    exact .network network

/-- The allocations without which a connect faults: the payload of the will if it gets past
`NetworkConnect`, those of the announcement and the topic if it gets past `MQTTConnect`. -/
def ConnectReturns (s : State Dn) (o : ConnectOutcome) : Prop :=
  o.network = SUCCESS → o.willPayload = true ∧
    (mqttRc paho s o = SUCCESS → o.announcement = true ∧ o.downlinkTopic = true)

/-- **A connect returns exactly when these are served.** -/
theorem connect_returns_iff (intact : Intact id s) :
    (∃ rc s', (ttngwcConnect protobuf paho host port key o).run s = .ok (rc, s')) ↔
      ConnectReturns paho s o := by
  constructor
  · rintro ⟨rc, s', returned⟩ network
    cases connect_returned protobuf paho host port key o intact returned with
    | network refused => exact absurd network refused
    | mqtt _ will refused => exact ⟨will, fun mqtt => absurd mqtt refused⟩
    | subscribe _ will _ announcement topic => exact ⟨will, fun _ => ⟨announcement, topic⟩⟩
  · intro enough
    by_cases network : o.network = SUCCESS
    · obtain ⟨will, later⟩ := enough network
      by_cases mqtt : mqttRc paho s o = SUCCESS
      · obtain ⟨announcement, topic⟩ := later mqtt
        exact ⟨_, _, connect_subscribed protobuf paho intact network will mqtt announcement topic⟩
      · exact ⟨_, _, connect_mqtt_refused protobuf paho host port key o intact network will mqtt⟩
    · exact ⟨_, _, connect_network_refused protobuf paho host port key o intact network⟩

theorem ConnectEnd.intact (intact : Intact id s)
    (ended : ConnectEnd protobuf paho s id host port key o rc s') : Intact id s' := by
  cases ended with
  | network => exact (intact.reached host port key o).released
  | mqtt => exact (intact.afterMqtt protobuf paho host port key o).released
  | subscribe =>
    split
    · exact intact.afterSubscribe protobuf paho host port key o
    · exact (intact.afterSubscribe protobuf paho host port key o).released

/-- **A connect asks for its operations in order**, up to the one at which it ended. -/
theorem ConnectEnd.log (ended : ConnectEnd protobuf paho s id host port key o rc s') :
    ∃ events, s'.log = s.log ++ events ∧
      events <+: s.operations protobuf paho id host port key o := by
  cases ended with
  | network => exact ⟨_, reached_log host port key o, _, rfl⟩
  | mqtt => exact ⟨_, afterMqtt_log protobuf paho id host port key o, _, rfl⟩
  | subscribe =>
    refine ⟨_, ?_, List.prefix_refl _⟩
    split
    · exact afterSubscribe_log protobuf paho id host port key o
    · exact afterSubscribe_log protobuf paho id host port key o

/-- The connection a connect opens. -/
theorem connect_sockets (ended : ConnectEnd protobuf paho s id host port key o rc s') :
    s'.sockets = (if o.network = SUCCESS then s.sockets.alloc () else s.sockets) ∧
      s'.session.network = if o.network = SUCCESS then some s.sockets.next else s.session.network := by
  cases ended with
  | network refused =>
    exact ⟨reached_sockets host port key o, reached_network host port key o⟩
  | mqtt network will refused =>
    refine ⟨(afterMqtt_sockets protobuf paho id host port key o).trans
      (reached_sockets host port key o), ?_⟩
    rw [if_pos network]
    exact afterMqtt_network protobuf paho id host port key o network
  | subscribe network will mqtt announcement topic =>
    have sockets := (afterSubscribe_sockets protobuf paho id host port key o).trans
      (reached_sockets (s := s) host port key o)
    have held := afterSubscribe_network (s := s) protobuf paho id host port key o network
    rw [if_pos network] at sockets ⊢
    split
    · exact ⟨sockets, held⟩
    · exact ⟨sockets, held⟩

end Connect

/-- **Inversion of `ttngwc_disconnect`.** -/
theorem disconnect_returned (intact : Intact id s) {o : DisconnectOutcome}
    (returned : (ttngwcDisconnect protobuf paho o).run s = .ok (rc, s')) :
    o.payload = true ∧ rc = 0 ∧
      s' = ((s.departed protobuf paho id o).drop .key).drop .downlinkTopic := by
  cases payload : o.payload with
  | false =>
    rw [disconnect_unserved protobuf paho o intact payload] at returned
    cases returned
  | true =>
    rw [disconnect_served protobuf paho o intact payload] at returned
    cases returned
    exact ⟨rfl, rfl, rfl⟩

theorem disconnect_events (intact : Intact id s) {o : DisconnectOutcome}
    (returned : (ttngwcDisconnect protobuf paho o).run s = .ok (rc, s')) :
    newEvents s s' = [.publish disconnectTopic (farewell protobuf id s.keyText)
        (paho.publishRc s.session.client.isconnected o.publish),
      .mqttDisconnect o.mqtt, .networkDisconnect] := by
  obtain ⟨_, _, rfl⟩ := disconnect_returned protobuf paho intact returned
  exact newEvents_append (departed_log protobuf paho id o)

/-- **Inversion of a send**: there was no memory for the payload, or the message was published. -/
theorem send_returned {M : Type} {codec : Codec M} {topicOf : String → String} {qos : QoS}
    {message : M} {o : SendOutcome} (intact : Intact id s)
    (returned : (sendMessage paho codec topicOf qos message o).run s = .ok (rc, s')) :
    (o.payload = false ∧ rc = FAILURE ∧ s' = s.refuse) ∨
      (o.payload = true ∧ o.topic = true ∧
        rc = paho.publishRc s.session.client.isconnected o.publish ∧
        s' = s.sent (topicOf id) (published codec qos message)
          (paho.publishRc s.session.client.isconnected o.publish)) := by
  cases payload : o.payload with
  | false =>
    rw [send_payload_unserved paho codec topicOf qos message o payload] at returned
    cases returned
    exact Or.inl ⟨rfl, rfl, rfl⟩
  | true =>
    cases topic : o.topic with
    | false =>
      rw [send_topic_unserved paho codec topicOf qos message o intact payload topic] at returned
      cases returned
    | true =>
      rw [send_served paho codec topicOf qos message o intact payload topic] at returned
      cases returned
      exact Or.inr ⟨rfl, rfl, rfl, rfl⟩

/-- With memory for the payload, a send that returned was published. -/
theorem send_returned_served {M : Type} {codec : Codec M} {topicOf : String → String} {qos : QoS}
    {message : M} {o : SendOutcome} (intact : Intact id s) (payload : o.payload = true)
    (returned : (sendMessage paho codec topicOf qos message o).run s = .ok (rc, s')) :
    s' = s.sent (topicOf id) (published codec qos message)
      (paho.publishRc s.session.client.isconnected o.publish) := by
  rcases send_returned paho intact returned with ⟨unserved, _⟩ | ⟨_, _, _, after⟩
  · rw [payload] at unserved
    cases unserved
  · exact after

/-- A send publishes once, or not at all. -/
theorem send_events {M : Type} {codec : Codec M} {topicOf : String → String} {qos : QoS}
    {message : M} {o : SendOutcome} (intact : Intact id s)
    (returned : (sendMessage paho codec topicOf qos message o).run s = .ok (rc, s')) :
    newEvents s s' = [] ∨
      newEvents s s' = [.publish (topicOf id) (published codec qos message)
        (paho.publishRc s.session.client.isconnected o.publish)] := by
  rcases send_returned paho intact returned with ⟨_, _, rfl⟩ | ⟨_, _, _, rfl⟩
  · exact Or.inl (newEvents_append (List.append_nil _).symm)
  · exact Or.inr (newEvents_append rfl)

theorem send_intact {M : Type} {codec : Codec M} {topicOf : String → String} {qos : QoS}
    {message : M} {o : SendOutcome} (intact : Intact id s)
    (returned : (sendMessage paho codec topicOf qos message o).run s = .ok (rc, s')) :
    Intact id s' := by
  rcases send_returned paho intact returned with ⟨_, _, rfl⟩ | ⟨_, _, _, rfl⟩
  · exact intact.refuse
  · exact intact.sent _ _ _

/-- **A call that returns leaves an intact session intact.** -/
theorem exec_intact (intact : Intact id s) (call : Call Up St)
    (returned : (call.exec protobuf paho).run s = .ok (rc, s')) : Intact id s' := by
  cases call with
  | connect host port key o =>
    exact (connect_returned protobuf paho host port key o intact returned).intact
      protobuf paho host port key o intact
  | disconnect o =>
    obtain ⟨_, _, rfl⟩ := disconnect_returned protobuf paho intact returned
    exact ((intact.departed protobuf paho o).drop .key trivial).drop .downlinkTopic trivial
  | sendUplink uplink o => exact send_intact paho intact returned
  | sendStatus status o => exact send_intact paho intact returned

/-- A run that returns leaves an intact session intact. -/
theorem run_intact (intact : Intact id s) {calls : List (Call Up St)} {rcs : List Int}
    (ran : (runCalls protobuf paho calls).run s = .ok (rcs, s')) : Intact id s' :=
  runAll_invariant (fun _ call _ _ kept returned => exec_intact protobuf paho kept call returned)
    intact ran

end GatewayConnector
