/-
**Gateway, broker and router, connected by links.**

A call of the gateway settles at once what it asks of the MQTT layer and with which results, but the
packets leave one by one: between any two of them the broker and the router take their own steps.
Every link is a queue. An operation that returned `SUCCESS` was answered by the broker, so the
gateway goes on only when its packet has been read; a packet of any other operation may be sent or
not, and nobody waits for it.

* `script` — the packets of a call, each on the connection that is used then. A `NetworkConnect`
  opens a new connection, so a connection carries one MQTT session.
* `Turn` — the steps of the three parties, in any order.
* The broker forwards a downlink to the gateway if the current session is subscribed to its topic
  when the downlink is read, and keeps nothing. The filter of a gateway is the name of that topic,
  which has no wildcards.

What the broker publishes on behalf of a lost session is in `Model/Broker.lean`.
-/

import GatewayConnector.Model.Broker

namespace GatewayConnector

open Lib

variable {Up St Dn : Type}

/-! ### The packets of a call -/

/-- What the gateway sends on a connection; `close` ends it. -/
inductive Packet
  | connect
  | publish (topic : String) (payload : Bytes)
  | subscribe (topicFilter : String)
  | disconnect
  | close
  deriving DecidableEq, Repr

/-- The packet of an operation on an open connection. -/
def Event.packet : Event Dn → Option Packet
  | .mqttConnect _ _ => some .connect
  | .publish topic message _ => some (.publish topic message.payload)
  | .subscribe topicFilter _ _ => some (.subscribe topicFilter)
  | .mqttDisconnect _ => some .disconnect
  | .networkDisconnect => some .close
  | .networkConnect _ _ _ | .downlinkHandler _ _ _ | .freeUnpacked _ => none

/-- The broker answered: an operation that waits for an answer returned `SUCCESS`. -/
def Event.answered : Event Dn → Bool
  | .mqttConnect _ rc | .publish _ _ rc | .subscribe _ _ rc => rc == SUCCESS
  | _ => false

/-- A packet to be sent on a connection. -/
structure Operation where
  connection : Nat
  packet : Packet
  answered : Bool
  deriving DecidableEq, Repr

/-- The operation of one event, if a connection is open. -/
def Event.sends (used : Option Nat) (event : Event Dn) : List Operation :=
  match used, event.packet with
  | some connection, some packet => [⟨connection, packet, event.answered⟩]
  | _, _ => []

/-- The operations of a list of events, given the connection in use and the number of the next. -/
def script : Option Nat → Nat → List (Event Dn) → List Operation
  | _, _, [] => []
  | used, next, event :: rest => event.sends used ++ match event with
    | .networkConnect _ _ rc =>
      if rc = SUCCESS then script (some next) (next + 1) rest else script used next rest
    | .networkDisconnect => script none next rest
    | _ => script used next rest

/-! ### The three parties -/

/-- A message the broker forwards to the router, with the connection it came from. -/
structure Notice where
  connection : Nat
  topic : String
  payload : Bytes
  deriving DecidableEq, Repr

/-- A message the router published on `<id>/down`, with the connections whose announcement it had
received by then. -/
structure Downlink where
  payload : Bytes
  heard : List Nat
  deriving DecidableEq, Repr

/-- The gateway's MQTT session at the broker: its connection and its subscriptions. -/
structure Subscriber where
  connection : Nat
  topicFilters : List String
  deriving DecidableEq, Repr

/-- What a packet does to the session that is there. A CONNECT takes over from it; the other packets
count on its connection. -/
def Packet.handle (connection : Nat) : Packet → Option Subscriber → Option Subscriber
  | .connect, _ => some ⟨connection, []⟩
  | .subscribe topicFilter, some subscriber =>
    if subscriber.connection = connection then
      some { subscriber with topicFilters := subscriber.topicFilters ++ [topicFilter] }
    else some subscriber
  | .disconnect, some subscriber | .close, some subscriber =>
    if subscriber.connection = connection then none else some subscriber
  | _, none => none
  | .publish _ _, some subscriber => some subscriber

/-- The parties and their links. The gateway has a state, the operations it has still to issue and
the connection on which it awaits an answer; `links` holds what the broker has still to read on each
connection. `heard` is what the router knows, `toGateway` what was forwarded to the gateway,
`accepted` the connections of the connects that return `0`. -/
structure World (Dn : Type) where
  gateway : State Dn
  pending : List Operation
  awaited : Option Nat
  links : Nat → List Packet
  subscriber : Option Subscriber
  toRouter : List Notice
  heard : List Nat
  fromRouter : List Downlink
  toGateway : List Bytes
  accepted : List Nat

namespace World

/-- Nothing has been sent. -/
def start (s : State Dn) : World Dn := ⟨s, [], none, fun _ => [], none, [], [], [], [], []⟩

/-- The gateway has the answer it waits for. -/
def Answered (w : World Dn) : Prop :=
  match w.awaited with
  | some connection => w.links connection = []
  | none => True

instance (w : World Dn) : Decidable w.Answered := by
  unfold Answered
  cases w.awaited <;> infer_instance

/-! ### The gateway's steps -/

/-- A call begins that returned `rc` and left `s'`. -/
def begin (w : World Dn) (rc : Int) (s' : State Dn) (made : Call Up St) : World Dn :=
  { w with
    gateway := s'
    pending := script w.gateway.session.network w.gateway.sockets.next (newEvents w.gateway s')
    accepted := match made with
      | .connect _ _ _ _ =>
        if rc = SUCCESS then w.accepted ++ s'.session.network.toList else w.accepted
      | _ => w.accepted }

/-- The next operation is issued; `sent` says whether the packet of one without an answer leaves. -/
def issue (w : World Dn) (sent : Bool) : World Dn :=
  match w.pending with
  | [] => w
  | operation :: rest =>
    if w.Answered then
      { w with
        pending := rest
        awaited := if operation.answered then some operation.connection else none
        links :=
          if operation.answered || sent then
            Function.update w.links operation.connection
              (w.links operation.connection ++ [operation.packet])
          else w.links }
    else w

/-! ### The broker's steps -/

/-- The session that is there is on this connection. -/
def On (w : World Dn) (connection : Nat) : Prop :=
  w.subscriber.map Subscriber.connection = some connection

instance (w : World Dn) (connection : Nat) : Decidable (w.On connection) :=
  inferInstanceAs (Decidable (_ = _))

/-- A packet is processed. A publish counts on the connection of the session. -/
def process (w : World Dn) (connection : Nat) (packet : Packet) : World Dn :=
  { w with
    subscriber := packet.handle connection w.subscriber
    toRouter := match packet with
      | .publish topic payload =>
        if w.On connection then w.toRouter ++ [⟨connection, topic, payload⟩] else w.toRouter
      | _ => w.toRouter }

/-- The broker reads the next packet of a connection. -/
def readGateway (w : World Dn) (connection : Nat) : World Dn :=
  match w.links connection with
  | [] => w
  | packet :: rest =>
    { w with links := Function.update w.links connection rest }.process connection packet

/-- The session that is there is subscribed to the topic. -/
def Subscribed (w : World Dn) (topic : String) : Prop :=
  match w.subscriber with
  | some subscriber => topic ∈ subscriber.topicFilters
  | none => False

instance (w : World Dn) (topic : String) : Decidable (w.Subscribed topic) := by
  unfold Subscribed
  cases w.subscriber <;> infer_instance

/-- The broker reads the next downlink. -/
def readRouter (w : World Dn) (id : String) : World Dn :=
  match w.fromRouter with
  | [] => w
  | downlink :: rest =>
    { w with
      fromRouter := rest
      toGateway :=
        if w.Subscribed (downTopic id) then w.toGateway ++ [downlink.payload] else w.toGateway }

/-- The session ends without a packet. -/
def lose (w : World Dn) : World Dn := { w with subscriber := none }

/-! ### The router's steps -/

/-- The router receives the next message. -/
def receive (w : World Dn) : World Dn :=
  match w.toRouter with
  | [] => w
  | notice :: rest =>
    { w with
      toRouter := rest
      heard := if notice.topic = connectTopic then w.heard ++ [notice.connection] else w.heard }

/-- The router publishes on `<id>/down`. -/
def publish (w : World Dn) (payload : Bytes) : World Dn :=
  { w with fromRouter := w.fromRouter ++ [⟨payload, w.heard⟩] }

end World

/-! ### Runs -/

/-- One step of one party; a step that is not possible does nothing. -/
inductive Turn (Up St : Type)
  | call (made : Call Up St)
  | issue (sent : Bool)
  | readGateway (connection : Nat)
  | readRouter
  | lose
  | receive
  | publish (payload : Bytes)
  deriving DecidableEq, Repr

/-- A call begins when the one before has issued its operations and has its answers. -/
def Turn.exec (protobuf : Protobuf Up St Dn) (paho : Paho) (id : String) :
    Turn Up St → Exec Fault (World Dn) Unit
  | .call made => fun w =>
    if w.pending = [] ∧ w.Answered then
      Exec.within World.gateway (fun w rc s' => w.begin rc s' made) (made.exec protobuf paho) w
    else .ok ((), w)
  | .issue sent => modify fun w => w.issue sent
  | .readGateway connection => modify fun w => w.readGateway connection
  | .readRouter => modify fun w => w.readRouter id
  | .lose => modify World.lose
  | .receive => modify World.receive
  | .publish payload => modify fun w => w.publish payload

end GatewayConnector
