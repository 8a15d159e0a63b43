/-
**The broker's side of a gateway's MQTT sessions.**

The broker follows the operations the gateway asks of the MQTT layer. A `Wire` says what the network
does to one of them: whether the connection drops before it, and whether what it sends arrives
although it did not return `SUCCESS`. An MQTT session is linked as long as its connection is the one
the gateway uses. When its connection ends without a DISCONNECT packet the registered will is
published; the router hears what is published on `disconnect`. A topic filter matches topics level by
level, if it is well formed.
-/

import GatewayConnector.Lib.TopicFilter
import GatewayConnector.Model.Calls

namespace GatewayConnector

open Lib

/-! ### Topic filters -/

theorem topicSymbols_distinct : ['/', '+', '#', '$'].Nodup := by decide

/-- The symbols of topic filters: levels are split at `/`, `+` stands for one and `#` for the rest,
and neither is meant for the topics that start with `$`. -/
def topicWildcards : Wildcards Char := ⟨'/', '+', '#', '$', topicSymbols_distinct⟩

/-- **The filter matches the topic.** -/
def TopicMatches (filter topic : String) : Prop :=
  topicWildcards.Matches filter.toList topic.toList

instance (filter topic : String) : Decidable (TopicMatches filter topic) :=
  inferInstanceAs (Decidable (topicWildcards.Matches _ _))

/-- No wildcard occurs in the id. -/
def PlainId (id : String) : Prop := '+' ∉ id.toList ∧ '#' ∉ id.toList

instance (id : String) : Decidable (PlainId id) := inferInstanceAs (Decidable (_ ∧ _))

/-- The filter `<id>/down` matches the topic of that name exactly if the id has no wildcard. -/
theorem downTopic_matches_self_iff (id : String) :
    TopicMatches (downTopic id) (downTopic id) ↔ PlainId id := by
  have whole : (downTopic id).toList = id.toList ++ '/' :: "down".toList := String.toList_append
  unfold TopicMatches
  rw [whole, Wildcards.matches_self_iff]
  exact (Wildcards.plain_append_iff (w := topicWildcards) _ _).trans
    (and_iff_left (by decide))

/-! ### The sessions of a gateway -/

/-- What the network does to one operation. For `MQTTDisconnect`, `reached` says whether the
DISCONNECT packet arrives, whatever was returned. -/
structure Wire where
  drop : Bool
  reached : Bool
  deriving DecidableEq, Repr

/-- An accepted MQTT session: the registered will, and what the router heard on `disconnect` in
it. -/
structure MqttSession where
  will : WillOptions String Bytes
  notices : List Bytes
  deriving DecidableEq, Repr

/-- A message is forwarded to the router. -/
def MqttSession.hear (m : MqttSession) (topic : String) (payload : Bytes) : MqttSession :=
  if topic = disconnectTopic then { m with notices := m.notices ++ [payload] } else m

/-- The gateway's current MQTT session, whether it is linked, and those that have ended. -/
structure Broker where
  session : Option MqttSession
  linked : Bool
  ended : List MqttSession
  deriving DecidableEq, Repr

namespace Broker

/-- Before the first MQTT session. -/
def idle : Broker := ⟨none, false, []⟩

/-- The current session ends: with its will, or without after a DISCONNECT packet. -/
def close (b : Broker) (willed : Bool) : Broker where
  session := none
  linked := false
  ended := match b.session with
    | none => b.ended
    | some m => b.ended ++ [if willed then m.hear m.will.topicName m.will.message else m]

/-- The connection drops before the operation, or does not. -/
def endure (b : Broker) (wire : Wire) : Broker := if wire.drop then b.close true else b

variable {Dn : Type}

/-- One operation of the gateway. An accepted `MQTTConnect` takes over from a session that is still
there; a `NetworkConnect` leaves it on a connection the gateway no longer uses. -/
def operate (b : Broker) (wire : Wire) : Event Dn → Broker
  | .networkConnect _ _ rc => if rc = SUCCESS then { b with linked := false } else b
  | .mqttConnect data rc =>
    if rc = SUCCESS then { b.close true with session := some ⟨data.will, []⟩, linked := true }
    else b
  | .publish topic message rc =>
    if b.linked = true ∧ (rc = SUCCESS ∨ wire.reached = true) then
      { b with session := b.session.map fun m => m.hear topic message.payload }
    else b
  | .mqttDisconnect _ => if b.linked = true ∧ wire.reached = true then b.close false else b
  | .networkDisconnect => if b.linked = true then b.close true else b
  | _ => b

/-- A list of operations, each with its wire. -/
def feed (b : Broker) (wires : Nat → Wire) : List (Event Dn) → Broker
  | [] => b
  | event :: rest =>
    ((b.endure (wires 0)).operate (wires 0) event).feed (fun index => wires (index + 1)) rest

theorem feed_cons (b : Broker) (wires : Nat → Wire) (event : Event Dn) (rest : List (Event Dn)) :
    b.feed wires (event :: rest) = ((b.endure (wires 0)).operate (wires 0) event).feed
      (fun index => wires (index + 1)) rest := rfl

end Broker

/-! ### Runs of gateway and broker -/

structure Parties (Dn : Type) where
  gateway : State Dn
  broker : Broker

/-- A call of the API with the wires of its operations, or a drop of the connection in between. -/
inductive Move (Up St : Type)
  | call (made : Call Up St) (wires : Nat → Wire)
  | drop

variable {Up St Dn : Type} (protobuf : Protobuf Up St Dn) (paho : Paho)

def Move.exec : Move Up St → Exec Fault (Parties Dn) Unit
  | .call made wires =>
    Exec.within Parties.gateway
      (fun p _ s' => ⟨s', p.broker.feed wires (newEvents p.gateway s')⟩) (made.exec protobuf paho)
  | .drop => modify fun p => { p with broker := p.broker.close true }

end GatewayConnector
