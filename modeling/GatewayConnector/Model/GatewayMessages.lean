/-
**The messages of a gateway.** A call of the connector that publishes has a message to pass on. What
it hands to `MQTTPublish` is a topic and a payload: the message on the wire.
-/

import GatewayConnector.Model.Connector

namespace GatewayConnector

/-- A message as it is meant, of the gateway with the id. -/
inductive GatewayMessage (Up St : Type)
  | connect (message : ConnectMessage)
  | disconnect (message : DisconnectMessage)
  | uplink (id : String) (message : Up)
  | status (id : String) (message : St)
  deriving DecidableEq, Repr

variable {Up St Dn : Type} (protobuf : Protobuf Up St Dn)

/-- No two messages of a type have the same encoding. -/
structure Protobuf.Injective (protobuf : Protobuf Up St Dn) : Prop where
  connectMessage : Function.Injective protobuf.connectMessage.pack
  disconnectMessage : Function.Injective protobuf.disconnectMessage.pack
  uplinkMessage : Function.Injective protobuf.uplinkMessage.pack
  status : Function.Injective protobuf.status.pack

/-- The topic and the payload of a message. -/
def GatewayMessage.wire : GatewayMessage Up St → String × Bytes
  | .connect message => (connectTopic, protobuf.connectMessage.pack message)
  | .disconnect message => (disconnectTopic, protobuf.disconnectMessage.pack message)
  | .uplink id message => (upTopic id, protobuf.uplinkMessage.pack message)
  | .status id message => (statusTopic id, protobuf.status.pack message)

/-- What a call of `MQTTPublish` was given, and what it returned. -/
def Event.publishCall : Event Dn → Option ((String × Bytes) × Int)
  | .publish topic message rc => some ((topic, message.payload), rc)
  | _ => none

/-- The calls of `MQTTPublish` in a log. -/
def publishCalls (log : List (Event Dn)) : List ((String × Bytes) × Int) :=
  log.filterMap Event.publishCall

/-- Messages on the wire, with what `MQTTPublish` returned for them. -/
def onWire (messages : List (GatewayMessage Up St × Int)) : List ((String × Bytes) × Int) :=
  messages.map fun (message, rc) => (message.wire protobuf, rc)

end GatewayConnector
