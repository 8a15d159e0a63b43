/-
**The data of the connector**: the pointers and blocks it allocates, the `Session` of `session.h`,
the messages it packs, and the log of everything it asks of the MQTT layer.

A pointer is NULL, indeterminate (the target of an `asprintf` that failed) or the number of a
block. A block holds the `struct Session` itself, raw bytes that `malloc` returned, a string, or the
bytes a pack function wrote. Return codes are those of the MQTT layer: `SUCCESS` is `0`, `FAILURE`
is `-1`, and a step may report any other integer.
-/

import GatewayConnector.Lib.Exec
import GatewayConnector.Lib.Heap

namespace GatewayConnector

open Lib

/-! ### Constants -/

def SUCCESS : Int := 0

def FAILURE : Int := -1

/-- `enum QoS` of the MQTT layer. -/
inductive QoS
  | QOS0
  | QOS1
  | QOS2
  deriving DecidableEq, Repr

def KEEP_ALIVE_INTERVAL : Nat := 20

def READ_BUFFER_SIZE : Nat := 512

def SEND_BUFFER_SIZE : Nat := 512

def QOS_STATUS : QoS := .QOS1

def QOS_DOWN : QoS := .QOS1

def QOS_UP : QoS := .QOS1

def QOS_CONNECT : QoS := .QOS1

def QOS_WILL : QoS := .QOS1

/-! ### Memory -/

abbrev Bytes := List UInt8

/-- A pointer value: NULL, never assigned a value, or the address of a block. -/
inductive Ptr
  | null
  | indeterminate
  | block (number : Nat)
  deriving DecidableEq, Repr

/-- What a block holds. -/
inductive Block
  | session
  | raw (size : Nat)
  | str (text : String)
  | bytes (data : Bytes)
  deriving DecidableEq, Repr

/-- What the connector must never do. -/
inductive Fault
  | nullPointer
  | indeterminatePointer
  | releasedBlock
  | overrun
  deriving DecidableEq, Repr

/-- A `char *` the connector passes on: a string that is not its own (a literal or an argument of
its caller), or one of its blocks. -/
inductive CString
  | text (value : String)
  | pointer (address : Ptr)
  deriving DecidableEq, Repr

/-! ### Messages -/

/-- `Types__ConnectMessage`. -/
structure ConnectMessage where
  id : String
  key : Option String
  deriving DecidableEq, Repr

/-- `Types__DisconnectMessage`. -/
structure DisconnectMessage where
  id : String
  key : Option String
  deriving DecidableEq, Repr

/-- The generated pack functions of one message type: the size is that of the encoding. -/
structure Codec (M : Type) where
  getPackedSize : M → Nat
  pack : M → Bytes
  agree : ∀ message, getPackedSize message = (pack message).length

/-- The protobuf encodings the connector uses, over any uplink, status and downlink messages. -/
structure Protobuf (Up St Dn : Type) where
  connectMessage : Codec ConnectMessage
  disconnectMessage : Codec DisconnectMessage
  uplinkMessage : Codec Up
  status : Codec St
  unpackDownlink : Bytes → Option Dn

/-- `MQTTMessage`, with the payload by address (`P := Ptr`) or by value (`P := Bytes`). -/
structure MQTTMessage (P : Type) where
  qos : QoS
  retained : Bool
  dup : Bool
  payload : P
  payloadlen : Nat
  deriving DecidableEq, Repr

/-- The will part of `MQTTPacket_connectData`. -/
structure WillOptions (S P : Type) where
  topicName : S
  message : P
  len : Nat
  qos : QoS
  retained : Bool
  deriving DecidableEq, Repr

/-- The fields of `MQTTPacket_connectData` that the connector sets; strings by reference
(`S := CString`, `P := Ptr`) or by value (`S := String`, `P := Bytes`). -/
structure ConnectData (S P : Type) where
  clientID : S
  keepAliveInterval : Nat
  username : Option S
  password : Option S
  will : WillOptions S P
  deriving DecidableEq, Repr

/-! ### What the connector does outside -/

/-- One operation of the MQTT layer with the result it reported, or one step of a delivery. -/
inductive Event (Dn : Type)
  | networkConnect (host : Option String) (port : Int) (rc : Int)
  | mqttConnect (data : ConnectData String Bytes) (rc : Int)
  | publish (topic : String) (message : MQTTMessage Bytes) (rc : Int)
  | subscribe (topicFilter : String) (qos : QoS) (rc : Int)
  | mqttDisconnect (rc : Int)
  | networkDisconnect
  | downlinkHandler (function : Nat) (downlink : Dn) (arg : Nat)
  | freeUnpacked (downlink : Dn)
  deriving DecidableEq, Repr

/-! ### The session -/

/-- The callbacks the connector hands to `MQTTSubscribe`. -/
inductive MessageHandler
  | ttngwcDownlinkCb
  deriving DecidableEq, Repr

/-- One entry of the client's handler table: the topic by reference, the text it had when it was
registered, the callback and its argument. -/
structure HandlerEntry where
  topicFilter : Ptr
  text : String
  fp : MessageHandler
  arg : Ptr
  deriving DecidableEq, Repr

structure MQTTClient where
  isconnected : Bool
  messageHandlers : List HandlerEntry
  deriving DecidableEq, Repr

/-- `struct Session`. The network is the connection it holds, if any; the downlink handler is a
function pointer, NULL or not, and its argument an opaque pointer. -/
structure Session where
  network : Option Nat
  client : MQTTClient
  downlinkHandler : Option Nat
  cbArg : Nat
  readBuffer : Ptr
  sendBuffer : Ptr
  id : Ptr
  key : Ptr
  downlinkTopic : Ptr
  deriving DecidableEq, Repr

/-- The session after `memset(session, 0, sizeof(struct Session))`. -/
def Session.zero : Session where
  network := none
  client := ⟨false, []⟩
  downlinkHandler := none
  cbArg := 0
  readBuffer := .null
  sendBuffer := .null
  id := .null
  key := .null
  downlinkTopic := .null

/-- Everything a call of the API can read or change: the heap, the number of allocations that were
refused, the open connections, the session with the handle to it, and the log. -/
structure State (Dn : Type) where
  heap : Heap Block
  refused : Nat
  sockets : Heap Unit
  handle : Ptr
  session : Session
  log : List (Event Dn)

/-- Before `ttngwc_init`. -/
def State.boot {Dn : Type} : State Dn where
  heap := .empty
  refused := 0
  sockets := .empty
  handle := .null
  session := .zero
  log := []

/-- The connector's code: programs over the state that may stop with a fault. -/
abbrev Code (Dn α : Type) := Exec Fault (State Dn) α

end GatewayConnector
