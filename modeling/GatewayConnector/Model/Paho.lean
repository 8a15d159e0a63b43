/-
**The MQTT layer**, which the repository links but does not contain.

`Paho` holds what varies: the result a function reports, given the client's state and the answer of
the network and broker, and the comparison of a topic with a registered filter. Results relied on
elsewhere are stated there as hypotheses on these functions. What every function does to the client
is fixed here:

* a `NetworkConnect` that returns `SUCCESS` opens a new connection, held in place of the old one;
  `NetworkDisconnect` closes the one that is held;
* an `MQTTConnect` that returns `SUCCESS` sets the connected flag, `MQTTDisconnect` clears it;
* an `MQTTSubscribe` that returns `SUCCESS` adds an entry to the handler table; nothing here removes
  one.
-/

import GatewayConnector.Model.Memory

namespace GatewayConnector

open Lib

/-- The results the MQTT layer reports. `connectRc` and `publishRc` take the connected flag and the
answer of the network and broker, `subscribeRc` also the number of registered handlers. -/
structure Paho where
  connectRc : Bool → Int → Int
  publishRc : Bool → Int → Int
  subscribeRc : Bool → Nat → Int → Int
  topicMatched : String → String → Bool

section Client

variable {Dn : Type} (paho : Paho)

/-- Append to the log. -/
def State.emit (s : State Dn) (event : Event Dn) : State Dn := { s with log := s.log ++ [event] }

/-- A new connection, held by the session. -/
def State.openSocket (s : State Dn) : State Dn :=
  { s with
    sockets := s.sockets.alloc ()
    session := { s.session with network := some s.sockets.next } }

/-- Close the connection the session holds. -/
def State.closeSocket (s : State Dn) : State Dn :=
  match s.session.network with
  | some socket =>
    { s with
      sockets := s.sockets.free socket
      session := { s.session with network := none } }
  | none => s

def State.setConnected (s : State Dn) (flag : Bool) : State Dn :=
  { s with session := { s.session with client := { s.session.client with isconnected := flag } } }

def State.addHandler (s : State Dn) (entry : HandlerEntry) : State Dn :=
  { s with
    session := { s.session with
      client := { s.session.client with
        messageHandlers := s.session.client.messageHandlers ++ [entry] } } }

/-- `NetworkInit`. -/
def networkInit : Code Dn Unit :=
  modify fun s => { s with session := { s.session with network := none } }

/-- `MQTTClientInit`: the client is given both buffers. -/
def mqttClientInit (sendBuffer readBuffer : Ptr) : Code Dn Unit := do
  let _ ← deref sendBuffer
  let _ ← deref readBuffer
  modify fun s => { s with session := { s.session with client := ⟨false, []⟩ } }

/-- `NetworkConnect`; its result is the answer of the network. -/
def networkConnect (host : Option String) (port : Int) (answer : Int) : Code Dn Int := do
  modify fun s =>
    (if answer = SUCCESS then s.openSocket else s).emit (.networkConnect host port answer)
  pure answer

/-- `NetworkDisconnect`. -/
def networkDisconnect : Code Dn Unit :=
  modify fun s => s.closeSocket.emit .networkDisconnect

/-- Read an optional string, none for NULL. -/
def readOption : Option CString → Code Dn (Option String)
  | none => pure none
  | some string => do
    let value ← string.read
    pure (some value)

/-- Read the strings and the will of the connect data. -/
def readConnectData (data : ConnectData CString Ptr) : Code Dn (ConnectData String Bytes) := do
  let clientID ← data.clientID.read
  let username ← readOption data.username
  let password ← readOption data.password
  let topicName ← data.will.topicName.read
  let message ← loadBytes data.will.message data.will.len
  pure {
    clientID, keepAliveInterval := data.keepAliveInterval, username, password,
    will := { topicName, message, len := data.will.len, qos := data.will.qos,
              retained := data.will.retained } }

/-- `MQTTConnect`. -/
def mqttConnect (data : ConnectData CString Ptr) (answer : Int) : Code Dn Int := do
  let sent ← readConnectData data
  let s ← get
  let rc := paho.connectRc s.session.client.isconnected answer
  modify fun s =>
    (if rc = SUCCESS then s.setConnected true else s).emit (.mqttConnect sent rc)
  pure rc

/-- `MQTTPublish`. -/
def mqttPublish (topicName : CString) (message : MQTTMessage Ptr) (answer : Int) :
    Code Dn Int := do
  let topic ← topicName.read
  let payload ← loadBytes message.payload message.payloadlen
  let s ← get
  let rc := paho.publishRc s.session.client.isconnected answer
  modify fun s => s.emit (.publish topic { message with payload } rc)
  pure rc

/-- `MQTTSubscribe`: the table keeps the reference it is given. -/
def mqttSubscribe (topicFilter : Ptr) (qos : QoS) (fp : MessageHandler) (arg : Ptr)
    (answer : Int) : Code Dn Int := do
  let text ← loadStr topicFilter
  let s ← get
  let client := s.session.client
  let rc := paho.subscribeRc client.isconnected client.messageHandlers.length answer
  modify fun s =>
    (if rc = SUCCESS then s.addHandler { topicFilter, text, fp, arg } else s).emit
      (.subscribe text qos rc)
  pure rc

/-- `MQTTDisconnect`: the client is disconnected whatever became of the packet. -/
def mqttDisconnect (answer : Int) : Code Dn Int := do
  modify fun s => (s.setConnected false).emit (.mqttDisconnect answer)
  pure answer

end Client

end GatewayConnector
