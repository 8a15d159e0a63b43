/-
**`connector.c`**, function by function, with `SEND_DISCONNECT_WILL` and `SEND_CONNECT` set as
`connector.h` sets them.

Every function takes, besides its arguments, the outcomes of the steps it makes: which of its
allocations are served and what the network and the broker answer. A step that is not reached does
not look at its outcome.
-/

import GatewayConnector.Model.Paho
import Mathlib.Data.List.Basic

namespace GatewayConnector

open Lib

/-! ### Outcomes of the steps -/

/-- The allocations of `ttngwc_init`, in order. -/
structure InitOutcome where
  session : Bool
  id : Bool
  readBuffer : Bool
  sendBuffer : Bool
  deriving DecidableEq, Repr

/-- The steps of `ttngwc_connect`: its four allocations, then its answers. -/
structure ConnectOutcome where
  keyCopy : Bool
  willPayload : Bool
  announcement : Bool
  downlinkTopic : Bool
  network : Int
  mqtt : Int
  publish : Int
  subscribe : Int
  deriving DecidableEq, Repr

/-- The steps of `ttngwc_disconnect`. -/
structure DisconnectOutcome where
  payload : Bool
  publish : Int
  mqtt : Int
  deriving DecidableEq, Repr

/-- The steps of `ttngwc_send_uplink` and of `ttngwc_send_status`. -/
structure SendOutcome where
  payload : Bool
  topic : Bool
  publish : Int
  deriving DecidableEq, Repr

/-! ### Topics -/

def downTopic (id : String) : String := id ++ "/down"

def upTopic (id : String) : String := id ++ "/up"

def statusTopic (id : String) : String := id ++ "/status"

def connectTopic : String := "connect"

def disconnectTopic : String := "disconnect"

/-- Strings that end in different characters differ. -/
theorem append_ne_append {first second suffix suffix' : String}
    (ends : suffix.toList.getLast? ≠ suffix'.toList.getLast?) (some : suffix.toList ≠ [])
    (some' : suffix'.toList ≠ []) : first ++ suffix ≠ second ++ suffix' := by
  intro same
  have lists := congrArg String.toList same
  rw [String.toList_append, String.toList_append] at lists
  have lasts := congrArg List.getLast? lists
  rw [List.getLast?_append_of_ne_nil _ some, List.getLast?_append_of_ne_nil _ some'] at lasts
  exact ends lasts

/-- A topic below an id is not one that ends differently. -/
theorem append_ne {suffix topic : String} (ends : suffix.toList.getLast? ≠ topic.toList.getLast?)
    (some : suffix.toList ≠ []) (some' : topic.toList ≠ []) (id : String) : id ++ suffix ≠ topic := by
  have differ : id ++ suffix ≠ "" ++ topic := append_ne_append ends some some'
  rw [String.empty_append] at differ
  exact differ

theorem upTopic_ne_statusTopic (id id' : String) : upTopic id ≠ statusTopic id' :=
  append_ne_append (by decide) (by decide) (by decide)

/-- The topic of an uplink is not shared with other gateways. -/
theorem upTopic_not_shared (id : String) :
    upTopic id ≠ connectTopic ∧ upTopic id ≠ disconnectTopic :=
  ⟨append_ne (by decide) (by decide) (by decide) id,
    append_ne (by decide) (by decide) (by decide) id⟩

/-- Nor is that of a status. -/
theorem statusTopic_not_shared (id : String) :
    statusTopic id ≠ connectTopic ∧ statusTopic id ≠ disconnectTopic :=
  ⟨append_ne (by decide) (by decide) (by decide) id,
    append_ne (by decide) (by decide) (by decide) id⟩

theorem connectTopic_ne_disconnectTopic : connectTopic ≠ disconnectTopic := by decide

section Functions

variable {Up St Dn : Type} (protobuf : Protobuf Up St Dn) (paho : Paho)

/-- Write fields of the session. -/
def modifySession (change : Session → Session) : Code Dn Unit :=
  modify fun s => { s with session := change s.session }

/-! ### `ttngwc_init` and `ttngwc_cleanup` -/

/-- The pointer returned is what `ttngwc_init` leaves in `*s`. -/
def ttngwcInit (id : String) (downlinkHandler : Option Nat) (cbArg : Nat) (o : InitOutcome) :
    Code Dn Ptr := do
  let handle ← allocate .session .null o.session
  -- memset(session, 0, sizeof(struct Session)) writes through the pointer
  let _ ← deref handle
  modifySession fun _ => .zero
  let idCopy ← strdup id o.id
  modifySession fun session =>
    { session with id := idCopy, key := .null, downlinkHandler, cbArg }
  let readBuffer ← malloc READ_BUFFER_SIZE o.readBuffer
  modifySession fun session => { session with readBuffer }
  let sendBuffer ← malloc SEND_BUFFER_SIZE o.sendBuffer
  modifySession fun session => { session with sendBuffer }
  networkInit
  mqttClientInit sendBuffer readBuffer
  modify fun s => { s with handle }
  pure handle

/-- `MQTTClientDestroy` releases nothing of the connector's. -/
def ttngwcCleanup : Code Dn Unit := do
  let s ← get
  freeNotNull s.session.key
  free s.session.id
  free s.session.readBuffer
  free s.session.sendBuffer
  free s.handle

/-! ### `ttngwc_downlink_cb` -/

def ttngwcDownlinkCb (payload : Bytes) : Code Dn Unit := do
  match protobuf.unpackDownlink payload with
  | none => pure ()
  | some downlink =>
    let s ← get
    match s.session.downlinkHandler with
    | some function => modify fun s => s.emit (.downlinkHandler function downlink s.session.cbArg)
    | none => pure ()
    modify fun s => s.emit (.freeUnpacked downlink)

/-- A message reaches the client: every entry whose topic matches is called, in table order. -/
def deliverTo (topic : String) (payload : Bytes) : List HandlerEntry → Code Dn Unit
  | [] => pure ()
  | entry :: rest => do
    if paho.topicMatched entry.text topic then
      match entry.fp with
      | .ttngwcDownlinkCb => ttngwcDownlinkCb protobuf payload
    else pure ()
    deliverTo topic payload rest

def deliver (topic : String) (payload : Bytes) : Code Dn Unit := do
  let s ← get
  deliverTo protobuf paho topic payload s.session.client.messageHandlers

/-! ### The disconnect message -/

/-- The message of the will and of `ttngwc_disconnect`: `session->id`, and `session->key` when it
is not NULL. -/
def disconnectMessage : Code Dn DisconnectMessage := do
  let s ← get
  let id ← loadStr s.session.id
  let key ← if s.session.key ≠ .null then readOption (some (.pointer s.session.key)) else pure none
  pure { id, key }

/-- Allocate a payload and pack a message into it. -/
def packPayload {M : Type} (codec : Codec M) (message : M) (served : Bool) : Code Dn Ptr := do
  let payload ← malloc (codec.getPackedSize message) served
  packInto (codec.pack message) payload
  pure payload

/-- `if (session->key != NULL) { free(session->key); session->key = NULL; }` -/
def releaseKey : Code Dn Unit := do
  let s ← get
  freeNotNull s.session.key
  modifySession fun session => { session with key := .null }

/-- The same for `session->downlink_topic`. -/
def releaseDownlinkTopic : Code Dn Unit := do
  let s ← get
  freeNotNull s.session.downlinkTopic
  modifySession fun session => { session with downlinkTopic := .null }

/-! ### `ttngwc_connect` -/

/-- `if (key) session->key = strdup(key);` -/
def copyKey (key : Option String) (served : Bool) : Code Dn Unit :=
  match key with
  | some text => do
    let copy ← strdup text served
    modifySession fun session => { session with key := copy }
  | none => pure ()

/-- `MQTTConnect` with the credentials and the registered will; the payload of the will is released
afterwards. -/
def connectWithWill (key : Option String) (o : ConnectOutcome) : Code Dn Int := do
  let s ← get
  let will ← disconnectMessage
  let payload ← packPayload protobuf.disconnectMessage will o.willPayload
  let err ← mqttConnect paho {
    clientID := .pointer s.session.id
    keepAliveInterval := KEEP_ALIVE_INTERVAL
    username := key.map fun _ => .pointer s.session.id
    password := key.map .text
    will := {
      topicName := .text disconnectTopic
      message := payload
      len := protobuf.disconnectMessage.getPackedSize will
      qos := QOS_WILL
      retained := false } } o.mqtt
  free payload
  pure err

/-- The announcement on `connect`; the result of its `MQTTPublish` is dropped. -/
def announce (key : Option String) (o : ConnectOutcome) : Code Dn Unit := do
  let s ← get
  let id ← loadStr s.session.id
  let conn : ConnectMessage := { id, key }
  let payload ← packPayload protobuf.connectMessage conn o.announcement
  let _ ← mqttPublish paho (.text connectTopic) {
    qos := QOS_CONNECT
    retained := false
    dup := false
    payload
    payloadlen := protobuf.connectMessage.getPackedSize conn } o.publish
  free payload

/-- Format `session->downlink_topic` and subscribe to it. The result of `asprintf` is dropped. -/
def subscribeDownlink (o : ConnectOutcome) : Code Dn Int := do
  let s ← get
  let id ← loadStr s.session.id
  let (_, topic) ← asprintf (downTopic id) o.downlinkTopic
  modifySession fun session => { session with downlinkTopic := topic }
  mqttSubscribe paho topic QOS_DOWN .ttngwcDownlinkCb s.handle o.subscribe

/-- The body of `ttngwc_connect` up to `exit:`; returning early is `goto exit`. -/
def connectSteps (host : Option String) (port : Int) (key : Option String) (o : ConnectOutcome) :
    Code Dn Int := do
  let err ← networkConnect host port o.network
  if err ≠ SUCCESS then
    pure err
  else do
    let err ← connectWithWill protobuf paho key o
    if err ≠ SUCCESS then
      pure err
    else do
      announce protobuf paho key o
      subscribeDownlink paho o

/-- The block at `exit:`. -/
def connectExit (err : Int) : Code Dn Unit :=
  if err ≠ SUCCESS then do
    releaseDownlinkTopic
    releaseKey
  else pure ()

def ttngwcConnect (host : Option String) (port : Int) (key : Option String)
    (o : ConnectOutcome) : Code Dn Int := do
  copyKey key o.keyCopy
  let err ← connectSteps protobuf paho host port key o
  connectExit err
  pure err

/-! ### `ttngwc_disconnect` -/

def ttngwcDisconnect (o : DisconnectOutcome) : Code Dn Int := do
  let will ← disconnectMessage
  let payload ← packPayload protobuf.disconnectMessage will o.payload
  let _ ← mqttPublish paho (.text disconnectTopic) {
    qos := QOS_WILL
    retained := false
    dup := false
    payload
    payloadlen := protobuf.disconnectMessage.getPackedSize will } o.publish
  free payload
  let _ ← mqttDisconnect o.mqtt
  networkDisconnect
  releaseKey
  releaseDownlinkTopic
  pure 0

/-! ### `ttngwc_send_uplink` and `ttngwc_send_status` -/

/-- The body of a send up to `exit:`, with `rc`, `topic` and `payload` as they are there. -/
def sendSteps {M : Type} (codec : Codec M) (topicOf : String → String) (qos : QoS) (message : M)
    (o : SendOutcome) : Code Dn (Int × Ptr × Ptr) := do
  let payload ← malloc (codec.getPackedSize message) o.payload
  if payload = .null then
    pure (FAILURE, .null, payload)
  else do
    packInto (codec.pack message) payload
    let s ← get
    let id ← loadStr s.session.id
    let (printed, topic) ← asprintf (topicOf id) o.topic
    if printed = -1 then
      pure (FAILURE, topic, payload)
    else do
      let rc ← mqttPublish paho (.pointer topic) {
        qos
        retained := false
        dup := false
        payload
        payloadlen := codec.getPackedSize message } o.publish
      pure (rc, topic, payload)

/-- The code the two sends share, over the message type, the topic and the quality of service. -/
def sendMessage {M : Type} (codec : Codec M) (topicOf : String → String) (qos : QoS) (message : M)
    (o : SendOutcome) : Code Dn Int := do
  let (rc, topic, payload) ← sendSteps paho codec topicOf qos message o
  freeNotNull topic
  freeNotNull payload
  pure rc

def ttngwcSendUplink (uplink : Up) (o : SendOutcome) : Code Dn Int :=
  sendMessage paho protobuf.uplinkMessage upTopic QOS_UP uplink o

def ttngwcSendStatus (status : St) (o : SendOutcome) : Code Dn Int :=
  sendMessage paho protobuf.status statusTopic QOS_STATUS status o

end Functions

end GatewayConnector
