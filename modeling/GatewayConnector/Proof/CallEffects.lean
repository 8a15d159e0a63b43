/-
**What one call of the API does** to an intact session: its return code and the state it leaves, for
every outcome of its steps.

* `connect_network_refused`, `connect_mqtt_refused`, `connect_subscribed` — the three ways
  `ttngwc_connect` returns; `connect_will_unserved`, `connect_announcement_unserved`,
  `connect_topic_unserved` — the three ways it faults.
* `disconnect_served`, `disconnect_unserved`.
* `send_served`, `send_payload_unserved`, `send_topic_unserved` — both sends.
* `deliver_effect` — a message that reaches the client.

Everything later is derived from these; nothing unfolds the code again.
-/

import GatewayConnector.Proof.MemoryEffects
import GatewayConnector.Model.Calls

namespace GatewayConnector

open Lib

variable {Up St Dn : Type} (protobuf : Protobuf Up St Dn) (paho : Paho) {id : String}
  {s : State Dn}

/-! ### What the MQTT layer leaves -/

def State.networkConnected (s : State Dn) (host : Option String) (port answer : Int) : State Dn :=
  (if answer = SUCCESS then s.openSocket else s).emit (.networkConnect host port answer)

def State.mqttConnected (s : State Dn) (data : ConnectData String Bytes) (rc : Int) : State Dn :=
  (if rc = SUCCESS then s.setConnected true else s).emit (.mqttConnect data rc)

def State.subscribed (s : State Dn) (entry : HandlerEntry) (rc : Int) : State Dn :=
  (if rc = SUCCESS then s.addHandler entry else s).emit (.subscribe entry.text QOS_DOWN rc)

section CloseSocket

variable (s : State Dn)

@[simp] theorem closeSocket_network : s.closeSocket.session.network = none := by
  unfold State.closeSocket
  split
  · rfl
  · assumption

@[simp] theorem closeSocket_client : s.closeSocket.session.client = s.session.client := by
  unfold State.closeSocket
  split <;> rfl

@[simp] theorem closeSocket_callback :
    s.closeSocket.session.downlinkHandler = s.session.downlinkHandler ∧
      s.closeSocket.session.cbArg = s.session.cbArg := by
  unfold State.closeSocket
  split <;> exact ⟨rfl, rfl⟩

@[simp] theorem closeSocket_next : s.closeSocket.sockets.next = s.sockets.next := by
  unfold State.closeSocket
  split <;> rfl

@[simp] theorem closeSocket_log : s.closeSocket.log = s.log := by
  unfold State.closeSocket
  split <;> rfl

end CloseSocket

/-- The block at `exit:` after a failure. -/
def State.released (s : State Dn) : State Dn := (s.drop .downlinkTopic).drop .key

namespace Intact

theorem networkConnected (intact : Intact id s) (host : Option String) (port answer : Int) :
    Intact id (s.networkConnected host port answer) := by
  unfold State.networkConnected
  split
  · exact intact.openSocket.emit _
  · exact intact.emit _

theorem mqttConnected (intact : Intact id s) (data : ConnectData String Bytes) (rc : Int) :
    Intact id (s.mqttConnected data rc) := by
  unfold State.mqttConnected
  split
  · exact (intact.setConnected true).emit _
  · exact intact.emit _

theorem subscribed (intact : Intact id s) (entry : HandlerEntry) (rc : Int) :
    Intact id (s.subscribed entry rc) := by
  unfold State.subscribed
  split
  · exact (intact.addHandler entry).emit _
  · exact intact.emit _

theorem released (intact : Intact id s) : Intact id s.released :=
  (intact.drop .downlinkTopic trivial).drop .key trivial

end Intact

theorem networkConnect_run (host : Option String) (port answer : Int) :
    (networkConnect host port answer).run s =
      .ok (answer, s.networkConnected host port answer) := rfl

theorem mqttConnect_run {data : ConnectData CString Ptr} {sent : ConnectData String Bytes}
    (answer : Int) (readable : (readConnectData data).run s = .ok (sent, s)) :
    (mqttConnect paho data answer).run s =
      .ok (paho.connectRc s.session.client.isconnected answer,
        s.mqttConnected sent (paho.connectRc s.session.client.isconnected answer)) := by
  unfold mqttConnect
  rw [Exec.bind_ok readable]
  rfl

theorem mqttDisconnect_run (answer : Int) :
    (mqttDisconnect answer).run s =
      .ok (answer, (s.setConnected false).emit (.mqttDisconnect answer)) := rfl

theorem networkDisconnect_run :
    networkDisconnect.run s = .ok ((), s.closeSocket.emit .networkDisconnect) := rfl

theorem mqttPublish_run {topicName : CString} {topic : String} {message : MQTTMessage Ptr}
    {payload : Bytes} (answer : Int) (named : topicName.read.run s = .ok (topic, s))
    (readable : (loadBytes message.payload message.payloadlen).run s = .ok (payload, s)) :
    (mqttPublish paho topicName message answer).run s =
      .ok (paho.publishRc s.session.client.isconnected answer,
        s.emit (.publish topic { message with payload }
          (paho.publishRc s.session.client.isconnected answer))) := by
  unfold mqttPublish
  rw [Exec.bind_ok named, Exec.bind_ok readable]
  rfl

theorem mqttSubscribe_run {number : Nat} {text : String} (fp : MessageHandler) (arg : Ptr)
    (answer : Int) (found : s.heap.cell number = some (.str text)) :
    (mqttSubscribe paho (.block number) QOS_DOWN fp arg answer).run s =
      .ok (paho.subscribeRc s.session.client.isconnected s.session.client.messageHandlers.length
          answer,
        s.subscribed ⟨.block number, text, fp, arg⟩
          (paho.subscribeRc s.session.client.isconnected s.session.client.messageHandlers.length
            answer)) := by
  unfold mqttSubscribe
  rw [Exec.bind_ok (loadStr_block found)]
  rfl

/-! ### The packets -/

/-- The connect data `ttngwc_connect` sends: credentials from the argument `key`, the will from the
key that the session holds. -/
def connectPacket (id : String) (key held : Option String) : ConnectData String Bytes where
  clientID := id
  keepAliveInterval := KEEP_ALIVE_INTERVAL
  username := key.map fun _ => id
  password := key
  will := {
    topicName := disconnectTopic
    message := protobuf.disconnectMessage.pack ⟨id, held⟩
    len := protobuf.disconnectMessage.getPackedSize ⟨id, held⟩
    qos := QOS_WILL
    retained := false }

/-- A message as it is published: the encoding of `message` with its packed size. -/
def published {M : Type} (codec : Codec M) (qos : QoS) (message : M) : MQTTMessage Bytes where
  qos
  retained := false
  dup := false
  payload := codec.pack message
  payloadlen := codec.getPackedSize message

/-- A lent payload is published as the encoding it holds. -/
theorem loadBytes_lent {M : Type} (codec : Codec M) (message : M) :
    (loadBytes (.block s.heap.next) (codec.getPackedSize message)).run
        (s.lend (codec.getPackedSize message) (codec.pack message)) =
      .ok (codec.pack message, s.lend (codec.getPackedSize message) (codec.pack message)) :=
  loadBytes_block (codec.agree message) (lend_next ..)

/-! ### `ttngwc_connect` -/

/-- What `session->key = strdup(key)` leaves. -/
def State.keyCopied (s : State Dn) : Option String → Bool → State Dn
  | some text, true => s.hold .key (.str text)
  | some _, false => s.refuse.set .key .null
  | none, _ => s

theorem copyKey_run (key : Option String) (served : Bool) :
    (copyKey key served).run s = .ok ((), s.keyCopied key served) := by
  cases key with
  | none => rfl
  | some text => cases served <;> rfl

theorem Intact.keyCopied (intact : Intact id s) (key : Option String) (served : Bool) :
    Intact id (s.keyCopied key served) := by
  cases key with
  | none => exact intact
  | some text =>
    cases served with
    | true => exact intact.hold .key ⟨text, rfl⟩
    | false => exact intact.refuse.setNull .key trivial

/-- The key the session holds after the copy: the new one, or the one it held before. -/
theorem keyText_keyCopied (s : State Dn) (key : Option String) :
    (s.keyCopied key true).keyText = key.or s.keyText := by
  cases key with
  | none => rfl
  | some text => exact keyText_of_block rfl (Heap.cell_alloc_next ..)

section ConnectWithWill

variable (key : Option String) (o : ConnectOutcome)

theorem readConnectData_lent (intact : Intact id s) (held : Option String) :
    (readConnectData {
        clientID := .pointer s.session.id
        keepAliveInterval := KEEP_ALIVE_INTERVAL
        username := key.map fun _ => .pointer s.session.id
        password := key.map .text
        will := {
          topicName := .text disconnectTopic
          message := .block s.heap.next
          len := protobuf.disconnectMessage.getPackedSize ⟨id, held⟩
          qos := QOS_WILL
          retained := false } }).run
      (s.lend (protobuf.disconnectMessage.getPackedSize ⟨id, held⟩)
        (protobuf.disconnectMessage.pack ⟨id, held⟩)) =
      .ok (connectPacket protobuf id key held,
        s.lend (protobuf.disconnectMessage.getPackedSize ⟨id, held⟩)
          (protobuf.disconnectMessage.pack ⟨id, held⟩)) := by
  obtain ⟨number, named, found⟩ := intact.idBlock
  have lent := lend_cell (protobuf.disconnectMessage.getPackedSize ⟨id, held⟩)
    (protobuf.disconnectMessage.pack ⟨id, held⟩) found
  unfold readConnectData
  rw [named, Exec.bind_ok (read_pointer lent)]
  cases key with
  | none =>
    rw [Option.map_none, Option.map_none, Exec.bind_ok readOption_none,
      Exec.bind_ok readOption_none, Exec.bind_ok (read_text _),
      Exec.bind_ok (loadBytes_lent protobuf.disconnectMessage _)]
    rfl
  | some text =>
    rw [Option.map_some, Option.map_some, Exec.bind_ok (readOption_some (read_pointer lent)),
      Exec.bind_ok (readOption_some (read_text text)), Exec.bind_ok (read_text _),
      Exec.bind_ok (loadBytes_lent protobuf.disconnectMessage _)]
    rfl

/-- A will that was lent to `MQTTConnect` leaves nothing behind but what `MQTTConnect` does. -/
theorem mqttConnected_lent (size : Nat) (data : Bytes) (sent : ConnectData String Bytes) (rc : Int) :
    { (s.lend size data).mqttConnected sent rc with heap := s.heap.skip } =
      s.scratch.mqttConnected sent rc := by
  unfold State.mqttConnected
  by_cases accepted : rc = SUCCESS
  · rw [if_pos accepted, if_pos accepted]
    rfl
  · rw [if_neg accepted, if_neg accepted]
    rfl

theorem connectWithWill_served (intact : Intact id s) (served : o.willPayload = true) :
    (connectWithWill protobuf paho key o).run s =
      .ok (paho.connectRc s.session.client.isconnected o.mqtt,
        s.scratch.mqttConnected (connectPacket protobuf id key s.keyText)
          (paho.connectRc s.session.client.isconnected o.mqtt)) := by
  unfold connectWithWill
  rw [Exec.bind_ok (Exec.run_getState s), Exec.bind_ok intact.disconnectMessage, served,
    Exec.bind_ok (packPayload_served ..),
    Exec.bind_ok (mqttConnect_run paho _ (readConnectData_lent protobuf key intact s.keyText))]
  rw [Exec.bind_ok (free_lent (by unfold State.mqttConnected; split <;> rfl))]
  rw [mqttConnected_lent]
  rfl

theorem connectWithWill_unserved (intact : Intact id s) (refused : o.willPayload = false) :
    (connectWithWill protobuf paho key o).run s = .error .nullPointer := by
  unfold connectWithWill
  rw [Exec.bind_ok (Exec.run_getState s), Exec.bind_ok intact.disconnectMessage, refused,
    Exec.bind_error (packPayload_refused ..)]

/-- What the announcement leaves. -/
def State.announced (s : State Dn) (id : String) (key : Option String) (rc : Int) : State Dn :=
  s.scratch.emit
    (.publish connectTopic (published protobuf.connectMessage QOS_CONNECT ⟨id, key⟩) rc)

theorem Intact.announced (intact : Intact id s) (rc : Int) :
    Intact id (s.announced protobuf id key rc) :=
  intact.scratch.emit _

theorem announce_served (intact : Intact id s) (served : o.announcement = true) :
    (announce protobuf paho key o).run s =
      .ok ((), s.announced protobuf id key
        (paho.publishRc s.session.client.isconnected o.publish)) := by
  unfold announce
  rw [Exec.bind_ok (Exec.run_getState s), Exec.bind_ok intact.loadId, served,
    Exec.bind_ok (packPayload_served ..),
    Exec.bind_ok (mqttPublish_run paho _ (read_text _) (loadBytes_lent ..))]
  rw [free_lent (by rfl)]
  rfl

theorem announce_unserved (intact : Intact id s) (refused : o.announcement = false) :
    (announce protobuf paho key o).run s = .error .nullPointer := by
  unfold announce
  rw [Exec.bind_ok (Exec.run_getState s), Exec.bind_ok intact.loadId, refused,
    Exec.bind_error (packPayload_refused ..)]

/-- The entry that `ttngwc_connect` registers in a state. -/
def State.downlinkEntry (s : State Dn) (id : String) : HandlerEntry where
  topicFilter := .block s.heap.next
  text := downTopic id
  fp := .ttngwcDownlinkCb
  arg := s.handle

theorem subscribeDownlink_served (intact : Intact id s) (served : o.downlinkTopic = true) :
    (subscribeDownlink paho o).run s =
      .ok (paho.subscribeRc s.session.client.isconnected
          s.session.client.messageHandlers.length o.subscribe,
        (s.hold .downlinkTopic (.str (downTopic id))).subscribed (s.downlinkEntry id)
          (paho.subscribeRc s.session.client.isconnected
            s.session.client.messageHandlers.length o.subscribe)) := by
  unfold subscribeDownlink
  rw [Exec.bind_ok (Exec.run_getState s), Exec.bind_ok intact.loadId, served,
    Exec.bind_ok (asprintf_served _)]
  show (mqttSubscribe paho _ _ _ _ _).run (s.hold .downlinkTopic (.str (downTopic id))) = _
  rw [mqttSubscribe_run paho _ _ _ (Heap.cell_alloc_next ..)]
  rfl

/-- A topic that could not be formatted is passed to `MQTTSubscribe` all the same. -/
theorem subscribeDownlink_unserved (intact : Intact id s) (refused : o.downlinkTopic = false) :
    (subscribeDownlink paho o).run s = .error .indeterminatePointer := by
  unfold subscribeDownlink
  rw [Exec.bind_ok (Exec.run_getState s), Exec.bind_ok intact.loadId, refused,
    Exec.bind_ok (asprintf_refused _)]
  rfl

end ConnectWithWill

theorem connectExit_failed (intact : Intact id s) {err : Int} (failed : err ≠ SUCCESS) :
    (connectExit err).run s = .ok ((), s.released) := by
  unfold connectExit
  rw [if_pos failed, Exec.bind_ok intact.releaseDownlinkTopic]
  exact (intact.drop .downlinkTopic trivial).releaseKey

theorem connectExit_succeeded : (connectExit SUCCESS).run s = .ok ((), s) := rfl

section Connect

variable (host : Option String) (port : Int) (key : Option String) (o : ConnectOutcome)

/-- The state in which `MQTTConnect` is called: the key copied and the network connected. -/
def State.reached (s : State Dn) (host : Option String) (port : Int) (key : Option String)
    (o : ConnectOutcome) : State Dn :=
  (s.keyCopied key o.keyCopy).networkConnected host port o.network

theorem Intact.reached (intact : Intact id s) : Intact id (s.reached host port key o) :=
  (intact.keyCopied key o.keyCopy).networkConnected host port o.network

/-- The result of `MQTTConnect` in a call made in this state. -/
def mqttRc (s : State Dn) (o : ConnectOutcome) : Int :=
  paho.connectRc s.session.client.isconnected o.mqtt

/-- The result of `MQTTSubscribe` in a call made in this state, once the client is connected. -/
def subscribeRc (s : State Dn) (o : ConnectOutcome) : Int :=
  paho.subscribeRc true s.session.client.messageHandlers.length o.subscribe

/-- The state after `MQTTConnect`. -/
def State.afterMqtt (s : State Dn) (id : String) (host : Option String) (port : Int)
    (key : Option String) (o : ConnectOutcome) : State Dn :=
  (s.reached host port key o).scratch.mqttConnected
    (connectPacket protobuf id key (s.keyCopied key o.keyCopy).keyText) (mqttRc paho s o)

/-- The state after the announcement, when the client is connected by the call. -/
def State.afterAnnounce (s : State Dn) (id : String) (host : Option String) (port : Int)
    (key : Option String) (o : ConnectOutcome) : State Dn :=
  (s.afterMqtt protobuf paho id host port key o).announced protobuf id key
    (paho.publishRc true o.publish)

/-- The state after `MQTTSubscribe`, when the client is connected by the call. -/
def State.afterSubscribe (s : State Dn) (id : String) (host : Option String) (port : Int)
    (key : Option String) (o : ConnectOutcome) : State Dn :=
  ((s.afterAnnounce protobuf paho id host port key o).hold .downlinkTopic
    (.str (downTopic id))).subscribed
      ((s.afterAnnounce protobuf paho id host port key o).downlinkEntry id) (subscribeRc paho s o)

theorem reached_keyText : (s.reached host port key o).keyText =
    (s.keyCopied key o.keyCopy).keyText := by
  unfold State.reached State.networkConnected
  split <;> rfl

theorem reached_client : (s.reached host port key o).session.client = s.session.client := by
  unfold State.reached State.networkConnected
  cases key with
  | none => split <;> rfl
  | some text => cases o.keyCopy <;> split <;> rfl

theorem Intact.afterMqtt (intact : Intact id s) :
    Intact id (s.afterMqtt protobuf paho id host port key o) :=
  (intact.reached host port key o).scratch.mqttConnected _ _

theorem Intact.afterAnnounce (intact : Intact id s) :
    Intact id (s.afterAnnounce protobuf paho id host port key o) :=
  (intact.afterMqtt protobuf paho host port key o).announced protobuf key _

theorem Intact.afterSubscribe (intact : Intact id s) :
    Intact id (s.afterSubscribe protobuf paho id host port key o) :=
  ((intact.afterAnnounce protobuf paho host port key o).hold .downlinkTopic rfl).subscribed _ _

theorem connectWithWill_reached (intact : Intact id s) (served : o.willPayload = true) :
    (connectWithWill protobuf paho key o).run (s.reached host port key o) =
      .ok (mqttRc paho s o, s.afterMqtt protobuf paho id host port key o) := by
  rw [connectWithWill_served protobuf paho key o (intact.reached host port key o) served,
    reached_client, reached_keyText]
  rfl

/-- A call whose `NetworkConnect` fails goes straight to `exit:`. -/
theorem connect_network_refused (intact : Intact id s) (failed : o.network ≠ SUCCESS) :
    (ttngwcConnect protobuf paho host port key o).run s =
      .ok (o.network, (s.reached host port key o).released) := by
  have steps : (connectSteps protobuf paho host port key o).run (s.keyCopied key o.keyCopy) =
      .ok (o.network, s.reached host port key o) := by
    unfold connectSteps
    rw [Exec.bind_ok (networkConnect_run ..), if_pos failed]
    rfl
  unfold ttngwcConnect
  rw [Exec.bind_ok (copyKey_run ..), Exec.bind_ok steps,
    Exec.bind_ok (connectExit_failed (intact.reached host port key o) failed)]
  rfl

/-- The steps of a call that gets past `NetworkConnect`. -/
theorem connectSteps_connected (connected : o.network = SUCCESS) :
    (connectSteps protobuf paho host port key o).run (s.keyCopied key o.keyCopy) =
      ((connectWithWill protobuf paho key o) >>= fun err =>
        if err ≠ SUCCESS then pure err
        else do
          announce protobuf paho key o
          subscribeDownlink paho o).run (s.reached host port key o) := by
  unfold connectSteps
  rw [Exec.bind_ok (networkConnect_run ..), if_neg (not_not.mpr connected)]
  rfl

/-- A call whose `MQTTConnect` fails releases the key and leaves the network open. -/
theorem connect_mqtt_refused (intact : Intact id s) (connected : o.network = SUCCESS)
    (served : o.willPayload = true) (failed : mqttRc paho s o ≠ SUCCESS) :
    (ttngwcConnect protobuf paho host port key o).run s =
      .ok (mqttRc paho s o, (s.afterMqtt protobuf paho id host port key o).released) := by
  have steps : (connectSteps protobuf paho host port key o).run (s.keyCopied key o.keyCopy) =
      .ok (mqttRc paho s o, s.afterMqtt protobuf paho id host port key o) := by
    rw [connectSteps_connected protobuf paho host port key o connected,
      Exec.bind_ok (connectWithWill_reached protobuf paho host port key o intact served),
      if_pos failed]
    rfl
  unfold ttngwcConnect
  rw [Exec.bind_ok (copyKey_run ..), Exec.bind_ok steps,
    Exec.bind_ok (connectExit_failed (intact.afterMqtt protobuf paho host port key o) failed)]
  rfl

section Accepted

variable {host port key o}

theorem afterMqtt_client (accepted : mqttRc paho s o = SUCCESS) :
    (s.afterMqtt protobuf paho id host port key o).session.client =
      ⟨true, s.session.client.messageHandlers⟩ := by
  unfold State.afterMqtt State.mqttConnected
  rw [if_pos accepted]
  show (⟨true, (s.reached host port key o).session.client.messageHandlers⟩ : MQTTClient) = _
  rw [reached_client]

/-- The steps of a call whose `MQTTConnect` was accepted. -/
theorem connectSteps_accepted (intact : Intact id s) (connected : o.network = SUCCESS)
    (served : o.willPayload = true) (accepted : mqttRc paho s o = SUCCESS) :
    (connectSteps protobuf paho host port key o).run (s.keyCopied key o.keyCopy) =
      ((announce protobuf paho key o) >>= fun _ => subscribeDownlink paho o).run
        (s.afterMqtt protobuf paho id host port key o) := by
  rw [connectSteps_connected protobuf paho host port key o connected,
    Exec.bind_ok (connectWithWill_reached protobuf paho host port key o intact served),
    if_neg (not_not.mpr accepted)]

theorem announce_accepted (intact : Intact id s) (accepted : mqttRc paho s o = SUCCESS)
    (served : o.announcement = true) :
    (announce protobuf paho key o).run (s.afterMqtt protobuf paho id host port key o) =
      .ok ((), s.afterAnnounce protobuf paho id host port key o) := by
  rw [announce_served protobuf paho key o (intact.afterMqtt protobuf paho host port key o) served,
    afterMqtt_client protobuf paho accepted]
  rfl

/-- A call whose `MQTTConnect` was accepted returns the result of `MQTTSubscribe`. -/
theorem connect_subscribed (intact : Intact id s) (connected : o.network = SUCCESS)
    (will : o.willPayload = true) (accepted : mqttRc paho s o = SUCCESS)
    (announcement : o.announcement = true) (topic : o.downlinkTopic = true) :
    (ttngwcConnect protobuf paho host port key o).run s =
      .ok (subscribeRc paho s o,
        if subscribeRc paho s o = SUCCESS then s.afterSubscribe protobuf paho id host port key o
        else (s.afterSubscribe protobuf paho id host port key o).released) := by
  have announced := intact.afterAnnounce protobuf paho host port key o
  have steps : (connectSteps protobuf paho host port key o).run (s.keyCopied key o.keyCopy) =
      .ok (subscribeRc paho s o, s.afterSubscribe protobuf paho id host port key o) := by
    rw [connectSteps_accepted protobuf paho intact connected will accepted,
      Exec.bind_ok (announce_accepted protobuf paho intact accepted announcement),
      subscribeDownlink_served paho o announced topic]
    have client : (s.afterMqtt protobuf paho id host port key o).session.client =
        ⟨true, s.session.client.messageHandlers⟩ := afterMqtt_client protobuf paho accepted
    show Except.ok (paho.subscribeRc
      (s.afterMqtt protobuf paho id host port key o).session.client.isconnected
      (s.afterMqtt protobuf paho id host port key o).session.client.messageHandlers.length
      o.subscribe, State.subscribed _ _ (paho.subscribeRc
      (s.afterMqtt protobuf paho id host port key o).session.client.isconnected
      (s.afterMqtt protobuf paho id host port key o).session.client.messageHandlers.length
      o.subscribe)) = _
    rw [client]
    rfl
  unfold ttngwcConnect
  rw [Exec.bind_ok (copyKey_run ..), Exec.bind_ok steps]
  by_cases result : subscribeRc paho s o = SUCCESS
  · rw [if_pos result, result, Exec.bind_ok connectExit_succeeded]
    rfl
  · rw [if_neg result, Exec.bind_ok
      (connectExit_failed (intact.afterSubscribe protobuf paho host port key o) result)]
    rfl

theorem connect_will_unserved (intact : Intact id s) (connected : o.network = SUCCESS)
    (refused : o.willPayload = false) :
    (ttngwcConnect protobuf paho host port key o).run s = .error .nullPointer := by
  unfold ttngwcConnect
  rw [Exec.bind_ok (copyKey_run ..), Exec.bind_error]
  rw [connectSteps_connected protobuf paho host port key o connected,
    Exec.bind_error (connectWithWill_unserved protobuf paho key o
      (intact.reached host port key o) refused)]

theorem connect_announcement_unserved (intact : Intact id s) (connected : o.network = SUCCESS)
    (will : o.willPayload = true) (accepted : mqttRc paho s o = SUCCESS)
    (refused : o.announcement = false) :
    (ttngwcConnect protobuf paho host port key o).run s = .error .nullPointer := by
  unfold ttngwcConnect
  rw [Exec.bind_ok (copyKey_run ..), Exec.bind_error]
  rw [connectSteps_accepted protobuf paho intact connected will accepted,
    Exec.bind_error (announce_unserved protobuf paho key o
      (intact.afterMqtt protobuf paho host port key o) refused)]

theorem connect_topic_unserved (intact : Intact id s) (connected : o.network = SUCCESS)
    (will : o.willPayload = true) (accepted : mqttRc paho s o = SUCCESS)
    (announcement : o.announcement = true) (refused : o.downlinkTopic = false) :
    (ttngwcConnect protobuf paho host port key o).run s = .error .indeterminatePointer := by
  have announced := intact.afterAnnounce protobuf paho host port key o
  unfold ttngwcConnect
  rw [Exec.bind_ok (copyKey_run ..), Exec.bind_error]
  rw [connectSteps_accepted protobuf paho intact connected will accepted,
    Exec.bind_ok (announce_accepted protobuf paho intact accepted announcement),
    subscribeDownlink_unserved paho o announced refused]

end Accepted

end Connect

/-! ### `ttngwc_disconnect` -/

/-- The disconnect message as `ttngwc_disconnect` publishes it. -/
def farewell (id : String) (held : Option String) : MQTTMessage Bytes :=
  published protobuf.disconnectMessage QOS_WILL ⟨id, held⟩

section Disconnect

variable (o : DisconnectOutcome)

/-- What `ttngwc_disconnect` asks of the MQTT layer, before it releases the key and the topic. -/
def State.departed (s : State Dn) (id : String) (o : DisconnectOutcome) : State Dn :=
  (((s.scratch.emit (.publish disconnectTopic (farewell protobuf id s.keyText)
    (paho.publishRc s.session.client.isconnected o.publish))).setConnected false).emit
      (.mqttDisconnect o.mqtt)).closeSocket.emit .networkDisconnect

theorem Intact.departed (intact : Intact id s) : Intact id (s.departed protobuf paho id o) :=
  ((((intact.scratch.emit _).setConnected false).emit _).closeSocket).emit _

/-- It leaves every field. -/
theorem at_departed (s : State Dn) (field : Field) :
    (s.departed protobuf paho id o).at field = s.at field := by
  unfold State.departed
  rw [at_emit, at_closeSocket, at_emit, at_setConnected, at_emit, at_scratch]

/-- It leaves every block. -/
theorem cell_departed (s : State Dn) :
    (s.departed protobuf paho id o).heap.cell = s.heap.cell := by
  show (State.closeSocket _).heap.cell = _
  rw [heap_closeSocket]
  rfl

theorem disconnect_served (intact : Intact id s) (served : o.payload = true) :
    (ttngwcDisconnect protobuf paho o).run s =
      .ok (0, ((s.departed protobuf paho id o).drop .key).drop .downlinkTopic) := by
  have departed := intact.departed protobuf paho o
  unfold ttngwcDisconnect
  rw [Exec.bind_ok intact.disconnectMessage, served, Exec.bind_ok (packPayload_served ..),
    Exec.bind_ok (mqttPublish_run paho _ (read_text _) (loadBytes_lent ..)),
    Exec.bind_ok (free_lent (by rfl))]
  rw [Exec.bind_ok (mqttDisconnect_run _), Exec.bind_ok networkDisconnect_run]
  show ((releaseKey >>= fun _ => releaseDownlinkTopic >>= fun _ => pure 0).run
    (s.departed protobuf paho id o)) = _
  rw [Exec.bind_ok departed.releaseKey,
    Exec.bind_ok (departed.drop .key trivial).releaseDownlinkTopic]
  rfl

theorem disconnect_unserved (intact : Intact id s) (refused : o.payload = false) :
    (ttngwcDisconnect protobuf paho o).run s = .error .nullPointer := by
  unfold ttngwcDisconnect
  rw [Exec.bind_ok intact.disconnectMessage, refused, Exec.bind_error (packPayload_refused ..)]

end Disconnect

/-! ### The sends -/

section Send

variable {M : Type} (codec : Codec M) (topicOf : String → String) (qos : QoS) (message : M)
  (o : SendOutcome)

/-- What a send that reaches `MQTTPublish` leaves: two temporary blocks and one publish. -/
def State.sent (s : State Dn) (topic : String) (message : MQTTMessage Bytes) (rc : Int) :
    State Dn :=
  s.scratch.scratch.emit (.publish topic message rc)

theorem Intact.sent (intact : Intact id s) (topic : String) (message : MQTTMessage Bytes)
    (rc : Int) : Intact id (s.sent topic message rc) :=
  intact.scratch.scratch.emit _

/-- The id is read while the payload is held. -/
theorem lend_loadId (intact : Intact id s) {size : Nat} {data : Bytes} :
    (loadStr (s.lend size data).session.id).run (s.lend size data) =
      .ok (id, s.lend size data) := by
  obtain ⟨number, held, found⟩ := intact.idBlock
  show (loadStr s.session.id).run _ = _
  rw [held, loadStr_block (lend_cell _ _ found)]

theorem send_served (intact : Intact id s) (payload : o.payload = true) (topic : o.topic = true) :
    (sendMessage paho codec topicOf qos message o).run s =
      .ok (paho.publishRc s.session.client.isconnected o.publish,
        s.sent (topicOf id) (published codec qos message)
          (paho.publishRc s.session.client.isconnected o.publish)) := by
  let rc := paho.publishRc s.session.client.isconnected o.publish
  let lent := s.lend (codec.getPackedSize message) (codec.pack message)
  let formatted : State Dn := { lent with heap := lent.heap.alloc (.str (topicOf id)) }
  let handed := formatted.emit (.publish (topicOf id) (published codec qos message) rc)
  have idText : (loadStr lent.session.id).run lent = .ok (id, lent) := lend_loadId intact
  have topicCell : formatted.heap.cell lent.heap.next = some (.str (topicOf id)) :=
    Heap.cell_alloc_next ..
  have payloadCell : formatted.heap.cell s.heap.next = some (.bytes (codec.pack message)) :=
    Heap.cell_alloc_of_cell (lend_next ..)
  -- `sendSteps` returns the result of `MQTTPublish` and both blocks, still live
  have steps : (sendSteps paho codec topicOf qos message o).run s =
      .ok ((rc, .block lent.heap.next, .block s.heap.next), handed) := by
    unfold sendSteps
    rw [payload, malloc, Exec.bind_ok (allocate_served ..), if_neg (by simp),
      Exec.bind_ok (packInto_served codec message), Exec.bind_ok (Exec.run_getState _),
      Exec.bind_ok idText, topic, Exec.bind_ok (asprintf_served _)]
    show (if ((topicOf id).utf8ByteSize : Int) = -1 then _ else _ : Code Dn _).run formatted = _
    rw [if_neg (by omega), Exec.bind_ok (mqttPublish_run paho _ (read_pointer topicCell)
      (loadBytes_block (codec.agree message) payloadCell))]
    rfl
  have topicLeft : handed.heap.cell lent.heap.next = some (.str (topicOf id)) := topicCell
  have payloadLeft :
      (handed.heap.free lent.heap.next).cell s.heap.next = some (.bytes (codec.pack message)) := by
    have older : s.heap.next ≠ lent.heap.next := Nat.ne_of_lt (Nat.lt_succ_self _)
    exact (Heap.cell_free_of_ne older).trans payloadCell
  have released : (handed.heap.free lent.heap.next).free s.heap.next = s.heap.skip.skip := by
    have unwritten : lent.heap.free s.heap.next = s.heap.skip := Heap.free_put_alloc ..
    show ((lent.heap.alloc _).free lent.heap.next).free s.heap.next = _
    rw [Heap.free_alloc, Heap.free_skip, unwritten]
  unfold sendMessage
  rw [Exec.bind_ok steps]
  show ((freeNotNull (.block lent.heap.next) >>= fun _ => freeNotNull (.block s.heap.next) >>=
    fun _ => pure rc).run handed) = _
  rw [Exec.bind_ok (freeNotNull_block topicLeft), Exec.bind_ok (freeNotNull_block payloadLeft)]
  show Except.ok (rc, { handed with
    heap := (handed.heap.free lent.heap.next).free s.heap.next }) = _
  rw [released]
  rfl

/-- Without memory for the payload a send fails and passes nothing on. -/
theorem send_payload_unserved (refused : o.payload = false) :
    (sendMessage paho codec topicOf qos message o).run s = .ok (FAILURE, s.refuse) := by
  have steps : (sendSteps paho codec topicOf qos message o).run s =
      .ok ((FAILURE, .null, .null), s.refuse) := by
    unfold sendSteps
    rw [refused, malloc, Exec.bind_ok (allocate_refused ..), if_pos rfl]
    rfl
  unfold sendMessage
  rw [Exec.bind_ok steps]
  rfl

/-- A topic that could not be formatted is released all the same. -/
theorem send_topic_unserved (intact : Intact id s) (payload : o.payload = true)
    (refused : o.topic = false) :
    (sendMessage paho codec topicOf qos message o).run s = .error .indeterminatePointer := by
  let lent := s.lend (codec.getPackedSize message) (codec.pack message)
  have idText : (loadStr lent.session.id).run lent = .ok (id, lent) := lend_loadId intact
  have steps : (sendSteps paho codec topicOf qos message o).run s =
      .ok ((FAILURE, .indeterminate, .block s.heap.next), lent.refuse) := by
    unfold sendSteps
    rw [payload, malloc, Exec.bind_ok (allocate_served ..), if_neg (by simp),
      Exec.bind_ok (packInto_served codec message), Exec.bind_ok (Exec.run_getState _),
      Exec.bind_ok idText, refused, Exec.bind_ok (asprintf_refused _)]
    rfl
  unfold sendMessage
  rw [Exec.bind_ok steps]
  exact Exec.bind_error freeNotNull_indeterminate

end Send

/-! ### A message that reaches the client -/

section Deliver

variable (s : State Dn) (topic : String) (payload : Bytes)

/-- What the callback of the connector does about a payload: a message that decodes is passed to the
handler, if there is one, and released. -/
def handedOver (downlinkHandler : Option Nat) (cbArg : Nat) (payload : Bytes) : List (Event Dn) :=
  match protobuf.unpackDownlink payload with
  | none => []
  | some downlink =>
    downlinkHandler.toList.map (fun function => .downlinkHandler function downlink cbArg) ++
      [.freeUnpacked downlink]

/-- What is done about a message when these filters are registered: it is handed over once for every
filter that matches. -/
def deliveries (topicFilters : List String) (downlinkHandler : Option Nat) (cbArg : Nat)
    (topic : String) (payload : Bytes) : List (Event Dn) :=
  (topicFilters.filter fun filter => paho.topicMatched filter topic).flatMap fun _ =>
    handedOver protobuf downlinkHandler cbArg payload

theorem deliveries_cons (filter : String) (rest : List String) (handler : Option Nat) (arg : Nat) :
    (deliveries protobuf paho (filter :: rest) handler arg topic payload : List (Event Dn)) =
      (if paho.topicMatched filter topic = true then handedOver protobuf handler arg payload
        else []) ++ deliveries protobuf paho rest handler arg topic payload := by
  unfold deliveries
  rw [List.filter_cons]
  split
  · rfl
  · rfl

theorem ttngwcDownlinkCb_effect :
    (ttngwcDownlinkCb protobuf payload).run s = .ok ((), { s with
      log := s.log ++ handedOver protobuf s.session.downlinkHandler s.session.cbArg payload }) := by
  unfold ttngwcDownlinkCb handedOver
  cases protobuf.unpackDownlink payload with
  | none =>
    show Except.ok ((), s) = .ok ((), { s with log := s.log ++ [] })
    rw [List.append_nil]
  | some downlink =>
    show (get >>= fun t : State Dn => _ : Code Dn Unit).run s = _
    rw [Exec.bind_ok (Exec.run_getState s)]
    cases s.session.downlinkHandler with
    | none => rfl
    | some function =>
      rw [Exec.bind_ok (Exec.run_modifyState _ s)]
      show Except.ok ((), ((s.emit _).emit _)) = _
      unfold State.emit
      rw [List.append_assoc]
      rfl

/-- Every entry that matches hands the message over once more. -/
theorem deliverTo_effect (entries : List HandlerEntry) :
    (deliverTo protobuf paho topic payload entries).run s = .ok ((), { s with
      log := s.log ++ deliveries protobuf paho (entries.map HandlerEntry.text)
        s.session.downlinkHandler s.session.cbArg topic payload }) := by
  induction entries generalizing s with
  | nil =>
    show Except.ok ((), s) = .ok ((), { s with log := s.log ++ [] })
    rw [List.append_nil]
  | cons entry rest ih =>
    unfold deliverTo
    rw [List.map_cons, deliveries_cons]
    by_cases matched : paho.topicMatched entry.text topic = true
    · rw [if_pos matched, if_pos matched, ← List.append_assoc]
      cases entry.fp
      rw [Exec.bind_ok (ttngwcDownlinkCb_effect protobuf s payload)]
      exact ih _
    · rw [if_neg matched, if_neg matched, List.nil_append]
      exact ih s

/-- **A message that reaches the client** is handed over once for every entry that matches. -/
theorem deliver_effect :
    (deliver protobuf paho topic payload).run s = .ok ((), { s with
      log := s.log ++ deliveries protobuf paho (s.session.client.messageHandlers.map HandlerEntry.text)
        s.session.downlinkHandler s.session.cbArg topic payload }) := by
  unfold deliver
  rw [Exec.bind_ok (Exec.run_getState s)]
  exact deliverTo_effect protobuf paho s topic payload _

end Deliver

/-! ### Following the handle -/

section Followed

variable {α : Type} {function : Code Dn α} {result : α} {s' : State Dn}

theorem followed_run (intact : Intact id s) (returned : function.run s = .ok (result, s')) :
    (followed function).run s = .ok (result, s') := by
  obtain ⟨number, contents, named, found, _⟩ := intact.required .handle fun optional => optional
  have held : s.handle = .block number := named
  unfold followed
  rw [Exec.bind_ok (Exec.run_getState s), held, Exec.bind_ok (deref_block found)]
  exact returned

end Followed

end GatewayConnector
