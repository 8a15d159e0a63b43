/-
**What a connect leaves in each part of the state.**

`ttngwc_connect` goes through `State.reached`, `State.afterMqtt` and `State.afterSubscribe`. The
lemmas here say what each of them holds, in terms of the state the call was made in: the connection
and the open sockets, the handler table, the handle, the key and the callback, the heap with the
refused allocations, and the log.
-/

import GatewayConnector.Proof.CallEffects

namespace GatewayConnector

open Lib

variable {Up St Dn : Type} (protobuf : Protobuf Up St Dn) (paho : Paho) (id : String)
  {s : State Dn} (host : Option String) (port : Int) (key : Option String) (o : ConnectOutcome)

/-! ### The connection -/

theorem reached_network :
    (s.reached host port key o).session.network =
      if o.network = SUCCESS then some s.sockets.next else s.session.network := by
  unfold State.reached State.networkConnected
  cases key with
  | none => split <;> rfl
  | some text => cases o.keyCopy <;> split <;> rfl

/-- `MQTTConnect` leaves the network that `NetworkConnect` opened. -/
theorem afterMqtt_network (network : o.network = SUCCESS) :
    (s.afterMqtt protobuf paho id host port key o).session.network = some s.sockets.next := by
  have kept : (s.afterMqtt protobuf paho id host port key o).session.network =
      (s.reached host port key o).session.network := by
    unfold State.afterMqtt State.mqttConnected
    split <;> rfl
  rw [kept, reached_network, if_pos network]

theorem afterSubscribe_network (network : o.network = SUCCESS) :
    (s.afterSubscribe protobuf paho id host port key o).session.network = some s.sockets.next := by
  have kept : (s.afterSubscribe protobuf paho id host port key o).session.network =
      (s.afterMqtt protobuf paho id host port key o).session.network := by
    unfold State.afterSubscribe State.subscribed
    split <;> rfl
  rw [kept, afterMqtt_network protobuf paho id host port key o network]

/-! ### The open sockets -/

theorem reached_sockets :
    (s.reached host port key o).sockets =
      if o.network = SUCCESS then s.sockets.alloc () else s.sockets := by
  unfold State.reached State.networkConnected
  cases key with
  | none => split <;> rfl
  | some text => cases o.keyCopy <;> split <;> rfl

theorem afterMqtt_sockets :
    (s.afterMqtt protobuf paho id host port key o).sockets =
      (s.reached host port key o).sockets := by
  unfold State.afterMqtt State.mqttConnected
  split <;> rfl

theorem afterSubscribe_sockets :
    (s.afterSubscribe protobuf paho id host port key o).sockets =
      (s.reached host port key o).sockets := by
  have kept : (s.afterSubscribe protobuf paho id host port key o).sockets =
      (s.afterMqtt protobuf paho id host port key o).sockets := by
    unfold State.afterSubscribe State.subscribed
    split <;> rfl
  rw [kept, afterMqtt_sockets]

/-- A disconnect gives up the connection and opens none. -/
theorem departed_connection (o : DisconnectOutcome) :
    (s.departed protobuf paho id o).session.network = none ∧
      (s.departed protobuf paho id o).sockets.next = s.sockets.next :=
  ⟨closeSocket_network _, closeSocket_next _⟩

/-! ### The handler table -/

theorem afterMqtt_handlers :
    (s.afterMqtt protobuf paho id host port key o).session.client.messageHandlers =
      s.session.client.messageHandlers := by
  have kept : (s.afterMqtt protobuf paho id host port key o).session.client.messageHandlers =
      (s.reached host port key o).session.client.messageHandlers := by
    unfold State.afterMqtt State.mqttConnected
    split <;> rfl
  rw [kept, reached_client]

theorem afterSubscribe_handlers_refused (refused : subscribeRc paho s o ≠ SUCCESS) :
    (s.afterSubscribe protobuf paho id host port key o).session.client.messageHandlers =
      s.session.client.messageHandlers := by
  unfold State.afterSubscribe State.subscribed
  rw [if_neg refused]
  show (s.afterMqtt protobuf paho id host port key o).session.client.messageHandlers = _
  rw [afterMqtt_handlers]

/-- The entry that is added names the topic that the session holds from then on. -/
theorem afterSubscribe_handlers (subscribed : subscribeRc paho s o = SUCCESS) :
    (s.afterSubscribe protobuf paho id host port key o).session.client.messageHandlers =
      s.session.client.messageHandlers ++
        [(s.afterAnnounce protobuf paho id host port key o).downlinkEntry id] := by
  unfold State.afterSubscribe State.subscribed
  rw [if_pos subscribed]
  show (s.afterMqtt protobuf paho id host port key o).session.client.messageHandlers ++ _ = _
  rw [afterMqtt_handlers]

theorem afterSubscribe_topic :
    (s.afterSubscribe protobuf paho id host port key o).session.downlinkTopic =
      .block (s.afterAnnounce protobuf paho id host port key o).heap.next := by
  unfold State.afterSubscribe State.subscribed
  split <;> rfl

/-! ### The handle -/

theorem afterAnnounce_handle :
    (s.afterAnnounce protobuf paho id host port key o).handle = s.handle := by
  have copied : (s.keyCopied key o.keyCopy).handle = s.handle := by
    cases key with
    | none => rfl
    | some text => cases o.keyCopy <;> rfl
  have reached : (s.reached host port key o).handle = s.handle := by
    rw [← copied]
    unfold State.reached State.networkConnected
    split <;> rfl
  rw [← reached]
  unfold State.afterAnnounce State.announced State.afterMqtt State.mqttConnected
  split <;> rfl

/-! ### The key -/

/-- Allocating the topic leaves the text of the key. -/
theorem Intact.keyText_hold {id : String} (intact : Intact id s) (contents : Block) :
    (s.hold .downlinkTopic contents).keyText = s.keyText := by
  rcases intact.keyBlock with ⟨empty, text⟩ | ⟨number, text, held, found, known⟩
  · rw [text]
    exact keyText_of_null empty
  · rw [known]
    exact keyText_of_block held (Heap.cell_alloc_of_cell found)

/-- The session still holds the key that its will was packed with. -/
theorem afterSubscribe_keyText (intact : Intact id s) :
    (s.afterSubscribe protobuf paho id host port key o).keyText =
      (s.keyCopied key o.keyCopy).keyText := by
  have held : (s.afterSubscribe protobuf paho id host port key o).keyText =
      ((s.afterAnnounce protobuf paho id host port key o).hold .downlinkTopic
        (.str (downTopic id))).keyText := by
    unfold State.afterSubscribe State.subscribed
    split <;> rfl
  have connected : (s.afterAnnounce protobuf paho id host port key o).keyText =
      (s.reached host port key o).keyText := by
    unfold State.afterAnnounce State.announced State.afterMqtt State.mqttConnected
    split <;> rfl
  rw [held, (intact.afterAnnounce protobuf paho host port key o).keyText_hold, connected,
    reached_keyText]

/-! ### The callback -/

theorem reached_callback :
    (s.reached host port key o).session.downlinkHandler = s.session.downlinkHandler ∧
      (s.reached host port key o).session.cbArg = s.session.cbArg := by
  unfold State.reached State.networkConnected
  cases key with
  | none => split <;> exact ⟨rfl, rfl⟩
  | some text => cases o.keyCopy <;> split <;> exact ⟨rfl, rfl⟩

theorem afterMqtt_callback :
    (s.afterMqtt protobuf paho id host port key o).session.downlinkHandler =
        s.session.downlinkHandler ∧
      (s.afterMqtt protobuf paho id host port key o).session.cbArg = s.session.cbArg := by
  have kept := reached_callback (s := s) host port key o
  unfold State.afterMqtt State.mqttConnected
  split <;> exact kept

theorem afterSubscribe_callback :
    (s.afterSubscribe protobuf paho id host port key o).session.downlinkHandler =
        s.session.downlinkHandler ∧
      (s.afterSubscribe protobuf paho id host port key o).session.cbArg = s.session.cbArg := by
  have kept := afterMqtt_callback (s := s) protobuf paho id host port key o
  unfold State.afterSubscribe State.subscribed
  split <;> exact kept

/-! ### The log -/

theorem reached_log :
    (s.reached host port key o).log = s.log ++ [.networkConnect host port o.network] := by
  unfold State.reached State.networkConnected
  cases key with
  | none => split <;> rfl
  | some text => cases o.keyCopy <;> split <;> rfl

theorem afterMqtt_log :
    (s.afterMqtt protobuf paho id host port key o).log = s.log ++
      [.networkConnect host port o.network,
        .mqttConnect (connectPacket protobuf id key (s.keyCopied key o.keyCopy).keyText)
          (mqttRc paho s o)] := by
  have appended : (s.afterMqtt protobuf paho id host port key o).log =
      (s.reached host port key o).log ++
        [.mqttConnect (connectPacket protobuf id key (s.keyCopied key o.keyCopy).keyText)
          (mqttRc paho s o)] := by
    unfold State.afterMqtt State.mqttConnected
    split <;> rfl
  rw [appended, reached_log, List.append_assoc]
  rfl

/-- The operations of a connect that goes through. -/
def State.operations (s : State Dn) (id : String) (host : Option String) (port : Int)
    (key : Option String) (o : ConnectOutcome) : List (Event Dn) :=
  [.networkConnect host port o.network,
    .mqttConnect (connectPacket protobuf id key (s.keyCopied key o.keyCopy).keyText)
      (mqttRc paho s o),
    .publish connectTopic (published protobuf.connectMessage QOS_CONNECT ⟨id, key⟩)
      (paho.publishRc true o.publish),
    .subscribe (downTopic id) QOS_DOWN (subscribeRc paho s o)]

theorem afterSubscribe_log :
    (s.afterSubscribe protobuf paho id host port key o).log =
      s.log ++ s.operations protobuf paho id host port key o := by
  have appended : (s.afterSubscribe protobuf paho id host port key o).log =
      ((s.afterMqtt protobuf paho id host port key o).log ++
        [.publish connectTopic (published protobuf.connectMessage QOS_CONNECT ⟨id, key⟩)
          (paho.publishRc true o.publish)]) ++
        [.subscribe (downTopic id) QOS_DOWN (subscribeRc paho s o)] := by
    unfold State.afterSubscribe State.subscribed
    split <;> rfl
  rw [appended, afterMqtt_log, List.append_assoc, List.append_assoc]
  rfl

theorem departed_log (o : DisconnectOutcome) :
    (s.departed protobuf paho id o).log = s.log ++
      [.publish disconnectTopic (farewell protobuf id s.keyText)
          (paho.publishRc s.session.client.isconnected o.publish),
        .mqttDisconnect o.mqtt, .networkDisconnect] := by
  show (State.closeSocket _).log ++ _ = _
  rw [closeSocket_log]
  show ((s.log ++ _) ++ _) ++ _ = _
  rw [List.append_assoc, List.append_assoc]
  rfl

/-! ### The heap -/

theorem afterMqtt_heap :
    (s.afterMqtt protobuf paho id host port key o).heap =
      (s.keyCopied key o.keyCopy).heap.skip := by
  unfold State.afterMqtt State.mqttConnected State.reached State.networkConnected
  split <;> split <;> rfl

theorem keyCopied_next_le (served : Bool) : s.heap.next ≤ (s.keyCopied key served).heap.next := by
  cases key with
  | none => exact Nat.le_refl _
  | some text =>
    cases served with
    | true => exact Nat.le_succ _
    | false => exact Nat.le_refl _

/-! ### The refused allocations -/

/-- Only the copy of the key can be refused without stopping a connect. -/
theorem keyCopied_refused (served : Bool) :
    (s.keyCopied key served).refused =
      s.refused + if key ≠ none ∧ served = false then 1 else 0 := by
  cases key with
  | none =>
    rw [if_neg fun both => both.1 rfl]
    rfl
  | some text =>
    cases served with
    | true =>
      rw [if_neg fun both => Bool.noConfusion both.2]
      rfl
    | false =>
      rw [if_pos ⟨Option.some_ne_none text, rfl⟩]
      rfl

theorem reached_refused :
    (s.reached host port key o).refused = (s.keyCopied key o.keyCopy).refused := by
  unfold State.reached State.networkConnected
  split <;> rfl

theorem afterMqtt_refused :
    (s.afterMqtt protobuf paho id host port key o).refused =
      (s.keyCopied key o.keyCopy).refused := by
  rw [← reached_refused host port key o]
  unfold State.afterMqtt State.mqttConnected
  split <;> rfl

theorem afterSubscribe_refused :
    (s.afterSubscribe protobuf paho id host port key o).refused =
      (s.keyCopied key o.keyCopy).refused := by
  rw [← afterMqtt_refused protobuf paho id host port key o]
  unfold State.afterSubscribe State.subscribed
  split <;> rfl

/-! ### The age of the topic -/

/-- The block of the topic is younger than every block the call found. -/
theorem next_lt_afterAnnounce :
    s.heap.next < (s.afterAnnounce protobuf paho id host port key o).heap.next := by
  have grown := keyCopied_next_le (s := s) key o.keyCopy
  show s.heap.next < (s.afterMqtt protobuf paho id host port key o).heap.next + 1
  rw [afterMqtt_heap, Heap.next_skip]
  omega

end GatewayConnector
