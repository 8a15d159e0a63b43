/-
**What a call leaves alone.**

Sessions share the heap. `Apart number contents s` says that a block is live with these contents and
that no field of the session names it. Every call on the session keeps that, whatever the block is:
a call releases what a field names, and what it allocates is new.

* `exec_apart` — a call that returns, with any outcomes.
* `initialised_apart`, `cleaned_apart` — `ttngwc_init` and `ttngwc_cleanup`.
-/

import GatewayConnector.Proof.Lifetime
import GatewayConnector.Proof.Returned

namespace GatewayConnector

open Lib

variable {Up St Dn : Type} (protobuf : Protobuf Up St Dn) (paho : Paho) {id : String}
  {s s' : State Dn} {number : Nat} {contents : Block}

/-- **A block that is not the session's**, with its contents. -/
structure Apart (number : Nat) (contents : Block) (s : State Dn) : Prop where
  cell : s.heap.cell number = some contents
  unnamed : ∀ field, s.at field ≠ .block number

namespace Apart

/-- It is not the block that is handed out next. -/
theorem older (apart : Apart number contents s) : number < s.heap.next :=
  (Heap.live_of_cell apart.cell).lt_next

/-- The statement reads the fields and the cells, and nothing else. -/
theorem frame (apart : Apart number contents s) (fields : ∀ field, s'.at field = s.at field)
    (cells : s'.heap.cell = s.heap.cell) : Apart number contents s' where
  cell := by rw [cells, apart.cell]
  unnamed field := by
    rw [fields]
    exact apart.unnamed field

/-! ### The four changes -/

theorem hold (apart : Apart number contents s) (field : Field) (held : Block) :
    Apart number contents (s.hold field held) where
  cell := Heap.cell_alloc_of_cell apart.cell
  unnamed other := by
    by_cases same : other = field
    · subst same
      rw [at_hold_self]
      intro named
      exact Nat.ne_of_gt apart.older (Ptr.block.inj named)
    · rw [at_hold_of_ne s held same]
      exact apart.unnamed other

theorem drop (apart : Apart number contents s) (field : Field) :
    Apart number contents (s.drop field) where
  cell := by rw [heap_drop, cell_without s.heap (apart.unnamed field), apart.cell]
  unnamed other := by
    by_cases same : other = field
    · subst same
      rw [at_drop_self]
      exact Ptr.noConfusion
    · rw [at_drop_of_ne s same]
      exact apart.unnamed other

theorem scratch (apart : Apart number contents s) : Apart number contents s.scratch :=
  apart.frame (at_scratch s) rfl

theorem refuse (apart : Apart number contents s) : Apart number contents s.refuse :=
  apart.frame (at_refuse s) rfl

theorem setNull (apart : Apart number contents s) (field : Field) :
    Apart number contents (s.set field .null) where
  cell := by rw [heap_set, apart.cell]
  unnamed other := by
    by_cases same : other = field
    · subst same
      rw [at_set_self]
      exact Ptr.noConfusion
    · rw [at_set_of_ne s .null same]
      exact apart.unnamed other

/-! ### What the MQTT layer does -/

theorem emit (apart : Apart number contents s) (event : Event Dn) :
    Apart number contents (s.emit event) :=
  apart.frame (at_emit s event) rfl

theorem networkConnected (apart : Apart number contents s) (host : Option String)
    (port answer : Int) : Apart number contents (s.networkConnected host port answer) := by
  unfold State.networkConnected
  split
  · exact (apart.frame (at_openSocket s) rfl).emit _
  · exact apart.emit _

theorem mqttConnected (apart : Apart number contents s) (data : ConnectData String Bytes)
    (rc : Int) : Apart number contents (s.mqttConnected data rc) := by
  unfold State.mqttConnected
  split
  · exact (apart.frame (at_setConnected s true) rfl).emit _
  · exact apart.emit _

theorem subscribed (apart : Apart number contents s) (entry : HandlerEntry) (rc : Int) :
    Apart number contents (s.subscribed entry rc) := by
  unfold State.subscribed
  split
  · exact (apart.frame (at_addHandler s entry) rfl).emit _
  · exact apart.emit _

/-! ### The parts of a call -/

theorem released (apart : Apart number contents s) : Apart number contents s.released :=
  (apart.drop .downlinkTopic).drop .key

theorem keyCopied (apart : Apart number contents s) (key : Option String) (served : Bool) :
    Apart number contents (s.keyCopied key served) := by
  cases key with
  | none => exact apart
  | some text =>
    cases served with
    | true => exact apart.hold .key (.str text)
    | false => exact apart.refuse.setNull .key

section Connect

variable (host : Option String) (port : Int) (key : Option String) (o : ConnectOutcome)

theorem reached (apart : Apart number contents s) :
    Apart number contents (s.reached host port key o) :=
  (apart.keyCopied key o.keyCopy).networkConnected host port o.network

theorem afterMqtt (apart : Apart number contents s) :
    Apart number contents (s.afterMqtt protobuf paho id host port key o) :=
  (apart.reached host port key o).scratch.mqttConnected _ _

theorem afterSubscribe (apart : Apart number contents s) :
    Apart number contents (s.afterSubscribe protobuf paho id host port key o) :=
  (((apart.afterMqtt protobuf paho host port key o).scratch.emit _).hold .downlinkTopic
    _).subscribed _ _

end Connect

theorem departed (apart : Apart number contents s) (o : DisconnectOutcome) :
    Apart number contents (s.departed protobuf paho id o) :=
  apart.frame (at_departed protobuf paho o s) (cell_departed protobuf paho o s)

theorem sent (apart : Apart number contents s) (topic : String) (message : MQTTMessage Bytes)
    (rc : Int) :
    Apart number contents (s.sent topic message rc) :=
  apart.scratch.scratch.emit _

end Apart

/-! ### One call -/

theorem ConnectEnd.apart {host : Option String} {port : Int} {key : Option String}
    {o : ConnectOutcome} {rc : Int} (apart : Apart number contents s)
    (ended : ConnectEnd protobuf paho s id host port key o rc s') : Apart number contents s' := by
  cases ended with
  | network => exact (apart.reached host port key o).released
  | mqtt => exact (apart.afterMqtt protobuf paho host port key o).released
  | subscribe =>
    split
    · exact apart.afterSubscribe protobuf paho host port key o
    · exact (apart.afterSubscribe protobuf paho host port key o).released

theorem send_apart {M : Type} {codec : Codec M} {topicOf : String → String} {qos : QoS}
    {message : M} {o : SendOutcome} {rc : Int} (intact : Intact id s)
    (apart : Apart number contents s)
    (returned : (sendMessage paho codec topicOf qos message o).run s = .ok (rc, s')) :
    Apart number contents s' := by
  rcases send_returned paho intact returned with ⟨_, _, rfl⟩ | ⟨_, _, _, rfl⟩
  · exact apart.refuse
  · exact apart.sent _ _ _

/-- **A call that returns leaves the blocks that are not its session's.** -/
theorem exec_apart {rc : Int} (intact : Intact id s) (apart : Apart number contents s)
    (call : Call Up St)
    (returned : (call.exec protobuf paho).run s = .ok (rc, s')) : Apart number contents s' := by
  cases call with
  | connect host port key o =>
    exact (connect_returned protobuf paho host port key o intact returned).apart protobuf paho apart
  | disconnect o =>
    obtain ⟨_, _, rfl⟩ := disconnect_returned protobuf paho intact returned
    exact ((apart.departed protobuf paho o).drop .key).drop .downlinkTopic
  | sendUplink uplink o => exact send_apart paho intact apart returned
  | sendStatus status o => exact send_apart paho intact apart returned

/-! ### `ttngwc_init` and `ttngwc_cleanup` -/

/-- A new session is made of new blocks, whatever the variable held before. -/
theorem initialised_apart (apart : Apart number contents s) (id : String)
    (downlinkHandler : Option Nat) (cbArg : Nat) :
    Apart number contents (s.initialised id downlinkHandler cbArg) where
  cell := Heap.cell_alloc_of_cell (Heap.cell_alloc_of_cell (Heap.cell_alloc_of_cell
    (Heap.cell_alloc_of_cell apart.cell)))
  unnamed field named := by
    have older := apart.older
    cases field <;> first
      | exact Ptr.noConfusion named
      | have same := Ptr.block.inj named
        omega

/-- `ttngwc_cleanup` releases nothing but what the fields name. -/
theorem cleaned_apart (apart : Apart number contents s) :
    s.cleanedHeap.cell number = some contents := by
  have handle : s.handle ≠ .block number := apart.unnamed .handle
  have sendBuffer : s.session.sendBuffer ≠ .block number := apart.unnamed .sendBuffer
  have readBuffer : s.session.readBuffer ≠ .block number := apart.unnamed .readBuffer
  have idCopy : s.session.id ≠ .block number := apart.unnamed .id
  have key : s.session.key ≠ .block number := apart.unnamed .key
  unfold State.cleanedHeap
  rw [cell_without _ handle, cell_without _ sendBuffer, cell_without _ readBuffer,
    cell_without _ idCopy, cell_without _ key, apart.cell]

end GatewayConnector
