/-
**One MQTT layer and one encoding**, to run the connector on concrete inputs.

`embeddedPaho` is a client with five handler slots that refuses every operation in the wrong state
and, when no slot is free, reports the granted quality of service. `wireProtobuf` encodes the
connect and disconnect messages as `types.pb-c.c` describes them, fields `1` and `3`, both strings;
uplinks, statuses and downlinks are given by their encodings, and a downlink decodes when it is
empty or has its payload, field `1`, as only field. `routerProtobuf` encodes the messages of the test
programs and tells a downlink by its encoding. `connectCall` and `disconnectCall` are calls with all
allocations served.
-/

import GatewayConnector.Lib.Wire
import GatewayConnector.Model.Calls
import GatewayConnector.Model.Messages

namespace GatewayConnector

open Lib

def embeddedPaho : Paho where
  connectRc connected answer := if connected then FAILURE else answer
  publishRc connected answer := if connected then answer else FAILURE
  subscribeRc connected handlers answer :=
    if connected = false then FAILURE
    else if answer = SUCCESS ∧ 5 ≤ handlers then 1
    else answer
  topicMatched filter topic := filter == topic

/-- The bytes of a string. -/
def utf8 (text : String) : Bytes := text.toUTF8.data.toList

theorem utf8_injective {first second : String} (same : utf8 first = utf8 second) :
    first = second :=
  String.toByteArray_inj.mp (ByteArray.ext (Array.toList_inj.mp same))

def wireConnect : Codec ConnectMessage where
  getPackedSize message := (Wire.fields (utf8 message.id) (message.key.map utf8)).length
  pack message := Wire.fields (utf8 message.id) (message.key.map utf8)
  agree _ := rfl

def wireDisconnect : Codec DisconnectMessage where
  getPackedSize message := (Wire.fields (utf8 message.id) (message.key.map utf8)).length
  pack message := Wire.fields (utf8 message.id) (message.key.map utf8)
  agree _ := rfl

/-- A message given by its encoding. -/
def encoded : Codec Bytes where
  getPackedSize := List.length
  pack bytes := bytes
  agree _ := rfl

def wireProtobuf : Protobuf Bytes Bytes Bytes where
  connectMessage := wireConnect
  disconnectMessage := wireDisconnect
  uplinkMessage := encoded
  status := encoded
  unpackDownlink data :=
    if data = [] then some data
    else match Wire.readField 1 data with
      | some (_, []) => some data
      | _ => none

/-- The connect messages of different ids or keys differ. -/
theorem wireConnect_injective : Function.Injective wireConnect.pack := by
  intro first second same
  obtain ⟨ids, keys⟩ := Wire.fields_injective same
  obtain ⟨id, key⟩ := first
  obtain ⟨id', key'⟩ := second
  obtain rfl := utf8_injective ids
  obtain rfl := Option.map_injective (fun _ _ => utf8_injective) keys
  rfl

/-- The disconnect messages of different ids or keys differ. -/
theorem wireDisconnect_injective : Function.Injective wireDisconnect.pack := by
  intro first second same
  obtain ⟨ids, keys⟩ := Wire.fields_injective same
  obtain ⟨id, key⟩ := first
  obtain ⟨id', key'⟩ := second
  obtain rfl := utf8_injective ids
  obtain rfl := Option.map_injective (fun _ _ => utf8_injective) keys
  rfl

/-! ### The messages of the test programs -/

/-- A field that may not be set. -/
def whenSet {α : Type} (write : α → Bytes) : Option α → Bytes
  | none => []
  | some value => write value

/-- An `int32` field, sign-extended to 64 bits. -/
def int32Field (tag : Nat) : Option Int32 → Bytes :=
  whenSet fun value => Wire.numberField tag value.toInt64.toUInt64.toNat

def uint32Field (tag : Nat) : Option UInt32 → Bytes :=
  whenSet fun value => Wire.numberField tag value.toNat

def uint64Field (tag : Nat) : Option UInt64 → Bytes :=
  whenSet fun value => Wire.numberField tag value.toNat

def boolField (tag : Nat) : Option Bool → Bytes :=
  whenSet fun value => Wire.numberField tag value.toNat

def bytesField (tag : Nat) : Option Bytes → Bytes := whenSet (Wire.field tag)

def stringField (tag : Nat) (text : Option String) : Bytes := bytesField tag (text.map utf8)

def LorawanMetadata.encode (m : LorawanMetadata) : Bytes :=
  int32Field 11 m.modulation ++ stringField 12 m.dataRate ++ stringField 14 m.codingRate ++
    uint32Field 15 m.fCnt

def LorawanTxConfiguration.encode (m : LorawanTxConfiguration) : Bytes :=
  int32Field 11 m.modulation ++ stringField 12 m.dataRate ++ uint32Field 13 m.bitRate ++
    stringField 14 m.codingRate ++ uint32Field 15 m.fCnt

def ProtocolRxMetadata.encode (m : ProtocolRxMetadata) : Bytes :=
  bytesField 1 (m.lorawan.map LorawanMetadata.encode)

def ProtocolTxConfiguration.encode (m : ProtocolTxConfiguration) : Bytes :=
  bytesField 1 (m.lorawan.map LorawanTxConfiguration.encode)

def GatewayRxMetadata.encode (m : GatewayRxMetadata) : Bytes :=
  uint32Field 11 m.timestamp ++ uint32Field 21 m.rfChain ++ uint64Field 31 m.frequency

def GatewayTxConfiguration.encode (m : GatewayTxConfiguration) : Bytes :=
  uint32Field 11 m.timestamp ++ uint32Field 21 m.rfChain ++ uint64Field 22 m.frequency ++
    int32Field 23 m.power ++ boolField 31 m.polarizationInversion ++
    uint32Field 32 m.frequencyDeviation

def GatewayStatus.encode (m : GatewayStatus) : Bytes :=
  uint64Field 2 (m.time.map Int64.toUInt64)

def RouterUplinkMessage.encode (m : RouterUplinkMessage) : Bytes :=
  bytesField 1 m.payload ++ bytesField 11 (m.protocolMetadata.map ProtocolRxMetadata.encode) ++
    bytesField 12 (m.gatewayMetadata.map GatewayRxMetadata.encode)

def RouterDownlinkMessage.encode (m : RouterDownlinkMessage) : Bytes :=
  bytesField 1 m.payload ++
    bytesField 11 (m.protocolConfiguration.map ProtocolTxConfiguration.encode) ++
    bytesField 12 (m.gatewayConfiguration.map GatewayTxConfiguration.encode)

/-- The encodings of the test programs, when no downlinks are under way but these. -/
def routerProtobuf (downlinks : List RouterDownlinkMessage) : RouterProtobuf where
  connectMessage := wireConnect
  disconnectMessage := wireDisconnect
  uplinkMessage := ⟨fun message => message.encode.length, RouterUplinkMessage.encode, fun _ => rfl⟩
  status := ⟨fun message => message.encode.length, GatewayStatus.encode, fun _ => rfl⟩
  unpackDownlink data := downlinks.find? fun downlink => downlink.encode == data

theorem routerProtobuf_unpack (downlink : RouterDownlinkMessage) :
    (routerProtobuf [downlink]).unpackDownlink downlink.encode = some downlink := by
  simp [routerProtobuf]

/-! ### Calls -/

/-- A connect to a broker on the default port, with the answers of its four steps. -/
def connectCall (key : Option String) (network mqtt publish subscribe : Int) : Call Bytes Bytes :=
  .connect (some "localhost") 1883 key ⟨true, true, true, true, network, mqtt, publish, subscribe⟩

def disconnectCall (publish mqtt : Int) : Call Bytes Bytes := .disconnect ⟨true, publish, mqtt⟩

theorem connectCall_served (key : Option String) (network mqtt publish subscribe : Int) :
    (connectCall key network mqtt publish subscribe).Served :=
  ⟨rfl, rfl, rfl, rfl⟩

theorem disconnectCall_served (publish mqtt : Int) : (disconnectCall publish mqtt).Served := rfl

end GatewayConnector
