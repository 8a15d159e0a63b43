/-
**The messages of the programs that come with the connector**, `src/test.c` and
`examples/router/main.go`: the fields of `router.pb-c`, `gateway.pb-c`, `protocol.pb-c` and
`lorawan.pb-c` that these set or read. A field that is not set is none, as is a message behind a NULL
pointer.
-/

import GatewayConnector.Model.Types

namespace GatewayConnector

/-- `Lorawan__Metadata`. -/
structure LorawanMetadata where
  modulation : Option Int32 := none
  dataRate : Option String := none
  codingRate : Option String := none
  fCnt : Option UInt32 := none
  deriving DecidableEq, Repr

/-- `Lorawan__TxConfiguration`. -/
structure LorawanTxConfiguration where
  modulation : Option Int32 := none
  dataRate : Option String := none
  bitRate : Option UInt32 := none
  codingRate : Option String := none
  fCnt : Option UInt32 := none
  deriving DecidableEq, Repr

/-- `Protocol__RxMetadata`; its protocol is LoRaWAN or not set. -/
structure ProtocolRxMetadata where
  lorawan : Option LorawanMetadata := none
  deriving DecidableEq, Repr

/-- `Protocol__TxConfiguration`; its protocol is LoRaWAN or not set. -/
structure ProtocolTxConfiguration where
  lorawan : Option LorawanTxConfiguration := none
  deriving DecidableEq, Repr

/-- `Gateway__RxMetadata`. -/
structure GatewayRxMetadata where
  timestamp : Option UInt32 := none
  rfChain : Option UInt32 := none
  frequency : Option UInt64 := none
  deriving DecidableEq, Repr

/-- `Gateway__TxConfiguration`. -/
structure GatewayTxConfiguration where
  timestamp : Option UInt32 := none
  rfChain : Option UInt32 := none
  frequency : Option UInt64 := none
  power : Option Int32 := none
  polarizationInversion : Option Bool := none
  frequencyDeviation : Option UInt32 := none
  deriving DecidableEq, Repr

/-- `Gateway__Status`. -/
structure GatewayStatus where
  time : Option Int64 := none
  deriving DecidableEq, Repr

/-- `Router__UplinkMessage`. -/
structure RouterUplinkMessage where
  payload : Option Bytes := none
  protocolMetadata : Option ProtocolRxMetadata := none
  gatewayMetadata : Option GatewayRxMetadata := none
  deriving DecidableEq, Repr

/-- `Router__DownlinkMessage`. -/
structure RouterDownlinkMessage where
  payload : Option Bytes := none
  protocolConfiguration : Option ProtocolTxConfiguration := none
  gatewayConfiguration : Option GatewayTxConfiguration := none
  deriving DecidableEq, Repr

/-- The encodings of these messages. -/
abbrev RouterProtobuf := Protobuf RouterUplinkMessage GatewayStatus RouterDownlinkMessage

end GatewayConnector
