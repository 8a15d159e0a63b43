/-
**The test program**, `src/test.c`: it connects the gateway `test` to a local broker, sends a status
and an uplink per round until it is stopped, and prints the downlinks that arrive meanwhile.

A run is given by its outcomes: those of the calls, one `Round` for each time the loop is entered,
and the messages that reach the client between two calls. What the program prints is kept line by
line. `srand`, `rand` and `sleep` decide how long a round takes, and `stop` when the loop ends.
-/

import GatewayConnector.Model.Calls
import GatewayConnector.Model.Messages

namespace GatewayConnector

open Lib

/-- `LORAWAN__MODULATION__LORA`. -/
def lorawanModulationLora : Int32 := 0

/-- The connector as the program reaches it, and the lines printed so far. -/
structure TestProgram where
  ttn : State RouterDownlinkMessage
  out : List String

namespace TestProgram

def start : TestProgram := ⟨.boot, []⟩

/-- Print a line. -/
def printf (line : String) : Exec Fault TestProgram Unit :=
  modify fun p => { p with out := p.out ++ [line] }

/-- Run a function of the connector. -/
def onTtn {α : Type} (function : Code RouterDownlinkMessage α) : Exec Fault TestProgram α :=
  Exec.focus TestProgram.ttn (fun p s => { p with ttn := s }) function

/-! ### `print_downlink` -/

/-- The argument of `%s`; NULL is not a string. -/
def string : Option String → Exec Fault TestProgram String
  | some text => pure text
  | none => Exec.fault .nullPointer

/-- A pointer to a message, followed. -/
def message {M : Type} : Option M → Exec Fault TestProgram M
  | some contents => pure contents
  | none => Exec.fault .nullPointer

/-- `%d` of an unsigned argument. -/
def signed (value : UInt32) : String := toString value.toInt32.toInt

/-- `print_downlink`. A field that is not set is read as its default, `0`. -/
def printDownlink (msg : RouterDownlinkMessage) : Exec Fault TestProgram Unit :=
  match msg.payload with
  | none => pure ()
  | some payload => do
    printf ("down: have " ++ toString payload.length ++ " bytes downlink")
    let configuration ← message msg.protocolConfiguration
    match configuration.lorawan with
    | some lora => do
      let dataRate ← string lora.dataRate
      let codingRate ← string lora.codingRate
      printf ("down: modulation: " ++ toString (lora.modulation.getD 0).toInt ++ ", data rate: " ++
        dataRate ++ ", bit rate: " ++ signed (lora.bitRate.getD 0) ++ ", coding rate: " ++
        codingRate ++ ", fcnt: " ++ signed (lora.fCnt.getD 0))
      let gtw ← message msg.gatewayConfiguration
      printf ("down: timestamp: " ++ signed (gtw.timestamp.getD 0) ++ ", rf chain: " ++
        signed (gtw.rfChain.getD 0) ++ ", frequency: " ++ toString (gtw.frequency.getD 0) ++
        ", power: " ++ toString (gtw.power.getD 0).toInt ++ ", polarization inversion: " ++
        (if gtw.polarizationInversion.getD false then "1" else "0") ++ ", frequency deviation: " ++
        signed (gtw.frequencyDeviation.getD 0))
    | none => printf "down: invalid protocol 0"

/-- `&print_downlink`. -/
def printDownlinkPointer : Nat := 2

/-- The calls of `print_downlink` that the connector made. -/
def printAll : List (Event RouterDownlinkMessage) → Exec Fault TestProgram Unit
  | [] => pure ()
  | event :: rest => do
    match event with
    | .downlinkHandler _ downlink _ => printDownlink downlink
    | _ => pure ()
    printAll rest

/-- What reaches the client. -/
structure Arrival where
  topic : String
  payload : Bytes
  deriving DecidableEq, Repr

variable (protobuf : RouterProtobuf) (paho : Paho)

/-- A message reaches the client; what it is handed to is run. -/
def arrive (arrival : Arrival) : Exec Fault TestProgram Unit := do
  let before ← get
  onTtn (deliver protobuf paho arrival.topic arrival.payload)
  let after ← get
  printAll (newEvents before.ttn after.ttn)

def arriveAll : List Arrival → Exec Fault TestProgram Unit
  | [] => pure ()
  | arrival :: rest => do
    arrive protobuf paho arrival
    arriveAll rest

/-! ### `main` -/

/-- The status of round `i`. -/
def statusOf (i : Nat) : GatewayStatus := { time := some (Int64.ofNat i) }

/-- The uplink of round `i`; `10000 + i * 100` is a C `int`. -/
def uplinkOf (i : Nat) : RouterUplinkMessage where
  payload := some [0x1, 0x2, 0x3, 0x4, 0x5]
  protocolMetadata := some { lorawan := some {
    modulation := some lorawanModulationLora
    dataRate := some "SF9BW250"
    codingRate := some "4/5"
    fCnt := some (UInt32.ofNat i) } }
  gatewayMetadata := some {
    timestamp := some (UInt32.ofNat (10000 + i * 100))
    rfChain := some 5
    frequency := some 867100000 }

/-- The last round in which `10000 + i * 100` does not overflow. -/
def roundsMax : Nat := 21474736

/-- One round of the loop: its two sends, and what arrives between and after them. -/
structure Round where
  status : SendOutcome
  between : List Arrival
  uplink : SendOutcome
  asleep : List Arrival
  deriving DecidableEq, Repr

/-- `if (err) printf(...); else printf(...);` after a send. -/
def report (err : Int) (failed sent : String) : Exec Fault TestProgram Unit :=
  if err ≠ 0 then printf (failed ++ toString err) else printf sent

/-- The loop, from the round after `i` on. -/
def loop (i : Nat) : List Round → Exec Fault TestProgram Unit
  | [] => pure ()
  | round :: rest => do
    let i := i + 1
    let err ← onTtn (followed (ttngwcSendStatus protobuf paho (statusOf i) round.status))
    report err "status: send failed: " ("status: sent with time " ++ toString i)
    arriveAll protobuf paho round.between
    let err ← onTtn (followed (ttngwcSendUplink protobuf paho (uplinkOf i) round.uplink))
    report err "up: send failed: " ("up: sent with timestamp " ++ toString i)
    arriveAll protobuf paho round.asleep
    loop i rest

/-- What happens in a run, which is stopped before the counter of the rounds overflows. -/
structure Course where
  init : InitOutcome
  connect : ConnectOutcome
  connected : List Arrival
  rounds : List Round
  inRange : rounds.length ≤ roundsMax
  disconnect : DisconnectOutcome

/-- `main`. -/
def main (course : Course) : Exec Fault TestProgram Int := do
  let ttn ← onTtn (ttngwcInit "test" (some printDownlinkPointer) 0 course.init)
  if ttn = .null then do
    printf "failed to initialize TTN gateway"
    pure (-1)
  else do
    printf "connecting..."
    let err ← onTtn (followed
      (ttngwcConnect protobuf paho (some "localhost") 1883 none course.connect))
    if err ≠ 0 then do
      printf ("connect failed: " ++ toString err)
      onTtn (followed ttngwcCleanup)
      pure err
    else do
      printf "connected"
      arriveAll protobuf paho course.connected
      loop protobuf paho 0 course.rounds
      printf "disconnecting"
      let _ ← onTtn (followed (ttngwcDisconnect protobuf paho course.disconnect))
      onTtn (followed ttngwcCleanup)
      pure 0

end TestProgram

end GatewayConnector
