/-
**The test router**, `examples/router/main.go`: it publishes a downlink on `test/down` for every
uplink it receives and every four seconds, with a frame counter that it advances after each publish
that succeeded.

`sendDownlink` runs on several goroutines that share the counter without a lock, so its reads and
writes of the counter are separate steps of a `Worker`, and any worker may take the next one. What
the Go libraries do is a parameter: the bytes of a LoRaWAN frame, and the encoding of a message. Go
messages are given by what they put on the wire: a number that is zero and a text that is empty are
left out.
-/

import GatewayConnector.Model.Messages
import Mathlib.Logic.Function.Basic

namespace GatewayConnector

/-- `lorawan.Modulation`. -/
inductive Modulation
  | lora
  | fsk
  deriving DecidableEq, Repr

def Modulation.number : Modulation → Int32
  | .lora => 0
  | .fsk => 1

namespace TestRouter

structure Config where
  m : Modulation
  dr : String := ""
  br : UInt32 := 0
  f : UInt64
  deriving DecidableEq, Repr

def configs : List Config :=
  [{ m := .lora, dr := "SF7BW125", f := 867100000 },
    { m := .lora, dr := "SF8BW125", f := 867300000 },
    { m := .lora, dr := "SF9BW125", f := 869525000 },
    { m := .lora, dr := "SF10BW125", f := 867700000 },
    { m := .lora, dr := "SF11BW125", f := 867900000 },
    { m := .lora, dr := "SF12BW125", f := 867500000 },
    { m := .fsk, br := 50000, f := 868800000 },
    { m := .lora, dr := "SF7BW250", f := 868300000 },
    { m := .lora, dr := "SF10BW125", f := 915200000 },
    { m := .lora, dr := "SF9BW125", f := 915400000 },
    { m := .lora, dr := "SF8BW125", f := 915600000 },
    { m := .lora, dr := "SF7BW125", f := 915800000 },
    { m := .lora, dr := "SF12BW500", f := 915900000 },
    { m := .lora, dr := "SF11BW500", f := 923300000 },
    { m := .lora, dr := "SF10BW500", f := 923900000 },
    { m := .lora, dr := "SF9BW500", f := 923300000 },
    { m := .lora, dr := "SF8BW500", f := 923900000 },
    { m := .lora, dr := "SF7BW500", f := 923300000 }]

def payloads : List String :=
  ["apple", "apricot", "avocado", "banana", "berry", "blackberry", "blood orange", "blueberry",
    "boysenberry", "breadfruit"]

/-- A field of a Go message on the wire: nothing if it has its zero value. -/
def unlessZero {α : Type} [DecidableEq α] (zero value : α) : Option α :=
  if value = zero then none else some value

/-- What is drawn for one downlink. -/
structure Draw where
  config : Fin configs.length
  rfChain : Fin 2
  payload : Fin payloads.length
  deriving DecidableEq, Repr

def Draw.chosen (draw : Draw) : Config := configs.get draw.config

/-- `makeConfig`; it reads the counter for the protocol configuration and again for the timestamp. -/
def makeConfig (fCnt stamp : UInt32) (draw : Draw) :
    ProtocolTxConfiguration × GatewayTxConfiguration :=
  let config := draw.chosen
  ({ lorawan := some {
      modulation := unlessZero 0 config.m.number
      dataRate := unlessZero "" config.dr
      codingRate := some "4/5"
      fCnt := unlessZero 0 fCnt } },
    { timestamp := unlessZero 0 (10000 + stamp * 10)
      rfChain := unlessZero 0 (UInt32.ofNat draw.rfChain)
      frequency := unlessZero 0 config.f
      polarizationInversion := unlessZero false (config.m == .lora)
      frequencyDeviation := unlessZero 0 (config.br / 2) })

/-- The libraries: `PHYPayload().MarshalBinary()` of the frame with a counter and a payload, and
`proto.Marshal`, which may fail. -/
structure Libraries where
  phyPayload : UInt32 → String → Bytes
  marshal : RouterDownlinkMessage → Option Bytes

variable (go : Libraries)

/-- What one downlink is made of: the three values that were read of the counter, and the draw. -/
structure Recipe where
  frame : UInt32
  fCnt : UInt32
  stamp : UInt32
  draw : Draw
  deriving DecidableEq, Repr

/-- `makeDownlink`. -/
def makeDownlink (recipe : Recipe) : RouterDownlinkMessage :=
  let bytes := go.phyPayload recipe.frame (payloads.get recipe.draw.payload)
  let (protoConfig, gatewayConfig) := makeConfig recipe.fCnt recipe.stamp recipe.draw
  { payload := unlessZero [] bytes
    protocolConfiguration := some protoConfig
    gatewayConfiguration := some gatewayConfig }

/-- Where a goroutine is in `sendDownlink`. -/
inductive Worker
  | idle
  | framed (draw : Draw) (frame : UInt32)
  | configured (draw : Draw) (frame fCnt : UInt32)
  | made (recipe : Recipe)
  -- `fcnt++` reads, and then writes
  | published
  | counted (value : UInt32)
  deriving DecidableEq, Repr

/-- A downlink that reached the broker, and whether its publish succeeded. -/
structure Sent where
  recipe : Recipe
  buf : Bytes
  succeeded : Bool
  deriving DecidableEq, Repr

structure Router where
  fcnt : UInt32
  workers : Nat → Worker
  sent : List Sent

def start : Router := ⟨0, fun _ => .idle, []⟩

/-- A step of one worker, with what it may need: a draw, whether the publish reports an error, and
whether the downlink reached the broker if it does. -/
structure Step where
  worker : Nat
  draw : Draw
  error : Bool
  reached : Bool
  deriving DecidableEq, Repr

/-- A worker moves on. -/
def Router.move (router : Router) (worker : Nat) (place : Worker) : Router :=
  { router with workers := Function.update router.workers worker place }

/-- `sendDownlink`, one step of it. -/
def sendDownlink (router : Router) (step : Step) : Router :=
  match router.workers step.worker with
  | .idle => router.move step.worker (.framed step.draw router.fcnt)
  | .framed draw frame => router.move step.worker (.configured draw frame router.fcnt)
  | .configured draw frame fCnt => router.move step.worker (.made ⟨frame, fCnt, router.fcnt, draw⟩)
  | .made recipe =>
    match go.marshal (makeDownlink go recipe) with
    | none => router.move step.worker .idle
    | some buf =>
      if step.error then
        { router.move step.worker .idle with
          sent := if step.reached then router.sent ++ [⟨recipe, buf, false⟩] else router.sent }
      else
        { router.move step.worker .published with sent := router.sent ++ [⟨recipe, buf, true⟩] }
  | .published => router.move step.worker (.counted router.fcnt)
  | .counted value => { router.move step.worker .idle with fcnt := value + 1 }

/-- Any steps of any workers. -/
def run (steps : List Step) : Router := steps.foldl (sendDownlink go) start

end TestRouter

end GatewayConnector
