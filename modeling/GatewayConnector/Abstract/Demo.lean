/-
**The Harmony demo as the network sees it.**

A `Demo` is the state of `APP_Tasks` and the view of its session. It waits for the first poll, tries
one connect per poll, and once a connect returned `0` only passes on what arrives. `APP_STATE_RESET`
is not part of it.

`Proof/Harmony.lean` shows that the code, as long as its allocations are served, is this machine.
-/

import GatewayConnector.Abstract.View
import GatewayConnector.Lib.Machine
import GatewayConnector.Model.Harmony
import GatewayConnector.Properties.Delivery

namespace GatewayConnector

open Lib

structure Demo where
  state : AppStates
  view : View
  deriving DecidableEq, Repr

/-- At the start of the firmware. -/
def Demo.start : Demo := ⟨.init, .fresh⟩

/-- The allocations of a poll are served. -/
def TasksOutcome.Served (o : TasksOutcome) : Prop :=
  o.init = .served ∧ o.connect.keyCopy = true ∧ o.connect.willPayload = true ∧
    o.connect.announcement = true ∧ o.connect.downlinkTopic = true

/-- The allocations of a step are served. -/
def AppStep.Served : AppStep → Prop
  | .tasks o => o.Served
  | .arrival _ _ => True

instance : (step : AppStep) → Decidable step.Served
  | .tasks _ => inferInstanceAs (Decidable (_ ∧ _))
  | .arrival _ _ => inferInstanceAs (Decidable True)

variable {Up St Dn : Type} (protobuf : Protobuf Up St Dn) (paho : Paho)

/-- What is done about a message, by the topic it arrives on. -/
def handedOn (topic : String) (payload : Bytes) : List (Event Dn) :=
  if paho.topicMatched (downTopic "test") topic = true then
    delivery protobuf handleDownlink 0 payload
  else []

namespace Demo

/-- The demo after a step. -/
def next (demo : Demo) : AppStep → Demo
  | .tasks o => match demo.state with
    | .init => ⟨.connect, .fresh⟩
    | .connect =>
      ⟨if demo.view.connectReply paho o.connect = SUCCESS then .serviceTasks else .connect,
        demo.view.connect paho none o.connect⟩
    | .reset | .serviceTasks => demo
  | .arrival _ _ => demo

/-- What a step logs: the operations of a connect, or one delivery per registered handler. -/
def events (demo : Demo) : AppStep → List (Event Dn)
  | .tasks o => match demo.state with
    | .connect =>
      demo.view.connectEvents protobuf paho "test" (some "192.168.1.100") 1883 none o.connect
    | .init | .reset | .serviceTasks => []
  | .arrival topic payload =>
    (List.replicate demo.view.handlers (handedOn protobuf paho topic payload)).flatten

end Demo

/-- **The demo.** -/
def demoMachine : Machine Demo AppStep (List (Event Dn)) where
  next := Demo.next paho
  output := Demo.events protobuf paho
  Allows _ step := step.Served

end GatewayConnector
