/-
**The Harmony demo**, `examples/harmony/demo/firmware/src/app.c`: a state machine that the firmware
polls for ever. `APP_Tasks` creates the session, then tries once per poll to connect, and does
nothing once that returned `0`. The MQTT client has a task of its own, so messages arrive between
any two polls; what it does with them is `deliver`.

`appData.ttn` is the handle of the session and `ttn` here everything that is reached through it.
Nothing in the repository sets `APP_STATE_RESET`.
-/

import GatewayConnector.Model.Calls

namespace GatewayConnector

open Lib

/-- `APP_STATES`. -/
inductive AppStates
  | init
  | reset
  | connect
  | serviceTasks
  deriving DecidableEq, Repr

/-- `APP_DATA`. -/
structure AppData (Dn : Type) where
  state : AppStates
  ttn : State Dn

/-- `handleDownlink`, as a function pointer; its body is empty. -/
def handleDownlink : Nat := 1

/-- The steps that one poll may make. -/
structure TasksOutcome where
  init : InitOutcome
  connect : ConnectOutcome
  deriving DecidableEq, Repr

variable {Up St Dn : Type} (protobuf : Protobuf Up St Dn) (paho : Paho)

/-- `appData`, zero at first, after `APP_Initialize`. -/
def appInitialize : AppData Dn := ⟨.init, .boot⟩

/-- Run a function of the connector on the demo's variable. -/
def onTtn {α : Type} (function : Code Dn α) : Exec Fault (AppData Dn) α :=
  Exec.focus AppData.ttn (fun app s => { app with ttn := s }) function

/-- `appData.state = state;` -/
def moveTo (state : AppStates) : Exec Fault (AppData Dn) Unit :=
  modify fun app => { app with state }

/-- `APP_Tasks`. -/
def appTasks (o : TasksOutcome) : Exec Fault (AppData Dn) Unit := do
  let app ← get
  match app.state with
  | .init => do
    let _ ← onTtn (ttngwcInit "test" (some handleDownlink) 0 o.init)
    -- `appInitialized` is always true
    moveTo .connect
  | .reset => do
    onTtn (followed ttngwcCleanup)
    onTtn (modify fun s => { s with handle := .null })
    moveTo .init
  | .connect => do
    let err ← onTtn (followed
      (ttngwcConnect protobuf paho (some "192.168.1.100") 1883 none o.connect))
    if err = 0 then moveTo .serviceTasks else pure ()
  | .serviceTasks => pure ()

/-- What can happen next: a poll, or a message that reaches the client. -/
inductive AppStep
  | tasks (o : TasksOutcome)
  | arrival (topic : String) (payload : Bytes)
  deriving DecidableEq, Repr

def AppStep.exec : AppStep → Exec Fault (AppData Dn) Unit
  | .tasks o => appTasks protobuf paho o
  | .arrival topic payload => onTtn (deliver protobuf paho topic payload)

end GatewayConnector
