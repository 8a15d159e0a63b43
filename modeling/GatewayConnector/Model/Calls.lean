/-
**Runs of the API.** A `Call` is one call of `ttngwc_connect`, `ttngwc_disconnect`,
`ttngwc_send_uplink` or `ttngwc_send_status` with its arguments and the outcomes of its steps. A run
starts with `ttngwc_init` and issues any finite list of calls, one after the other.
-/

import GatewayConnector.Model.Connector

namespace GatewayConnector

open Lib

/-- One call of the API on a session. -/
inductive Call (Up St : Type)
  | connect (host : Option String) (port : Int) (key : Option String) (o : ConnectOutcome)
  | disconnect (o : DisconnectOutcome)
  | sendUplink (uplink : Up) (o : SendOutcome)
  | sendStatus (status : St) (o : SendOutcome)
  deriving DecidableEq, Repr

section Runs

variable {Up St Dn : Type} (protobuf : Protobuf Up St Dn) (paho : Paho)

/-- Make one call; the reply is its return code. -/
def Call.exec : Call Up St → Code Dn Int
  | .connect host port key o => ttngwcConnect protobuf paho host port key o
  | .disconnect o => ttngwcDisconnect protobuf paho o
  | .sendUplink uplink o => ttngwcSendUplink protobuf paho uplink o
  | .sendStatus status o => ttngwcSendStatus protobuf paho status o

/-- A function that is given the handle of the session and follows it. -/
def followed {α : Type} (function : Code Dn α) : Code Dn α := do
  let s ← get
  let _ ← deref s.handle
  function

/-- Make the calls one after the other. -/
abbrev runCalls (calls : List (Call Up St)) : Code Dn (List Int) :=
  runAll (Call.exec protobuf paho) calls

/-- What was appended to the log between two states. -/
def newEvents (s s' : State Dn) : List (Event Dn) := s'.log.drop s.log.length

theorem newEvents_append {s s' : State Dn} {events : List (Event Dn)}
    (appended : s'.log = s.log ++ events) : newEvents s s' = events := by
  unfold newEvents
  rw [appended, List.drop_left]

/-- Every allocation of `ttngwc_init` is served. -/
def InitOutcome.served : InitOutcome := ⟨true, true, true, true⟩

/-- **The allocations of a call are served.** -/
def Call.Served : Call Up St → Prop
  | .connect _ _ _ o =>
    o.keyCopy = true ∧ o.willPayload = true ∧ o.announcement = true ∧ o.downlinkTopic = true
  | .disconnect o => o.payload = true
  | .sendUplink _ o => o.payload = true ∧ o.topic = true
  | .sendStatus _ o => o.payload = true ∧ o.topic = true

instance (call : Call Up St) : Decidable call.Served := by
  cases call <;> unfold Call.Served <;> infer_instance

end Runs

end GatewayConnector
