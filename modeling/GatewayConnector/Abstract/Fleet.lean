/-
**A process as its caller sees it.**

A `Member` is a session without its memory: its id, its callback and argument, the filters of its
handler table, and its view. A variable of the caller is a machine that is moved by the requests
through it, and a process is the family of these machines, one for each variable, although all its
sessions live in one heap.

`Proof/Fleet.lean` shows that the code, as long as its allocations are served, is this family.
-/

import GatewayConnector.Abstract.View
import GatewayConnector.Lib.Family
import GatewayConnector.Model.Process

namespace GatewayConnector

open Lib

/-- A session without its memory. -/
structure Member where
  id : String
  downlinkHandler : Option Nat
  cbArg : Nat
  topicFilters : List String
  view : View
  deriving DecidableEq, Repr

variable {Up St Dn : Type} (protobuf : Protobuf Up St Dn) (paho : Paho)

namespace Member

/-- A session just created. -/
def created (id : String) (downlinkHandler : Option Nat) (cbArg : Nat) : Member :=
  ⟨id, downlinkHandler, cbArg, [], .fresh⟩

/-- A connect that returns `0` registers a filter. -/
def registered (m : Member) : Call Up St → List String
  | .connect _ _ _ o => if m.view.connectReply paho o = SUCCESS then [downTopic m.id] else []
  | _ => []

/-- The session after a call. -/
def after (m : Member) (made : Call Up St) : Member :=
  { m with
    topicFilters := m.topicFilters ++ m.registered paho made
    view := m.view.next paho made }

end Member

/-- No entry of the handler table outlived its topic: there is none, or one and the session still
holds a topic. The reference of an entry whose topic was released points at memory that another
session may use by then. -/
def View.Listening (v : View) : Prop := v.handlers = 0 ∨ v.handlers = 1 ∧ v.topic = true

instance (v : View) : Decidable v.Listening := inferInstanceAs (Decidable (_ ∨ _))

/-- The variable a request is made through. -/
def Request.variable : Request Up St → Nat
  | .init session _ _ _ => session
  | .call session _ => session
  | .arrival session _ _ => session
  | .cleanup session => session

/-- **What becomes of a variable.** A call moves its session; `ttngwc_init` starts a new one,
whatever the variable held, and `ttngwc_cleanup` ends it. The output is the return code and what was
asked of the MQTT layer or handed over. -/
def memberMachine : Machine (Option Member) (Request Up St) (Option Int × List (Event Dn)) where
  next
    | _, .init _ id downlinkHandler cbArg => some (.created id downlinkHandler cbArg)
    | member, .call _ made => member.map fun m => m.after paho made
    | member, .arrival _ _ _ => member
    | _, .cleanup _ => none
  output member request := match request, member with
    | .call _ made, some m => (some (m.view.reply paho made), m.view.events protobuf paho m.id made)
    | .arrival _ topic payload, some m =>
      (none, deliveries protobuf paho m.topicFilters m.downlinkHandler m.cbArg topic payload)
    | _, _ => (none, [])
  Allows
    | _, .init _ _ _ _ => True
    | member, .call _ made => member ≠ none ∧ made.Served
    | member, .arrival _ _ _ => ∃ m ∈ member, m.view.Listening
    | member, .cleanup _ => member ≠ none

instance decidableAllows (member : Option Member) (request : Request Up St) :
    Decidable ((memberMachine protobuf paho).Allows member request) :=
  match request with
  | .init _ _ _ _ => isTrue trivial
  | .call _ made => inferInstanceAs (Decidable (member ≠ none ∧ made.Served))
  | .arrival _ _ _ => inferInstanceAs (Decidable (∃ m ∈ member, m.view.Listening))
  | .cleanup _ => inferInstanceAs (Decidable (member ≠ none))

/-- **The fleet**: one such machine for each variable. -/
abbrev fleetMachine :
    Machine (Nat → Option Member) (Request Up St) (Option Int × List (Event Dn)) :=
  (memberMachine protobuf paho).family Request.variable

end GatewayConnector
