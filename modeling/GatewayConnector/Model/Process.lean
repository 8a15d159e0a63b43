/-
**Several sessions in one process.** They share the heap, the sockets and the log, and each is
reached through a variable of the caller, numbered by `session`. A `Request` is a call of the API
through one of these variables, or the arrival of a message at the client of its session; a `Send` is
one of the two sends.

`ttngwc_init` stores a new handle in its variable, whatever that held, and `ttngwc_cleanup` leaves
the variable without a session. Every other request follows the handle first.
-/

import GatewayConnector.Model.Calls
import Mathlib.Logic.Function.Basic

namespace GatewayConnector

open Lib

/-- A variable of the caller: the id its session was created with, none when it has no session, the
handle and the session behind it. -/
structure Slot where
  id : Option String
  handle : Ptr
  session : Session
  deriving DecidableEq, Repr

def Slot.vacant : Slot := ⟨none, .null, .zero⟩

structure Process (Dn : Type) where
  heap : Heap Block
  refused : Nat
  sockets : Heap Unit
  log : List (Event Dn)
  slots : Nat → Slot

/-- Before the first `ttngwc_init`. -/
def Process.boot {Dn : Type} : Process Dn where
  heap := .empty
  refused := 0
  sockets := .empty
  log := []
  slots _ := .vacant

section Process

variable {Up St Dn : Type} (protobuf : Protobuf Up St Dn) (paho : Paho)

/-- What a call on one session can read or change. -/
def Process.state (p : Process Dn) (session : Nat) : State Dn where
  heap := p.heap
  refused := p.refused
  sockets := p.sockets
  handle := (p.slots session).handle
  session := (p.slots session).session
  log := p.log

/-- Put back what a call left, with the variable as it is from then on. -/
def Process.store (p : Process Dn) (session : Nat) (slot : Slot) (s : State Dn) : Process Dn where
  heap := s.heap
  refused := s.refused
  sockets := s.sockets
  log := s.log
  slots := Function.update p.slots session slot

/-- Leave a variable without a session. -/
def Process.vacate (p : Process Dn) (session : Nat) : Process Dn :=
  { p with slots := Function.update p.slots session .vacant }

/-- A variable that keeps its session. -/
def Slot.keep (slot : Slot) (s : State Dn) : Slot := ⟨slot.id, s.handle, s.session⟩

/-- Follow the handle of a session and run a function on it. -/
def onSession {α : Type} (session : Nat) (function : Code Dn α) : Exec Fault (Process Dn) α :=
  Exec.focus (fun p => p.state session)
    (fun p s => p.store session ((p.slots session).keep s) s) do
      let s ← get
      let _ ← deref s.handle
      function

/-- One call of the API through a variable, or a message that reaches the client of its session. -/
inductive Request (Up St : Type)
  | init (session : Nat) (id : String) (downlinkHandler : Option Nat) (cbArg : Nat)
  | call (session : Nat) (made : Call Up St)
  | arrival (session : Nat) (topic : String) (payload : Bytes)
  | cleanup (session : Nat)
  deriving DecidableEq, Repr

/-- The reply is the return code of a call; the other requests return nothing. -/
def Request.exec : Request Up St → Exec Fault (Process Dn) (Option Int)
  | .init session id downlinkHandler cbArg => do
    let _ ← Exec.focus (fun p => p.state session)
      (fun p s => p.store session ⟨some id, s.handle, s.session⟩ s)
      (ttngwcInit id downlinkHandler cbArg .served)
    pure none
  | .call session made => do
    let rc ← onSession session (made.exec protobuf paho)
    pure (some rc)
  | .arrival session topic payload => do
    onSession session (deliver protobuf paho topic payload)
    pure none
  | .cleanup session => do
    onSession session ttngwcCleanup
    modify fun p => p.vacate session
    pure none

/-- One of the two sends, on one of the sessions. -/
inductive Send (Up St : Type)
  | uplink (session : Nat) (uplink : Up) (o : SendOutcome)
  | status (session : Nat) (status : St) (o : SendOutcome)
  deriving DecidableEq, Repr

/-- The reply is the return code. -/
def Send.exec : Send Up St → Exec Fault (Process Dn) Int
  | .uplink session message o => onSession session (ttngwcSendUplink protobuf paho message o)
  | .status session message o => onSession session (ttngwcSendStatus protobuf paho message o)

end Process

end GatewayConnector
