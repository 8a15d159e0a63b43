/-
**The C library as the connector uses it**: `malloc`, `strdup`, `asprintf`, `free`, and reading or
writing through a pointer.

Whether an allocation is served is an input. A refused `malloc` or `strdup` returns NULL; a refused
`asprintf` returns `-1` and leaves its target indeterminate. An access through a NULL or
indeterminate pointer, to a released block or past the end of a block stops with a fault.
-/

import GatewayConnector.Model.Types

namespace GatewayConnector

open Lib

variable {Dn : Type}

/-- The block behind a pointer and its contents. -/
def deref : Ptr → Code Dn (Nat × Block)
  | .null => Exec.fault .nullPointer
  | .indeterminate => Exec.fault .indeterminatePointer
  | .block number => do
    let s ← get
    match s.heap.cell number with
    | some contents => pure (number, contents)
    | none => Exec.fault .releasedBlock

/-- Allocate a block; `otherwise` is the pointer when the allocation is refused. -/
def allocate (contents : Block) (otherwise : Ptr) (served : Bool) : Code Dn Ptr := do
  let s ← get
  if served then
    modify fun s => { s with heap := s.heap.alloc contents }
    pure (.block s.heap.next)
  else do
    modify fun s => { s with refused := s.refused + 1 }
    pure otherwise

def malloc (size : Nat) (served : Bool) : Code Dn Ptr :=
  allocate (.raw size) .null served

def strdup (text : String) (served : Bool) : Code Dn Ptr :=
  allocate (.str text) .null served

/-- `asprintf` of a text that was already put together: its result and what it left in its
target. -/
def asprintf (text : String) (served : Bool) : Code Dn (Int × Ptr) := do
  let target ← allocate (.str text) .indeterminate served
  pure (if served then text.utf8ByteSize else -1, target)

def free : Ptr → Code Dn Unit
  | .null => pure ()
  | pointer => do
    let (number, _) ← deref pointer
    modify fun s => { s with heap := s.heap.free number }

/-- `if (p != NULL) free(p);` -/
def freeNotNull (pointer : Ptr) : Code Dn Unit :=
  if pointer ≠ .null then free pointer else pure ()

/-- Read the string at a pointer. -/
def loadStr (pointer : Ptr) : Code Dn String := do
  let (_, contents) ← deref pointer
  match contents with
  | .str text => pure text
  | _ => Exec.fault .overrun

def CString.read : CString → Code Dn String
  | .text value => pure value
  | .pointer address => loadStr address

/-- Read `len` bytes at a pointer. -/
def loadBytes (pointer : Ptr) (len : Nat) : Code Dn Bytes := do
  let (_, contents) ← deref pointer
  match contents with
  | .bytes data => if len ≤ data.length then pure (data.take len) else Exec.fault .overrun
  | _ => Exec.fault .overrun

/-- A pack function writes its encoding into a buffer. -/
def packInto (encoding : Bytes) (out : Ptr) : Code Dn Unit := do
  let (number, contents) ← deref out
  match contents with
  | .raw size =>
    if encoding.length ≤ size then
      modify fun s => { s with heap := s.heap.put number (.bytes encoding) }
    else Exec.fault .overrun
  | _ => Exec.fault .overrun

end GatewayConnector
