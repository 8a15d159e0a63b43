/-
**The memory invariant of a session.**

Six fields refer to blocks: the handle `*s` and the session's `id`, `read_buffer`, `send_buffer`,
`key` and `downlink_topic`. `Intact id s` says that each of them is NULL (only the last two may be)
or names a live block with the contents that belong there, and that no two name the same block.

The connector changes these fields in four ways, each a function on states: `hold` allocates a block
for a field, `drop` releases the block of a field, `scratch` is a temporary block that came and went,
`refuse` is an allocation that was refused. `Intact` is kept by all of them.
-/

import GatewayConnector.Model.Connector

namespace GatewayConnector

open Lib

variable {Dn : Type}

/-- The pointers through which the connector can still reach a block. -/
inductive Field
  | handle
  | id
  | readBuffer
  | sendBuffer
  | key
  | downlinkTopic
  deriving DecidableEq, Repr

/-- The pointer in a field. -/
def State.at (s : State Dn) : Field → Ptr
  | .handle => s.handle
  | .id => s.session.id
  | .readBuffer => s.session.readBuffer
  | .sendBuffer => s.session.sendBuffer
  | .key => s.session.key
  | .downlinkTopic => s.session.downlinkTopic

/-- Write a field. -/
def State.set (s : State Dn) : Field → Ptr → State Dn
  | .handle, p => { s with handle := p }
  | .id, p => { s with session := { s.session with id := p } }
  | .readBuffer, p => { s with session := { s.session with readBuffer := p } }
  | .sendBuffer, p => { s with session := { s.session with sendBuffer := p } }
  | .key, p => { s with session := { s.session with key := p } }
  | .downlinkTopic, p => { s with session := { s.session with downlinkTopic := p } }

/-- The field that may be NULL in a session in use. -/
def Field.Optional : Field → Prop
  | .key | .downlinkTopic => True
  | _ => False

/-- The contents that belong in the block of a field. -/
def Field.Expects (id : String) : Field → Block → Prop
  | .handle, contents => contents = .session
  | .id, contents => contents = .str id
  | .readBuffer, contents => contents = .raw READ_BUFFER_SIZE
  | .sendBuffer, contents => contents = .raw SEND_BUFFER_SIZE
  | .key, contents => ∃ text, contents = .str text
  | .downlinkTopic, contents => contents = .str (downTopic id)

/-- The heap once the block a pointer names is released. -/
def without (heap : Heap Block) : Ptr → Heap Block
  | .block number => heap.free number
  | _ => heap

theorem live_without (heap : Heap Block) (p : Ptr) (number : Nat) :
    (without heap p).Live number ↔ heap.Live number ∧ p ≠ .block number := by
  cases p with
  | null => exact ⟨fun live => ⟨live, Ptr.noConfusion⟩, And.left⟩
  | indeterminate => exact ⟨fun live => ⟨live, Ptr.noConfusion⟩, And.left⟩
  | block released =>
    show (heap.free released).Live number ↔ _
    rw [Heap.live_free, and_comm]
    refine and_congr_right fun _ => not_congr ?_
    exact ⟨fun same => by rw [same], fun same => (Ptr.block.inj same).symm⟩

theorem cell_without (heap : Heap Block) {p : Ptr} {number : Nat} (other : p ≠ .block number) :
    (without heap p).cell number = heap.cell number := by
  cases p with
  | null => rfl
  | indeterminate => rfl
  | block released =>
    exact Heap.cell_free_of_ne fun same => other (by rw [same])

/-! ### The four changes -/

/-- Allocate a block for a field. -/
def State.hold (s : State Dn) (field : Field) (contents : Block) : State Dn :=
  { s.set field (.block s.heap.next) with heap := s.heap.alloc contents }

/-- Release the block of a field and set the field to NULL. -/
def State.drop (s : State Dn) (field : Field) : State Dn :=
  { s.set field .null with heap := without s.heap (s.at field) }

/-- A temporary block came and went. -/
def State.scratch (s : State Dn) : State Dn := { s with heap := s.heap.skip }

/-- An allocation was refused. -/
def State.refuse (s : State Dn) : State Dn := { s with refused := s.refused + 1 }

@[simp] theorem at_set_self (s : State Dn) (field : Field) (p : Ptr) : (s.set field p).at field = p := by
  cases field <;> rfl

theorem at_set_of_ne (s : State Dn) {field other : Field} (p : Ptr) (different : other ≠ field) :
    (s.set field p).at other = s.at other := by
  cases field <;> cases other <;> first | rfl | exact absurd rfl different

@[simp] theorem heap_set (s : State Dn) (field : Field) (p : Ptr) :
    (s.set field p).heap = s.heap := by
  cases field <;> rfl

@[simp] theorem at_hold_self (s : State Dn) (field : Field) (contents : Block) :
    (s.hold field contents).at field = .block s.heap.next := by
  cases field <;> rfl

theorem at_hold_of_ne (s : State Dn) {field other : Field} (contents : Block)
    (different : other ≠ field) : (s.hold field contents).at other = s.at other := by
  cases field <;> cases other <;> first | rfl | exact absurd rfl different

@[simp] theorem at_drop_self (s : State Dn) (field : Field) : (s.drop field).at field = .null := by
  cases field <;> rfl

theorem at_drop_of_ne (s : State Dn) {field other : Field} (different : other ≠ field) :
    (s.drop field).at other = s.at other := by
  cases field <;> cases other <;> first | rfl | exact absurd rfl different

@[simp] theorem heap_hold (s : State Dn) (field : Field) (contents : Block) :
    (s.hold field contents).heap = s.heap.alloc contents := rfl

@[simp] theorem heap_drop (s : State Dn) (field : Field) :
    (s.drop field).heap = without s.heap (s.at field) := rfl

/-! ### What leaves every field -/

@[simp] theorem at_scratch (s : State Dn) (field : Field) : s.scratch.at field = s.at field := by
  cases field <;> rfl

@[simp] theorem at_refuse (s : State Dn) (field : Field) : s.refuse.at field = s.at field := by
  cases field <;> rfl

@[simp] theorem at_emit (s : State Dn) (event : Event Dn) (field : Field) :
    (s.emit event).at field = s.at field := by
  cases field <;> rfl

@[simp] theorem at_openSocket (s : State Dn) (field : Field) :
    s.openSocket.at field = s.at field := by
  cases field <;> rfl

@[simp] theorem at_closeSocket (s : State Dn) (field : Field) :
    s.closeSocket.at field = s.at field := by
  unfold State.closeSocket
  split
  · cases field <;> rfl
  · rfl

@[simp] theorem heap_closeSocket (s : State Dn) : s.closeSocket.heap = s.heap := by
  unfold State.closeSocket
  split <;> rfl

@[simp] theorem at_setConnected (s : State Dn) (flag : Bool) (field : Field) :
    (s.setConnected flag).at field = s.at field := by
  cases field <;> rfl

@[simp] theorem at_addHandler (s : State Dn) (entry : HandlerEntry) (field : Field) :
    (s.addHandler entry).at field = s.at field := by
  cases field <;> rfl

/-! ### The invariant -/

/-- A field is NULL, where that is allowed, or names a block with the contents that belong there. -/
def State.FieldSound (id : String) (s : State Dn) (field : Field) : Prop :=
  (s.at field = .null ∧ field.Optional) ∨
    ∃ number contents, s.at field = .block number ∧ s.heap.cell number = some contents ∧
      field.Expects id contents

/-- **The memory invariant**: every field is sound and no two fields share a block. -/
structure Intact (id : String) (s : State Dn) : Prop where
  sound : ∀ field, s.FieldSound id field
  distinct : ∀ field other number, s.at field = .block number → s.at other = .block number →
    field = other

namespace Intact

variable {id : String} {s s' : State Dn}

/-- A field that is not optional names a block. -/
theorem required (intact : Intact id s) (field : Field) (needed : ¬ field.Optional) :
    ∃ number contents, s.at field = .block number ∧ s.heap.cell number = some contents ∧
      field.Expects id contents := by
  rcases intact.sound field with ⟨_, optional⟩ | found
  · exact absurd optional needed
  · exact found

/-- An optional field is NULL or names a block. -/
theorem null_or_block (intact : Intact id s) (field : Field) :
    s.at field = .null ∨ ∃ number contents, s.at field = .block number ∧
      s.heap.cell number = some contents ∧ field.Expects id contents :=
  (intact.sound field).imp And.left fun found => found

theorem live (intact : Intact id s) {field : Field} {number : Nat}
    (held : s.at field = .block number) : s.heap.Live number := by
  rcases intact.null_or_block field with empty | ⟨other, contents, named, found, _⟩
  · rw [held] at empty
    cases empty
  · rw [held] at named
    cases named
    exact Heap.live_of_cell found

/-- The invariant reads the fields and the cells they name, and nothing else. -/
theorem frame (intact : Intact id s) (fields : ∀ field, s'.at field = s.at field)
    (cells : ∀ field number, s.at field = .block number →
      s'.heap.cell number = s.heap.cell number) : Intact id s' where
  sound field := by
    rcases intact.sound field with ⟨empty, optional⟩ | ⟨number, contents, held, found, expected⟩
    · exact Or.inl ⟨(fields field).trans empty, optional⟩
    · refine Or.inr ⟨number, contents, (fields field).trans held, ?_, expected⟩
      rw [cells field number held, found]
  distinct field other number first second :=
    intact.distinct field other number ((fields field).symm.trans first)
      ((fields other).symm.trans second)

/-- Allocating a block for a field keeps the invariant, whatever the field held. -/
theorem hold (intact : Intact id s) (field : Field) {contents : Block}
    (expected : field.Expects id contents) : Intact id (s.hold field contents) where
  sound other := by
    by_cases same : other = field
    · subst same
      exact Or.inr ⟨s.heap.next, contents, at_hold_self .., Heap.cell_alloc_next .., expected⟩
    · rw [State.FieldSound, at_hold_of_ne s contents same]
      refine (intact.sound other).imp (fun empty => empty) ?_
      rintro ⟨number, held, named, found, suits⟩
      exact ⟨number, held, named, Heap.cell_alloc_of_cell found, suits⟩
  distinct first second number one two := by
    -- the new block is named by no field of `s`, as none of its blocks reaches `heap.next`
    have unnamed : ∀ other, s.at other ≠ .block s.heap.next := fun other held =>
      Nat.lt_irrefl _ (intact.live held).lt_next
    by_cases isFirst : first = field
    · subst isFirst
      rw [at_hold_self] at one
      cases one
      by_contra different
      rw [at_hold_of_ne s contents (Ne.symm different)] at two
      exact unnamed second two
    · rw [at_hold_of_ne s contents isFirst] at one
      by_cases isSecond : second = field
      · subst isSecond
        rw [at_hold_self] at two
        cases two
        exact absurd one (unnamed first)
      · rw [at_hold_of_ne s contents isSecond] at two
        exact intact.distinct first second number one two

/-- Releasing an optional field keeps the invariant. -/
theorem drop (intact : Intact id s) (field : Field) (optional : field.Optional) :
    Intact id (s.drop field) where
  sound other := by
    by_cases same : other = field
    · subst same
      exact Or.inl ⟨at_drop_self .., optional⟩
    · rw [State.FieldSound, at_drop_of_ne s same]
      refine (intact.sound other).imp (fun empty => empty) ?_
      rintro ⟨number, contents, named, found, suits⟩
      refine ⟨number, contents, named, ?_, suits⟩
      have elsewhere : s.at field ≠ .block number := fun held =>
        same (intact.distinct other field number named held)
      rw [heap_drop, cell_without s.heap elsewhere, found]
  distinct first second number one two := by
    have isFirst : first ≠ field := by
      rintro rfl
      rw [at_drop_self] at one
      cases one
    have isSecond : second ≠ field := by
      rintro rfl
      rw [at_drop_self] at two
      cases two
    rw [at_drop_of_ne s isFirst] at one
    rw [at_drop_of_ne s isSecond] at two
    exact intact.distinct first second number one two

theorem scratch (intact : Intact id s) : Intact id s.scratch :=
  intact.frame (at_scratch s) fun _ _ _ => rfl

theorem refuse (intact : Intact id s) : Intact id s.refuse :=
  intact.frame (at_refuse s) fun _ _ _ => rfl

/-- Setting an optional field to NULL without releasing its block keeps the invariant. -/
theorem setNull (intact : Intact id s) (field : Field) (optional : field.Optional) :
    Intact id (s.set field .null) where
  sound other := by
    by_cases same : other = field
    · subst same
      exact Or.inl ⟨at_set_self .., optional⟩
    · rw [State.FieldSound, at_set_of_ne s .null same, heap_set]
      exact intact.sound other
  distinct first second number one two := by
    have isFirst : first ≠ field := by
      rintro rfl
      rw [at_set_self] at one
      cases one
    have isSecond : second ≠ field := by
      rintro rfl
      rw [at_set_self] at two
      cases two
    rw [at_set_of_ne s .null isFirst] at one
    rw [at_set_of_ne s .null isSecond] at two
    exact intact.distinct first second number one two

/-! ### What the MQTT layer does leaves the memory alone -/

theorem emit (intact : Intact id s) (event : Event Dn) : Intact id (s.emit event) :=
  intact.frame (at_emit s event) fun _ _ _ => rfl

theorem openSocket (intact : Intact id s) : Intact id s.openSocket :=
  intact.frame (at_openSocket s) fun _ _ _ => rfl

theorem closeSocket (intact : Intact id s) : Intact id s.closeSocket :=
  intact.frame (at_closeSocket s) fun _ _ _ => by rw [heap_closeSocket]

theorem setConnected (intact : Intact id s) (flag : Bool) : Intact id (s.setConnected flag) :=
  intact.frame (at_setConnected s flag) fun _ _ _ => rfl

theorem addHandler (intact : Intact id s) (entry : HandlerEntry) :
    Intact id (s.addHandler entry) :=
  intact.frame (at_addHandler s entry) fun _ _ _ => rfl

end Intact

end GatewayConnector
