/-
**The two ends of a session's life.**

* `init_run`, `init_served` — with every allocation served, `ttngwc_init` returns the handle and
  leaves an intact session, `State.initialised`; the first one of a process is `State.created`.
* `init_session_unserved`, `init_buffer_unserved`, `init_id_unserved` — what becomes of a refused
  allocation: a fault, or a session without an id behind a handle that is not NULL.
* `cleanup_intact` — `ttngwc_cleanup` releases the block of every field but `downlink_topic`, and
  closes nothing.
-/

import GatewayConnector.Proof.CallEffects

namespace GatewayConnector

open Lib

variable {Dn : Type}

section Init

variable (id : String) (downlinkHandler : Option Nat) (cbArg : Nat)

/-- What a successful `ttngwc_init` leaves of any state: four new blocks and a new session behind
the handle. -/
def State.initialised (s : State Dn) : State Dn where
  heap := (((s.heap.alloc .session).alloc (.str id)).alloc (.raw READ_BUFFER_SIZE)).alloc
    (.raw SEND_BUFFER_SIZE)
  refused := s.refused
  sockets := s.sockets
  handle := .block s.heap.next
  session := {
    network := none
    client := ⟨false, []⟩
    downlinkHandler
    cbArg
    readBuffer := .block (s.heap.next + 2)
    sendBuffer := .block (s.heap.next + 3)
    id := .block (s.heap.next + 1)
    key := .null
    downlinkTopic := .null }
  log := s.log

/-- The blocks of a new session. -/
theorem initialised_cells (s : State Dn) :
    (s.initialised id downlinkHandler cbArg).heap.cell s.heap.next = some .session ∧
    (s.initialised id downlinkHandler cbArg).heap.cell (s.heap.next + 1) = some (.str id) ∧
    (s.initialised id downlinkHandler cbArg).heap.cell (s.heap.next + 2) =
      some (.raw READ_BUFFER_SIZE) ∧
    (s.initialised id downlinkHandler cbArg).heap.cell (s.heap.next + 3) =
      some (.raw SEND_BUFFER_SIZE) := by
  refine ⟨?_, ?_, ?_, ?_⟩
  · exact Heap.cell_alloc_of_cell (Heap.cell_alloc_of_cell
      (Heap.cell_alloc_of_cell (Heap.cell_alloc_next ..)))
  · exact Heap.cell_alloc_of_cell (Heap.cell_alloc_of_cell (Heap.cell_alloc_next ..))
  · exact Heap.cell_alloc_of_cell (Heap.cell_alloc_next ..)
  · exact Heap.cell_alloc_next ..

/-- **`ttngwc_init` with its allocations served.** -/
theorem init_run (s : State Dn) :
    (ttngwcInit id downlinkHandler cbArg InitOutcome.served).run s =
      .ok (.block s.heap.next, s.initialised id downlinkHandler cbArg) := by
  obtain ⟨_, _, read, send⟩ := initialised_cells id downlinkHandler cbArg s
  have buffers : ∀ t : State Dn, t.heap = (s.initialised id downlinkHandler cbArg).heap →
      (mqttClientInit (.block (s.heap.next + 3)) (.block (s.heap.next + 2))).run t =
        .ok ((), { t with session := { t.session with client := ⟨false, []⟩ } }) := by
    intro t same
    rw [← same] at read send
    unfold mqttClientInit
    rw [Exec.bind_ok (deref_block send), Exec.bind_ok (deref_block read)]
    rfl
  unfold ttngwcInit
  simp only [InitOutcome.served]
  rw [Exec.bind_ok (allocate_served ..), Exec.bind_ok (deref_block (Heap.cell_alloc_next ..))]
  unfold modifySession networkInit malloc strdup
  rw [Exec.bind_ok (Exec.run_modifyState ..), Exec.bind_ok (allocate_served ..),
    Exec.bind_ok (Exec.run_modifyState ..), Exec.bind_ok (allocate_served ..),
    Exec.bind_ok (Exec.run_modifyState ..), Exec.bind_ok (allocate_served ..),
    Exec.bind_ok (Exec.run_modifyState ..), Exec.bind_ok (Exec.run_modifyState ..)]
  -- everything but `*s` is in place
  exact Exec.bind_ok
    (buffers { s.initialised id downlinkHandler cbArg with handle := s.handle } rfl)

/-- **A new session is intact.** -/
theorem initialised_intact (s : State Dn) :
    Intact id (s.initialised id downlinkHandler cbArg) := by
  obtain ⟨handle, idCopy, read, send⟩ := initialised_cells id downlinkHandler cbArg s
  constructor
  · intro field
    cases field with
    | handle => exact Or.inr ⟨_, _, rfl, handle, rfl⟩
    | id => exact Or.inr ⟨_, _, rfl, idCopy, rfl⟩
    | readBuffer => exact Or.inr ⟨_, _, rfl, read, rfl⟩
    | sendBuffer => exact Or.inr ⟨_, _, rfl, send, rfl⟩
    | key => exact Or.inl ⟨rfl, trivial⟩
    | downlinkTopic => exact Or.inl ⟨rfl, trivial⟩
  · intro field other number first second
    cases field <;> cases other <;> first
      | rfl
      | exact Ptr.noConfusion first
      | exact Ptr.noConfusion second
      | have same := Ptr.block.inj (first.trans second.symm)
        omega

/-- The state that the first successful `ttngwc_init` leaves: the session, its id and both buffers
are the blocks `0` to `3`, nothing is connected. -/
def State.created : State Dn where
  heap := (((Heap.empty.alloc .session).alloc (.str id)).alloc (.raw READ_BUFFER_SIZE)).alloc
    (.raw SEND_BUFFER_SIZE)
  refused := 0
  sockets := .empty
  handle := .block 0
  session := {
    network := none
    client := ⟨false, []⟩
    downlinkHandler
    cbArg
    readBuffer := .block 2
    sendBuffer := .block 3
    id := .block 1
    key := .null
    downlinkTopic := .null }
  log := []

theorem init_served :
    (ttngwcInit id downlinkHandler cbArg InitOutcome.served).run (State.boot : State Dn) =
      .ok (.block 0, State.created id downlinkHandler cbArg) :=
  init_run id downlinkHandler cbArg State.boot

/-- Without memory for the session, `memset` writes through NULL. -/
theorem init_session_unserved (o : InitOutcome) (refused : o.session = false) :
    (ttngwcInit id downlinkHandler cbArg o).run (State.boot : State Dn) =
      .error .nullPointer := by
  unfold ttngwcInit
  rw [refused, Exec.bind_ok (allocate_refused ..)]
  rfl

/-- A buffer there was no memory for is passed to `MQTTClientInit`. -/
theorem init_buffer_unserved (o : InitOutcome) (session : o.session = true)
    (refused : o.readBuffer = false ∨ o.sendBuffer = false) :
    (ttngwcInit id downlinkHandler cbArg o).run (State.boot : State Dn) =
      .error .nullPointer := by
  obtain ⟨_, idCopy, readBuffer, sendBuffer⟩ := o
  cases session
  rcases refused with unread | unsent
  · cases unread
    cases idCopy <;> cases sendBuffer <;> rfl
  · cases unsent
    cases idCopy <;> cases readBuffer <;> rfl

/-- Without memory for the id the session is handed out all the same. -/
theorem init_id_unserved (o : InitOutcome) (session : o.session = true) (refused : o.id = false)
    (readBuffer : o.readBuffer = true) (sendBuffer : o.sendBuffer = true) :
    ∃ s, (ttngwcInit id downlinkHandler cbArg o).run (State.boot : State Dn) =
      .ok (.block 0, s) ∧ s.refused = 1 := by
  obtain ⟨_, _, _, _⟩ := o
  cases session
  cases refused
  cases readBuffer
  cases sendBuffer
  exact ⟨_, rfl, rfl⟩

/-- **A session just created is intact.** -/
theorem created_intact : Intact id (State.created id downlinkHandler cbArg : State Dn) :=
  initialised_intact id downlinkHandler cbArg State.boot

/-- The blocks of a session just created are the four it refers to. -/
theorem created_live (number : Nat) :
    (State.created id downlinkHandler cbArg : State Dn).heap.Live number ↔
      ∃ field, (State.created id downlinkHandler cbArg : State Dn).at field = .block number := by
  constructor
  · intro live
    simp only [State.created, Heap.live_alloc, Heap.next_alloc, Heap.not_live_empty,
      or_false] at live
    rcases live with rfl | rfl | rfl | rfl
    · exact ⟨.sendBuffer, rfl⟩
    · exact ⟨.readBuffer, rfl⟩
    · exact ⟨.id, rfl⟩
    · exact ⟨.handle, rfl⟩
  · rintro ⟨field, held⟩
    exact (created_intact id downlinkHandler cbArg).live held

end Init

section Cleanup

variable {id : String} {s : State Dn}

/-- The heap still holds the blocks of the fields that are not yet released. -/
def Keeps (s : State Dn) (gone : List Field) (heap : Heap Block) : Prop :=
  ∀ field, field ∉ gone → ∀ number, s.at field = .block number →
    heap.cell number = s.heap.cell number

theorem Keeps.start (s : State Dn) : Keeps s [] s.heap := fun _ _ _ _ => rfl

/-- Releasing one more field leaves the others, as no two share a block. -/
theorem Keeps.release {gone : List Field} {heap : Heap Block} (keeps : Keeps s gone heap)
    (intact : Intact id s) (released : Field) (p : Ptr) (named : s.at released = p) :
    Keeps s (released :: gone) (without heap p) := by
  subst named
  intro field left number held
  have different : field ≠ released := fun same => left (by rw [same]; exact List.mem_cons_self)
  have elsewhere : s.at released ≠ .block number := fun also =>
    different (intact.distinct field released number held also)
  rw [cell_without heap elsewhere]
  exact keeps field (fun member => left (List.mem_cons_of_mem _ member)) number held

/-- `free` of a field that must be there; the field keeps its pointer. -/
theorem Keeps.free {gone : List Field} {heap : Heap Block} (keeps : Keeps s gone heap)
    (intact : Intact id s) (field : Field) (needed : ¬ field.Optional) (left : field ∉ gone)
    (p : Ptr) (named : s.at field = p) :
    (GatewayConnector.free p).run { s with heap := heap } =
      .ok ((), { s with heap := without heap p }) := by
  obtain ⟨number, contents, held, found, _⟩ := intact.required field needed
  have still : ({ s with heap := heap } : State Dn).heap.cell number = some contents :=
    (keeps field left number held).trans found
  rw [← named, held, free_block still]
  rfl

/-- The heap that `ttngwc_cleanup` leaves. -/
def State.cleanedHeap (s : State Dn) : Heap Block :=
  without (without (without (without (without s.heap s.session.key) s.session.id)
    s.session.readBuffer) s.session.sendBuffer) s.handle

/-- **`ttngwc_cleanup` on an intact session** releases five of the six fields. -/
theorem cleanup_intact (intact : Intact id s) :
    ttngwcCleanup.run s = .ok ((), { s with heap := s.cleanedHeap }) := by
  have keyStep : (freeNotNull s.session.key).run s =
      .ok ((), { s with heap := without s.heap s.session.key }) := by
    rcases intact.keyBlock with ⟨empty, _⟩ | ⟨number, text, held, found, _⟩
    · rw [empty]
      rfl
    · rw [held, freeNotNull_block found]
      rfl
  have afterKey := (Keeps.start s).release intact .key s.session.key rfl
  have afterId := afterKey.release intact .id s.session.id rfl
  have afterRead := afterId.release intact .readBuffer s.session.readBuffer rfl
  have afterSend := afterRead.release intact .sendBuffer s.session.sendBuffer rfl
  unfold ttngwcCleanup
  rw [Exec.bind_ok (Exec.run_getState s), Exec.bind_ok keyStep,
    Exec.bind_ok (afterKey.free intact .id (fun absent => absent) (by decide) s.session.id rfl),
    Exec.bind_ok (afterId.free intact .readBuffer (fun absent => absent) (by decide)
      s.session.readBuffer rfl),
    Exec.bind_ok (afterRead.free intact .sendBuffer (fun absent => absent) (by decide)
      s.session.sendBuffer rfl)]
  exact afterSend.free intact .handle (fun absent => absent) (by decide) s.handle rfl

/-- What is left after `ttngwc_cleanup`: the blocks that only `downlink_topic` or no field names. -/
theorem live_cleanedHeap (number : Nat) :
    s.cleanedHeap.Live number ↔
      s.heap.Live number ∧ ∀ field, field ≠ .downlinkTopic → s.at field ≠ .block number := by
  simp only [State.cleanedHeap, live_without]
  constructor
  · rintro ⟨⟨⟨⟨⟨live, key⟩, id⟩, readBuffer⟩, sendBuffer⟩, handle⟩
    refine ⟨live, fun field named => ?_⟩
    cases field with
    | handle => exact handle
    | id => exact id
    | readBuffer => exact readBuffer
    | sendBuffer => exact sendBuffer
    | key => exact key
    | downlinkTopic => exact absurd rfl named
  · rintro ⟨live, elsewhere⟩
    exact ⟨⟨⟨⟨⟨live, elsewhere .key (by decide)⟩, elsewhere .id (by decide)⟩,
      elsewhere .readBuffer (by decide)⟩, elsewhere .sendBuffer (by decide)⟩,
      elsewhere .handle (by decide)⟩

end Cleanup

end GatewayConnector
