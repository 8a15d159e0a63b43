/-
**What the memory functions do**, on the pointers an intact session has.

Each rule runs one function of `Model/Memory.lean` on a pointer whose block is known; `live_of_free`
and its like say that what a function returned from was live. A payload that is packed, passed to
the MQTT layer and freed is `lend`: `packPayload_served` writes it and `free_lent` leaves `scratch`
behind.
-/

import GatewayConnector.Proof.Intact

namespace GatewayConnector

open Lib

variable {Dn : Type} {s : State Dn}

/-! ### Reading -/

theorem deref_block {number : Nat} {contents : Block}
    (found : s.heap.cell number = some contents) :
    (deref (.block number)).run s = .ok ((number, contents), s) := by
  unfold deref
  rw [Exec.bind_ok (Exec.run_getState s)]
  simp only [found]
  rfl

theorem loadStr_block {number : Nat} {text : String}
    (found : s.heap.cell number = some (.str text)) :
    (loadStr (.block number)).run s = .ok (text, s) := by
  unfold loadStr
  rw [Exec.bind_ok (deref_block found)]
  rfl

theorem loadBytes_block {number : Nat} {data : Bytes} {len : Nat} (size : len = data.length)
    (found : s.heap.cell number = some (.bytes data)) :
    (loadBytes (.block number) len).run s = .ok (data, s) := by
  unfold loadBytes
  rw [Exec.bind_ok (deref_block found)]
  simp only [size, Nat.le_refl, if_true, List.take_length]
  rfl

theorem read_text (value : String) : (CString.text value).read.run s = .ok (value, s) := rfl

theorem read_pointer {number : Nat} {text : String}
    (found : s.heap.cell number = some (.str text)) :
    (CString.pointer (.block number)).read.run s = .ok (text, s) :=
  loadStr_block found

theorem readOption_some {string : CString} {text : String}
    (readable : string.read.run s = .ok (text, s)) :
    (readOption (some string)).run s = .ok (some text, s) := by
  unfold readOption
  rw [Exec.bind_ok readable]
  rfl

theorem readOption_none : (readOption none : Code Dn _).run s = .ok (none, s) := rfl

/-! ### Allocating and releasing -/

theorem allocate_served (contents : Block) (otherwise : Ptr) :
    (allocate contents otherwise true).run s =
      .ok (.block s.heap.next, { s with heap := s.heap.alloc contents }) := rfl

theorem allocate_refused (contents : Block) (otherwise : Ptr) :
    (allocate contents otherwise false).run s = .ok (otherwise, s.refuse) := rfl

theorem asprintf_served (text : String) :
    (asprintf text true).run s =
      .ok (((text.utf8ByteSize : Int), .block s.heap.next),
        { s with heap := s.heap.alloc (.str text) }) := rfl

theorem asprintf_refused (text : String) :
    (asprintf text false).run s = .ok ((-1, .indeterminate), s.refuse) := rfl

theorem free_block {number : Nat} {contents : Block}
    (found : s.heap.cell number = some contents) :
    (free (.block number)).run s = .ok ((), { s with heap := s.heap.free number }) := by
  unfold free
  rw [Exec.bind_ok (deref_block found)]
  rfl

theorem freeNotNull_null : (freeNotNull .null : Code Dn _).run s = .ok ((), s) := rfl

theorem freeNotNull_block {number : Nat} {contents : Block}
    (found : s.heap.cell number = some contents) :
    (freeNotNull (.block number)).run s = .ok ((), { s with heap := s.heap.free number }) := by
  unfold freeNotNull
  rw [if_pos (by simp), free_block found]

theorem freeNotNull_indeterminate :
    (freeNotNull .indeterminate : Code Dn _).run s = .error .indeterminatePointer := rfl

/-! ### Every access is to a live block -/

/-- **A pointer that was followed names a live block**, and following it changes nothing. -/
theorem deref_returned {p : Ptr} {found : Nat × Block} {s' : State Dn}
    (returned : (deref p).run s = .ok (found, s')) :
    (∃ number, p = .block number ∧ s.heap.Live number) ∧ s' = s := by
  cases p with
  | null => cases returned
  | indeterminate => cases returned
  | block number =>
    unfold deref at returned
    rw [Exec.bind_ok (Exec.run_getState s)] at returned
    cases cell : s.heap.cell number with
    | none =>
      simp only [cell] at returned
      cases returned
    | some contents =>
      simp only [cell] at returned
      cases returned
      exact ⟨⟨number, rfl, Heap.live_of_cell cell⟩, rfl⟩

/-- What begins by following a pointer returns only if that is live. -/
theorem live_of_deref {α : Type} {p : Ptr} {rest : Nat × Block → Code Dn α} {a : α} {s' : State Dn}
    (returned : (deref p >>= rest).run s = .ok (a, s')) :
    ∃ number, p = .block number ∧ s.heap.Live number := by
  obtain ⟨_, _, followed, _⟩ := Exec.bind_returned returned
  exact (deref_returned followed).1

/-- What was passed to `free` was NULL or a live block. -/
theorem live_of_free {p : Ptr} {s' : State Dn} (returned : (free p).run s = .ok ((), s')) :
    p = .null ∨ ∃ number, p = .block number ∧ s.heap.Live number := by
  cases p with
  | null => exact Or.inl rfl
  | indeterminate => exact Or.inr (live_of_deref returned)
  | block number => exact Or.inr (live_of_deref returned)

/-- A string that was read, or passed on, was live. -/
theorem live_of_loadStr {p : Ptr} {text : String} {s' : State Dn}
    (returned : (loadStr p).run s = .ok (text, s')) :
    ∃ number, p = .block number ∧ s.heap.Live number :=
  live_of_deref returned

/-- A payload that was passed on was live. -/
theorem live_of_loadBytes {p : Ptr} {len : Nat} {data : Bytes} {s' : State Dn}
    (returned : (loadBytes p len).run s = .ok (data, s')) :
    ∃ number, p = .block number ∧ s.heap.Live number :=
  live_of_deref returned

/-- A buffer that was packed into was live. -/
theorem live_of_packInto {p : Ptr} {encoding : Bytes} {s' : State Dn}
    (returned : (packInto encoding p).run s = .ok ((), s')) :
    ∃ number, p = .block number ∧ s.heap.Live number :=
  live_of_deref returned

/-! ### A payload that is lent to the MQTT layer -/

/-- A packed payload sits in the newest block. -/
def State.lend (s : State Dn) (size : Nat) (data : Bytes) : State Dn :=
  { s with heap := (s.heap.alloc (.raw size)).put s.heap.next (.bytes data) }

theorem lend_next (size : Nat) (data : Bytes) :
    (s.lend size data).heap.cell s.heap.next = some (.bytes data) :=
  Heap.cell_put_of_live _ (Heap.live_of_cell (Heap.cell_alloc_next ..))

/-- What the session holds is not touched by a lent payload. -/
theorem lend_cell (size : Nat) (data : Bytes) {number : Nat} {contents : Block}
    (found : s.heap.cell number = some contents) :
    (s.lend size data).heap.cell number = some contents := by
  have older : number ≠ s.heap.next := Nat.ne_of_lt (Heap.live_of_cell found).lt_next
  show ((s.heap.alloc (.raw size)).put s.heap.next (.bytes data)).cell number = _
  rw [Heap.cell_put_of_ne _ older, Heap.cell_alloc_of_cell found]

/-- A lent payload that is released leaves nothing behind. -/
theorem free_lent {t : State Dn} {size : Nat} {data : Bytes}
    (same : t.heap = (s.lend size data).heap) :
    (free (.block s.heap.next)).run t = .ok ((), { t with heap := s.heap.skip }) := by
  have found : t.heap.cell s.heap.next = some (.bytes data) := by rw [same, lend_next]
  rw [free_block found, same]
  show Except.ok ((), { t with heap := _ }) = _
  rw [State.lend, Heap.free_put_alloc]

section Packing

variable {M : Type} (codec : Codec M) (message : M)

theorem packInto_served :
    (packInto (codec.pack message) (.block s.heap.next)).run
        { s with heap := s.heap.alloc (.raw (codec.getPackedSize message)) } =
      .ok ((), s.lend (codec.getPackedSize message) (codec.pack message)) := by
  unfold packInto
  rw [Exec.bind_ok (deref_block (Heap.cell_alloc_next ..))]
  simp only [codec.agree, Nat.le_refl, if_true]
  rfl

theorem packPayload_served :
    (packPayload codec message true).run s =
      .ok (.block s.heap.next, s.lend (codec.getPackedSize message) (codec.pack message)) := by
  unfold packPayload
  rw [malloc, Exec.bind_ok (allocate_served ..), Exec.bind_ok (packInto_served codec message)]
  rfl

/-- A payload for which there is no memory is written through NULL. -/
theorem packPayload_refused :
    (packPayload codec message false).run s = .error .nullPointer := by
  unfold packPayload
  rw [malloc, Exec.bind_ok (allocate_refused ..)]
  rfl

end Packing

/-! ### The strings of the session -/

/-- The text of `session->key`, none when it is NULL. -/
def State.keyText (s : State Dn) : Option String :=
  match s.session.key with
  | .block number =>
    match s.heap.cell number with
    | some (.str text) => some text
    | _ => none
  | _ => none

theorem keyText_of_null (empty : s.session.key = .null) : s.keyText = none := by
  unfold State.keyText
  rw [empty]

theorem keyText_of_block {number : Nat} {text : String} (held : s.session.key = .block number)
    (found : s.heap.cell number = some (.str text)) : s.keyText = some text := by
  unfold State.keyText
  rw [held]
  simp only [found]

namespace Intact

variable {id : String}

theorem idBlock (intact : Intact id s) :
    ∃ number, s.session.id = .block number ∧ s.heap.cell number = some (.str id) := by
  obtain ⟨number, contents, held, found, rfl⟩ := intact.required .id fun optional => optional
  exact ⟨number, held, found⟩

theorem keyBlock (intact : Intact id s) :
    (s.session.key = .null ∧ s.keyText = none) ∨ ∃ number text, s.session.key = .block number ∧
      s.heap.cell number = some (.str text) ∧ s.keyText = some text := by
  rcases intact.null_or_block .key with empty | ⟨number, contents, held, found, text, rfl⟩
  · exact Or.inl ⟨empty, keyText_of_null empty⟩
  · exact Or.inr ⟨number, text, held, found, keyText_of_block held found⟩

theorem topicBlock (intact : Intact id s) :
    s.session.downlinkTopic = .null ∨ ∃ number, s.session.downlinkTopic = .block number ∧
      s.heap.cell number = some (.str (downTopic id)) := by
  rcases intact.null_or_block .downlinkTopic with empty | ⟨number, contents, held, found, rfl⟩
  · exact Or.inl empty
  · exact Or.inr ⟨number, held, found⟩

/-- `session->key` is NULL exactly when it has no text. -/
theorem keyText_eq_none_iff (intact : Intact id s) : s.keyText = none ↔ s.session.key = .null := by
  rcases intact.keyBlock with ⟨empty, text⟩ | ⟨number, text, held, _, known⟩
  · exact iff_of_true text empty
  · refine iff_of_false ?_ ?_
    · rw [known]
      exact Option.some_ne_none text
    · rw [held]
      exact Ptr.noConfusion

theorem loadId (intact : Intact id s) : (loadStr s.session.id).run s = .ok (id, s) := by
  obtain ⟨number, held, found⟩ := intact.idBlock
  rw [held, loadStr_block found]

/-- The disconnect message carries the session's id and the key it holds. -/
theorem disconnectMessage (intact : Intact id s) :
    GatewayConnector.disconnectMessage.run s = .ok (⟨id, s.keyText⟩, s) := by
  unfold GatewayConnector.disconnectMessage
  rw [Exec.bind_ok (Exec.run_getState s), Exec.bind_ok intact.loadId]
  rcases intact.keyBlock with ⟨empty, text⟩ | ⟨number, text, held, found, known⟩
  · simp only [empty, text, ne_eq, not_true_eq_false, if_false]
    rfl
  · simp only [held, known, ne_eq, reduceCtorEq, not_false_eq_true, if_true]
    rw [Exec.bind_ok (readOption_some (read_pointer found))]
    rfl

/-- `releaseKey` drops the key. -/
theorem releaseKey (intact : Intact id s) :
    GatewayConnector.releaseKey.run s = .ok ((), s.drop .key) := by
  unfold GatewayConnector.releaseKey
  rw [Exec.bind_ok (Exec.run_getState s)]
  rcases intact.keyBlock with ⟨empty, _⟩ | ⟨number, text, held, found, _⟩
  · rw [empty, Exec.bind_ok freeNotNull_null]
    show Except.ok ((), _) = _
    rw [State.drop, State.at, empty]
    rfl
  · rw [held, Exec.bind_ok (freeNotNull_block found)]
    show Except.ok ((), _) = _
    rw [State.drop, State.at, held]
    rfl

/-- `releaseDownlinkTopic` drops the topic. -/
theorem releaseDownlinkTopic (intact : Intact id s) :
    GatewayConnector.releaseDownlinkTopic.run s = .ok ((), s.drop .downlinkTopic) := by
  unfold GatewayConnector.releaseDownlinkTopic
  rw [Exec.bind_ok (Exec.run_getState s)]
  rcases intact.topicBlock with empty | ⟨number, held, found⟩
  · rw [empty, Exec.bind_ok freeNotNull_null]
    show Except.ok ((), _) = _
    rw [State.drop, State.at, empty]
    rfl
  · rw [held, Exec.bind_ok (freeNotNull_block found)]
    show Except.ok ((), _) = _
    rw [State.drop, State.at, held]
    rfl

end Intact

end GatewayConnector
