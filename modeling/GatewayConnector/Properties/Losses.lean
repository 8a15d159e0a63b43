/-
**How much a session loses.**

A connect writes over `key`, `downlink_topic` and `network` without releasing what they hold, and
`ttngwc_cleanup` leaves the topic and the connection. What is lost stays lost: nothing but
`ttngwc_cleanup` and the fields themselves reaches a block, and only `NetworkDisconnect` closes a
connection. So the losses of a run are a sum over its connects, which the view decides.

* `View.lostBlocks`, `View.lostConnections` — what one call loses.
* `leaked_ncard_after_exec`, `adrift_ncard_after_exec` — that is what it loses.
* `losses_exact` — every run: the blocks and connections that are lost, and those that are left
  after `ttngwc_cleanup`.
-/

import GatewayConnector.Properties.Ownership
import Mathlib.Data.Set.Card

namespace GatewayConnector

open Lib

/-! ### What a call loses -/

namespace View

variable {Up St : Type} (paho : Paho)

/-- The blocks that one call loses: the key it copies over, and the topic it formats over. -/
def lostBlocks (v : View) : Call Up St → ℕ
  | .connect _ _ key o =>
    (if key ≠ none ∧ v.key ≠ none then 1 else 0) +
      if o.network = SUCCESS ∧ v.mqttRc paho o = SUCCESS ∧ v.topic = true then 1 else 0
  | _ => 0

/-- The connections that one call loses: the one it opens another over. -/
def lostConnections (v : View) : Call Up St → ℕ
  | .connect _ _ _ o => if o.network = SUCCESS ∧ v.network = true then 1 else 0
  | _ => 0

/-- The sum over a list of calls. -/
def total (count : View → Call Up St → ℕ) (v : View) : List (Call Up St) → ℕ
  | [] => 0
  | call :: rest => count v call + total count (v.next paho call) rest

end View

variable {Up St Dn : Type} (protobuf : Protobuf Up St Dn) (paho : Paho) {id : String}
  {s s' : State Dn}

/-! ### Blocks -/

/-- There are finitely many leaked blocks. -/
theorem leaked_finite (s : State Dn) : {number | Leaked s number}.Finite :=
  (Set.finite_lt_nat s.heap.next).subset fun _ lost => lost.1.lt_next

/-- One leak more when a pointer that names a block is written over, and none for NULL. -/
theorem ncard_or_block {p : Ptr} (shape : p = .null ∨ ∃ number, p = .block number) {leaks : Set ℕ}
    (finite : leaks.Finite) (fresh : ∀ number, p = .block number → number ∉ leaks) (lost : Prop)
    [Decidable lost] :
    {number | number ∈ leaks ∨ lost ∧ p = .block number}.ncard =
      leaks.ncard + if lost ∧ p ≠ .null then 1 else 0 := by
  rcases shape with null | ⟨number, named⟩
  · simp [null]
  · by_cases hit : lost
    · have set : {other | other ∈ leaks ∨ lost ∧ p = .block other} = insert number leaks := by
        ext other
        simp only [Set.mem_ofPred_eq, Set.mem_insert_iff, hit, true_and, named, Ptr.block.injEq]
        rw [or_comm, eq_comm]
      rw [set, Set.ncard_insert_of_notMem (fresh number named) finite]
      simp [hit, named]
    · simp [hit]

/-- What a connect has leaked, exactly. -/
theorem leaked_after_connect_iff (intact : Intact id s) {host : Option String} {port : Int}
    {key : Option String} {o : ConnectOutcome} (copy : o.keyCopy = true) {rc : Int}
    (ended : ConnectEnd protobuf paho s id host port key o rc s') (number : Nat) :
    Leaked s' number ↔ (Leaked s number ∨ key ≠ none ∧ s.session.key = .block number) ∨
      (o.network = SUCCESS ∧ s.view.mqttRc paho o = SUCCESS) ∧
        s.session.downlinkTopic = .block number := by
  rw [← leaked_reached_iff host port key o intact copy]
  cases ended with
  | network refused =>
    rw [leaked_released]
    exact ⟨Or.inl, fun lost => lost.resolve_right fun held => refused held.1.1⟩
  | mqtt network will refused =>
    rw [leaked_released, leaked_afterMqtt_iff]
    exact ⟨Or.inl, fun lost => lost.resolve_right fun held => refused held.1.2⟩
  | subscribe network will mqtt announcement topic =>
    have leaks : Leaked (if subscribeRc paho s o = SUCCESS
        then s.afterSubscribe protobuf paho id host port key o
        else (s.afterSubscribe protobuf paho id host port key o).released) number ↔
        Leaked (s.afterSubscribe protobuf paho id host port key o) number := by
      split
      · exact Iff.rfl
      · exact leaked_released number
    rw [leaks, leaked_afterSubscribe_iff protobuf paho host port key o intact]
    exact or_congr_right ⟨fun held => ⟨⟨network, mqtt⟩, held⟩, And.right⟩

/-- **The blocks that one connect loses.** -/
theorem leaked_ncard_after_connect (intact : Intact id s) {host : Option String} {port : Int}
    {key : Option String} {o : ConnectOutcome} (copy : o.keyCopy = true) {rc : Int}
    (ended : ConnectEnd protobuf paho s id host port key o rc s') :
    {number | Leaked s' number}.ncard = {number | Leaked s number}.ncard +
      s.view.lostBlocks paho (.connect host port key o : Call Up St) := by
  have set : {number | Leaked s' number} = {number |
      number ∈ {number | number ∈ {number | Leaked s number} ∨
        key ≠ none ∧ s.session.key = .block number} ∨
      (o.network = SUCCESS ∧ s.view.mqttRc paho o = SUCCESS) ∧
        s.session.downlinkTopic = .block number} := by
    ext number
    exact leaked_after_connect_iff protobuf paho intact copy ended number
  have keyShape : s.session.key = .null ∨ ∃ number, s.session.key = .block number :=
    (intact.null_or_block .key).imp_right fun ⟨number, _, held, _⟩ => ⟨number, held⟩
  have topicShape : s.session.downlinkTopic = .null ∨
      ∃ number, s.session.downlinkTopic = .block number :=
    (intact.null_or_block .downlinkTopic).imp_right fun ⟨number, _, held, _⟩ => ⟨number, held⟩
  have keyFresh (number : ℕ) (held : s.session.key = .block number) :
      number ∉ {number | Leaked s number} := fun lost => lost.2 .key held
  -- the topic is not the key, so its block is not lost yet
  have topicFresh (number : ℕ) (held : s.session.downlinkTopic = .block number) :
      number ∉ {number | number ∈ {number | Leaked s number} ∨
        key ≠ none ∧ s.session.key = .block number} := by
    rintro (lost | ⟨_, also⟩)
    · exact lost.2 .downlinkTopic held
    · exact Field.noConfusion (intact.distinct .downlinkTopic .key number held also)
  have finite : {number | number ∈ {number | Leaked s number} ∨
      key ≠ none ∧ s.session.key = .block number}.Finite := by
    refine (Set.finite_lt_nat s.heap.next).subset ?_
    rintro number (lost | ⟨_, held⟩)
    · exact lost.1.lt_next
    · have named : s.at .key = .block number := held
      exact (intact.live named).lt_next
  have keyView : s.view.key ≠ none ↔ s.session.key ≠ .null := not_congr intact.keyText_eq_none_iff
  have topicView : s.view.topic = true ↔ s.session.downlinkTopic ≠ .null := bne_iff_ne
  rw [set, ncard_or_block topicShape finite topicFresh,
    ncard_or_block keyShape (leaked_finite s) keyFresh, View.lostBlocks, Nat.add_assoc]
  simp only [keyView, topicView, and_assoc]

/-- A send leaves the fields and the live blocks as they were. -/
theorem leaked_sent (topic : String) (message : MQTTMessage Bytes) (rc : Int) (number : Nat) :
    Leaked (s.sent topic message rc) number ↔ Leaked s number := by
  have fields (field : Field) : (s.sent topic message rc).at field = s.at field := by
    unfold State.sent
    rw [at_emit, at_scratch, at_scratch]
  exact leaked_congr fields (fun _ => Iff.rfl) number

/-- A disconnect releases the blocks that it gives up. -/
theorem leaked_after_disconnect (o : DisconnectOutcome) (number : Nat) :
    Leaked (((s.departed protobuf paho id o).drop .key).drop .downlinkTopic) number ↔
      Leaked s number := by
  rw [leaked_drop_iff, leaked_drop_iff]
  refine leaked_congr (at_departed protobuf paho o s) (fun number => ?_) number
  unfold Heap.Live
  rw [cell_departed]

/-- **The blocks that one call loses.** -/
theorem leaked_ncard_after_exec (intact : Intact id s) (call : Call Up St) (served : call.Served)
    {rc : Int} (returned : (call.exec protobuf paho).run s = .ok (rc, s')) :
    {number | Leaked s' number}.ncard =
      {number | Leaked s number}.ncard + s.view.lostBlocks paho call := by
  cases call with
  | connect host port key o =>
    have ended := connect_returned protobuf paho host port key o intact returned
    exact leaked_ncard_after_connect protobuf paho intact served.1 ended
  | disconnect o =>
    obtain ⟨_, _, rfl⟩ := disconnect_returned protobuf paho intact returned
    simp only [leaked_after_disconnect]
    rfl
  | sendUplink uplink o =>
    obtain rfl := send_returned_served paho intact served.1 returned
    simp only [leaked_sent]
    rfl
  | sendStatus status o =>
    obtain rfl := send_returned_served paho intact served.1 returned
    simp only [leaked_sent]
    rfl

/-! ### Connections -/

/-- **The connection is open and the session holds another one or none.** -/
def Adrift (s : State Dn) (socket : Nat) : Prop :=
  s.sockets.Live socket ∧ s.session.network ≠ some socket

/-- The connection that the session holds is open. -/
def HoldsOpen (s : State Dn) : Prop :=
  ∀ socket, s.session.network = some socket → s.sockets.Live socket

theorem created_holdsOpen (downlinkHandler : Option Nat) (cbArg : Nat) :
    HoldsOpen (State.created id downlinkHandler cbArg : State Dn) := fun _ held => by cases held

theorem open_finite (s : State Dn) : {socket | s.sockets.Live socket}.Finite :=
  (Set.finite_lt_nat s.sockets.next).subset fun _ live => live.lt_next

/-- What is open is adrift or held. -/
theorem open_ncard (holdsOpen : HoldsOpen s) :
    {socket | s.sockets.Live socket}.ncard =
      {socket | Adrift s socket}.ncard + if s.view.network = true then 1 else 0 := by
  cases connection : s.session.network with
  | none =>
    have closed : s.view.network = false := by
      unfold State.view
      rw [connection]
      rfl
    simp [Adrift, connection, closed]
  | some socket =>
    have isOpen : s.view.network = true := by
      unfold State.view
      rw [connection]
      rfl
    have set : {other | s.sockets.Live other} = insert socket {other | Adrift s other} := by
      ext other
      simp only [Set.mem_ofPred_eq, Set.mem_insert_iff, Adrift, connection, Ne, Option.some.injEq]
      constructor
      · intro live
        by_cases same : other = socket
        · exact Or.inl same
        · exact Or.inr ⟨live, fun also => same also.symm⟩
      · rintro (rfl | ⟨live, _⟩)
        · exact holdsOpen other connection
        · exact live
    have fresh : socket ∉ {other | Adrift s other} := fun lost => lost.2 connection
    rw [set, Set.ncard_insert_of_notMem fresh ((open_finite s).subset fun _ lost => lost.1),
      if_pos isOpen]

/-- Opening a connection puts what was held adrift. -/
theorem adrift_after_connect {host : Option String} {port : Int} {key : Option String}
    {o : ConnectOutcome} (holdsOpen : HoldsOpen s) {rc : Int}
    (ended : ConnectEnd protobuf paho s id host port key o rc s') :
    HoldsOpen s' ∧ {socket | Adrift s' socket}.ncard = {socket | Adrift s socket}.ncard +
      s.view.lostConnections (.connect host port key o : Call Up St) := by
  obtain ⟨sockets, network⟩ := connect_sockets protobuf paho host port key o ended
  by_cases opened : o.network = SUCCESS
  · rw [if_pos opened] at sockets network
    constructor
    · intro socket held
      rw [network] at held
      rw [sockets]
      exact (Heap.live_alloc ..).mpr (Or.inl (Option.some.inj held).symm)
    · -- the new connection is the one that is held, so adrift is what was open before
      have set : {socket | Adrift s' socket} = {socket | s.sockets.Live socket} := by
        ext socket
        simp only [Set.mem_ofPred_eq, Adrift, sockets, network, Heap.live_alloc, Ne,
          Option.some.injEq]
        constructor
        · rintro ⟨new | live, other⟩
          · exact absurd new.symm other
          · exact live
        · intro live
          exact ⟨Or.inr live, fun same => Nat.lt_irrefl _ (same ▸ live.lt_next)⟩
      rw [set, open_ncard holdsOpen, View.lostConnections]
      simp only [opened, true_and]
  · rw [if_neg opened] at sockets network
    constructor
    · intro socket held
      rw [sockets]
      exact holdsOpen socket (network ▸ held)
    · simp [Adrift, sockets, network, View.lostConnections, opened]

/-- `NetworkDisconnect` closes what is held. -/
theorem adrift_closeSocket : Adrift s.closeSocket = Adrift s := by
  funext socket
  unfold State.closeSocket
  cases connection : s.session.network with
  | none => rfl
  | some held =>
    apply propext
    simp only [Adrift, Heap.live_free, connection, Ne, reduceCtorEq, not_false_eq_true, and_true,
      Option.some.injEq]
    rw [and_comm, eq_comm]

/-- **The connections that one call loses.** -/
theorem adrift_ncard_after_exec (intact : Intact id s) (holdsOpen : HoldsOpen s)
    (call : Call Up St) {rc : Int} (served : call.Served)
    (returned : (call.exec protobuf paho).run s = .ok (rc, s')) :
    HoldsOpen s' ∧ {socket | Adrift s' socket}.ncard =
      {socket | Adrift s socket}.ncard + s.view.lostConnections call := by
  cases call with
  | connect host port key o =>
    have ended := connect_returned protobuf paho host port key o intact returned
    exact adrift_after_connect protobuf paho holdsOpen ended
  | disconnect o =>
    obtain ⟨_, _, rfl⟩ := disconnect_returned protobuf paho intact returned
    constructor
    · intro socket held
      have gone : (((s.departed protobuf paho id o).drop .key).drop .downlinkTopic).session.network =
          none := (departed_connection protobuf paho id o).1
      rw [gone] at held
      cases held
    · show {socket | Adrift (State.closeSocket _) socket}.ncard = _
      rw [adrift_closeSocket]
      rfl
  | sendUplink uplink o =>
    obtain rfl := send_returned_served paho intact served.1 returned
    exact ⟨holdsOpen, rfl⟩
  | sendStatus status o =>
    obtain rfl := send_returned_served paho intact served.1 returned
    exact ⟨holdsOpen, rfl⟩

/-! ### Every run -/

/-- **A run loses the sum of what its calls lose.** -/
theorem run_losses (intact : Intact id s) (holdsOpen : HoldsOpen s) {calls : List (Call Up St)}
    (served : ∀ call ∈ calls, call.Served) {rcs : List Int} {last : State Dn}
    (ran : (runCalls protobuf paho calls).run s = .ok (rcs, last)) :
    HoldsOpen last ∧
      {number | Leaked last number}.ncard =
        {number | Leaked s number}.ncard + s.view.total paho (View.lostBlocks paho) calls ∧
      {socket | Adrift last socket}.ncard =
        {socket | Adrift s socket}.ncard + s.view.total paho View.lostConnections calls := by
  induction calls generalizing s rcs with
  | nil =>
    cases ran
    exact ⟨holdsOpen, rfl, rfl⟩
  | cons call rest ih =>
    obtain ⟨rc, s', later, returned, more, _⟩ := runAll_cons_ok _ ran
    have servedHere := served call List.mem_cons_self
    have one := refines_of_returned protobuf paho intact servedHere returned
    have blocks := leaked_ncard_after_exec protobuf paho intact call servedHere returned
    obtain ⟨holdsThen, connections⟩ :=
      adrift_ncard_after_exec protobuf paho intact holdsOpen call servedHere returned
    obtain ⟨holdsLast, allBlocks, allConnections⟩ :=
      ih one.intact holdsThen (fun other member => served other (List.mem_cons_of_mem _ member)) more
    refine ⟨holdsLast, ?_, ?_⟩
    · rw [allBlocks, blocks, one.view, Nat.add_assoc]
      rfl
    · rw [allConnections, connections, one.view, Nat.add_assoc]
      rfl

/-- `ttngwc_cleanup` leaves the blocks that are lost, and the topic. -/
theorem blocks_left (intact : Intact id s) :
    {number | s.cleanedHeap.Live number}.ncard =
      {number | Leaked s number}.ncard + if s.view.topic = true then 1 else 0 := by
  have set : {number | s.cleanedHeap.Live number} =
      {number | number ∈ {number | Leaked s number} ∨
        True ∧ s.session.downlinkTopic = .block number} := by
    ext number
    simp only [Set.mem_ofPred_eq, live_cleanedHeap, true_and]
    constructor
    · rintro ⟨live, unnamed⟩
      by_cases topic : s.session.downlinkTopic = .block number
      · exact Or.inr topic
      · refine Or.inl ⟨live, fun field => ?_⟩
        by_cases same : field = .downlinkTopic
        · rw [same]
          exact topic
        · exact unnamed field same
    · rintro (⟨live, unnamed⟩ | topic)
      · exact ⟨live, fun field _ => unnamed field⟩
      · have named : s.at .downlinkTopic = .block number := topic
        exact ⟨intact.live named, fun field other held =>
          other (intact.distinct field .downlinkTopic number held topic)⟩
  have shape : s.session.downlinkTopic = .null ∨
      ∃ number, s.session.downlinkTopic = .block number :=
    (intact.null_or_block .downlinkTopic).imp_right fun ⟨number, _, held, _⟩ => ⟨number, held⟩
  have topicView : s.view.topic = true ↔ s.session.downlinkTopic ≠ .null := bne_iff_ne
  rw [set, ncard_or_block shape (leaked_finite s) (fun number held lost =>
    lost.2 .downlinkTopic held) True]
  simp only [topicView, true_and]

/-- **What every run loses.** Take any calls after `ttngwc_init`, with their allocations served and
with any outcomes. They return; the blocks that are lost are as many as its connects wrote over, and
so are the connections. After `ttngwc_cleanup` these are left, together with the topic and the
connection that the session still held. -/
theorem losses_exact (id : String) (downlinkHandler : Option Nat) (cbArg : Nat)
    (calls : List (Call Up St)) (served : ∀ call ∈ calls, call.Served) :
    ∃ rcs last, (runCalls protobuf paho calls).run
        (State.created id downlinkHandler cbArg : State Dn) = .ok (rcs, last) ∧
      {number | Leaked last number}.ncard = View.fresh.total paho (View.lostBlocks paho) calls ∧
      {socket | Adrift last socket}.ncard = View.fresh.total paho View.lostConnections calls ∧
      ∃ s', ttngwcCleanup.run last = .ok ((), s') ∧
        {number | s'.heap.Live number}.ncard =
          View.fresh.total paho (View.lostBlocks paho) calls +
            (if (View.fresh.after paho calls).topic = true then 1 else 0) ∧
        {socket | s'.sockets.Live socket}.ncard =
          View.fresh.total paho View.lostConnections calls +
            (if (View.fresh.after paho calls).network = true then 1 else 0) := by
  have intact : Intact id (State.created id downlinkHandler cbArg : State Dn) := created_intact ..
  obtain ⟨rcs, last, ran, refined⟩ := run_served protobuf paho intact calls served
  obtain ⟨holdsOpen, blocks, connections⟩ :=
    run_losses protobuf paho intact (created_holdsOpen downlinkHandler cbArg) served ran
  have noBlocks : {number | Leaked (State.created id downlinkHandler cbArg : State Dn) number} = ∅ := by
    refine Set.eq_empty_iff_forall_notMem.mpr ?_
    rintro number ⟨live, unnamed⟩
    obtain ⟨field, named⟩ := (created_live id downlinkHandler cbArg number).mp live
    exact unnamed field named
  have noConnections :
      {socket | Adrift (State.created id downlinkHandler cbArg : State Dn) socket} = ∅ :=
    Set.eq_empty_iff_forall_notMem.mpr fun socket lost => Heap.not_live_empty socket lost.1
  rw [noBlocks, Set.ncard_empty, Nat.zero_add, created_view] at blocks
  rw [noConnections, Set.ncard_empty, Nat.zero_add, created_view] at connections
  have view : last.view = View.fresh.after paho calls := refined.view
  refine ⟨rcs, last, ran, blocks, connections, _, cleanup_intact refined.intact, ?_, ?_⟩
  · rw [blocks_left refined.intact, blocks, view]
  · rw [open_ncard holdsOpen, connections, view]

/-- Two connects that are accepted, with a disconnect between them, and a third that is refused. -/
theorem losses_exact_thrice :
    ∃ rcs last, (runCalls wireProtobuf embeddedPaho
        [connectCall (some "secret") SUCCESS SUCCESS SUCCESS SUCCESS,
          disconnectCall SUCCESS SUCCESS,
          connectCall (some "secret") SUCCESS SUCCESS SUCCESS SUCCESS,
          connectCall (some "other") SUCCESS SUCCESS SUCCESS SUCCESS]).run
        (State.created "gw" (some 7) 42 : State Bytes) = .ok (rcs, last) ∧
      {number | Leaked last number}.ncard = 1 ∧
      {socket | Adrift last socket}.ncard = 1 ∧
      ∃ s', ttngwcCleanup.run last = .ok ((), s') ∧
        {number | s'.heap.Live number}.ncard = 1 ∧
        {socket | s'.sockets.Live socket}.ncard = 2 :=
  losses_exact wireProtobuf embeddedPaho "gw" (some 7) 42 _ (by decide)

end GatewayConnector
