/-
**What the connector owns.**

A block is leaked when it is live and no field names it; a connection is adrift when it is open and
the session holds another one or none. `Accounted` says that there is neither. A connect replaces
what `key`, `downlink_topic` and `network` hold without releasing it, and `ttngwc_cleanup` neither
releases `downlink_topic` nor closes the network.

* `accounted_after_connect_iff` — one connect.
* `resources_accounted_iff` — every run with the `ttngwc_cleanup` at its end: nothing is lost
  exactly when it connects on a closed network only, apart from attempts that fail at
  `NetworkConnect` and copy over no key, and is cleaned up with the network closed.
* `resources_not_accounted` — a connect and a cleanup.
-/

import GatewayConnector.Model.Embedded
import GatewayConnector.Proof.Footprint
import GatewayConnector.Proof.Refinement
import GatewayConnector.Proof.Returned

namespace GatewayConnector

open Lib

variable {Up St Dn : Type} (protobuf : Protobuf Up St Dn) (paho : Paho) {id : String}
  {s s' : State Dn}

/-! ### Leaked blocks -/

/-- The block was not released and no field names it. -/
def Leaked (s : State Dn) (number : Nat) : Prop :=
  s.heap.Live number ∧ ∀ field, s.at field ≠ .block number

/-- Allocating a block for a field leaks the block that the field named. -/
theorem leaked_hold_iff (intact : Intact id s) (field : Field) (contents : Block) (number : Nat) :
    Leaked (s.hold field contents) number ↔ Leaked s number ∨ s.at field = .block number := by
  unfold Leaked
  rw [heap_hold, Heap.live_alloc]
  constructor
  · rintro ⟨live, unnamed⟩
    have older : number ≠ s.heap.next := by
      rintro rfl
      exact unnamed field (at_hold_self ..)
    by_cases held : s.at field = .block number
    · exact Or.inr held
    · refine Or.inl ⟨live.resolve_left older, fun other => ?_⟩
      by_cases same : other = field
      · rwa [same]
      · rw [← at_hold_of_ne s contents same]
        exact unnamed other
  · intro lost
    have live : s.heap.Live number := lost.elim And.left intact.live
    refine ⟨Or.inr live, fun other named => ?_⟩
    by_cases same : other = field
    · rw [same, at_hold_self] at named
      have age := live.lt_next
      rw [Ptr.block.inj named] at age
      exact Nat.lt_irrefl _ age
    · rw [at_hold_of_ne s contents same] at named
      rcases lost with ⟨_, unnamed⟩ | held
      · exact unnamed other named
      · exact same (intact.distinct other field number named held)

/-- Releasing the block of a field leaks nothing. -/
theorem leaked_drop_iff (field : Field) (number : Nat) :
    Leaked (s.drop field) number ↔ Leaked s number := by
  unfold Leaked
  rw [heap_drop, live_without]
  constructor
  · rintro ⟨⟨live, elsewhere⟩, unnamed⟩
    refine ⟨live, fun other => ?_⟩
    by_cases same : other = field
    · rwa [same]
    · rw [← at_drop_of_ne s same]
      exact unnamed other
  · rintro ⟨live, unnamed⟩
    refine ⟨⟨live, unnamed field⟩, fun other => ?_⟩
    by_cases same : other = field
    · rw [same, at_drop_self]
      exact Ptr.noConfusion
    · rw [at_drop_of_ne s same]
      exact unnamed other

/-- A state with the same fields and the same live blocks has the same leaks. -/
theorem leaked_congr (fields : ∀ field, s'.at field = s.at field)
    (blocks : ∀ number, s'.heap.Live number ↔ s.heap.Live number) (number : Nat) :
    Leaked s' number ↔ Leaked s number := by
  unfold Leaked
  rw [blocks]
  exact and_congr_right fun _ => forall_congr' fun field => by rw [fields]

theorem leaked_released (number : Nat) : Leaked s.released number ↔ Leaked s number := by
  unfold State.released
  rw [leaked_drop_iff, leaked_drop_iff]

section Connect

variable (host : Option String) (port : Int) (key : Option String) (o : ConnectOutcome)

theorem leaked_reached_iff (intact : Intact id s) (copy : o.keyCopy = true) (number : Nat) :
    Leaked (s.reached host port key o) number ↔
      Leaked s number ∨ key ≠ none ∧ s.session.key = .block number := by
  have connected : Leaked (s.reached host port key o) number ↔
      Leaked (s.keyCopied key o.keyCopy) number := by
    unfold State.reached State.networkConnected
    refine leaked_congr (fun field => ?_) (fun number => ?_) number
    · split <;> cases field <;> rfl
    · split <;> rfl
  rw [connected, copy]
  cases key with
  | none => exact ⟨Or.inl, fun lost => lost.elim (fun lost => lost) fun lost => absurd rfl lost.1⟩
  | some text =>
    show Leaked (s.hold .key (.str text)) number ↔ _
    rw [leaked_hold_iff intact]
    exact or_congr_right (and_iff_right (Option.some_ne_none text)).symm

theorem leaked_afterMqtt_iff (number : Nat) :
    Leaked (s.afterMqtt protobuf paho id host port key o) number ↔
      Leaked (s.reached host port key o) number := by
  unfold State.afterMqtt State.mqttConnected
  refine leaked_congr (fun field => ?_) (fun number => ?_) number
  · split <;> cases field <;> rfl
  · split <;> rfl

theorem leaked_afterSubscribe_iff (intact : Intact id s) (number : Nat) :
    Leaked (s.afterSubscribe protobuf paho id host port key o) number ↔
      Leaked (s.reached host port key o) number ∨ s.session.downlinkTopic = .block number := by
  have subscribed : Leaked (s.afterSubscribe protobuf paho id host port key o) number ↔
      Leaked ((s.afterAnnounce protobuf paho id host port key o).hold .downlinkTopic
        (.str (downTopic id))) number := by
    unfold State.afterSubscribe State.subscribed
    refine leaked_congr (fun field => ?_) (fun number => ?_) number
    · split <;> cases field <;> rfl
    · split <;> rfl
  have announced : Leaked (s.afterAnnounce protobuf paho id host port key o) number ↔
      Leaked (s.afterMqtt protobuf paho id host port key o) number :=
    leaked_congr (fun field => by cases field <;> rfl) (fun _ => Iff.rfl) number
  have topic : (s.afterAnnounce protobuf paho id host port key o).at .downlinkTopic =
      s.session.downlinkTopic := by
    show (s.afterMqtt protobuf paho id host port key o).session.downlinkTopic = _
    unfold State.afterMqtt State.mqttConnected State.reached State.networkConnected
    cases key with
    | none => split <;> split <;> rfl
    | some text => cases o.keyCopy <;> split <;> split <;> rfl
  rw [subscribed, leaked_hold_iff (intact.afterAnnounce protobuf paho host port key o), topic,
    announced, leaked_afterMqtt_iff]

end Connect

/-! ### The account -/

/-- **Every block and every open connection is held**: each live block is named by exactly one
field, and each open connection is the one in `session->network`. -/
structure Accounted (s : State Dn) : Prop where
  blocks : ∀ number, s.heap.Live number → ∃! field, s.at field = .block number
  sockets : ∀ socket, s.sockets.Live socket → s.session.network = some socket

/-- Nothing is live and nothing is open. -/
structure NothingLeft (s : State Dn) : Prop where
  blocks : ∀ number, ¬ s.heap.Live number
  sockets : ∀ socket, ¬ s.sockets.Live socket

/-- Blocks are named by one field at most, so only leaks can spoil the account. -/
theorem accounted_iff (intact : Intact id s) :
    Accounted s ↔ (∀ number, ¬ Leaked s number) ∧
      ∀ socket, s.sockets.Live socket → s.session.network = some socket := by
  constructor
  · rintro ⟨blocks, sockets⟩
    refine ⟨fun number lost => ?_, sockets⟩
    obtain ⟨field, named, _⟩ := blocks number lost.1
    exact lost.2 field named
  · rintro ⟨unleaked, sockets⟩
    refine ⟨fun number live => ?_, sockets⟩
    have named : ∃ field, s.at field = .block number := by
      by_contra unnamed
      exact unleaked number ⟨live, fun field named => unnamed ⟨field, named⟩⟩
    obtain ⟨field, named⟩ := named
    exact ⟨field, named, fun other also => intact.distinct other field number also named⟩

/-- The account together with what else a run keeps: the connection the session holds is open, and
a session without a connection holds no key and no topic. -/
structure Ledger (s : State Dn) : Prop where
  accounted : Accounted s
  isOpen : ∀ socket, s.session.network = some socket → s.sockets.Live socket
  closed : s.session.network = none → s.session.key = .null ∧ s.session.downlinkTopic = .null

theorem created_ledger (downlinkHandler : Option Nat) (cbArg : Nat) :
    Ledger (State.created id downlinkHandler cbArg : State Dn) where
  accounted := by
    refine (accounted_iff (created_intact id downlinkHandler cbArg)).mpr ⟨?_, ?_⟩
    · rintro number ⟨live, unnamed⟩
      obtain ⟨field, named⟩ := (created_live id downlinkHandler cbArg number).mp live
      exact unnamed field named
    · intro socket live
      exact absurd live (Heap.not_live_empty socket)
  isOpen _ held := by cases held
  closed _ := ⟨rfl, rfl⟩

/-! ### One connect -/

/-- The connects that lose nothing: on a closed network, or failing at `NetworkConnect` without
copying a key over the one that is held. -/
def LosesNothing (v : View) (key : Option String) (o : ConnectOutcome) : Prop :=
  v.network = false ∨ o.network ≠ SUCCESS ∧ (key = none ∨ v.key = none)

section Account

variable (host : Option String) (port : Int) (key : Option String) (o : ConnectOutcome)

/-- What a call has leaked when it returns, whatever it did after `NetworkConnect`. -/
theorem leaked_after_connect (intact : Intact id s) (copy : o.keyCopy = true) {rc : Int}
    (ended : ConnectEnd protobuf paho s id host port key o rc s') (number : Nat) :
    (Leaked s number ∨ key ≠ none ∧ s.session.key = .block number → Leaked s' number) ∧
      (Leaked s' number → Leaked s number ∨ key ≠ none ∧ s.session.key = .block number ∨
        o.network = SUCCESS ∧ s.session.downlinkTopic = .block number) := by
  rw [← leaked_reached_iff host port key o intact copy, ← or_assoc,
    ← leaked_reached_iff host port key o intact copy]
  cases ended with
  | network refused =>
    rw [leaked_released]
    exact ⟨fun lost => lost, Or.inl⟩
  | mqtt network will refused =>
    rw [leaked_released, leaked_afterMqtt_iff]
    exact ⟨fun lost => lost, Or.inl⟩
  | subscribe network will mqtt announcement topic =>
    have leaks : Leaked (if subscribeRc paho s o = SUCCESS
        then s.afterSubscribe protobuf paho id host port key o
        else (s.afterSubscribe protobuf paho id host port key o).released) number ↔
        Leaked (s.afterSubscribe protobuf paho id host port key o) number := by
      split
      · exact Iff.rfl
      · exact leaked_released number
    rw [leaks, leaked_afterSubscribe_iff protobuf paho host port key o intact]
    exact ⟨Or.inl, fun lost => lost.imp_right fun held => ⟨network, held⟩⟩

/-- On a session without a connection a connect has nothing to lose. -/
theorem accounted_after_connect_closed (intact : Intact id s) (ledger : Ledger s)
    (copy : o.keyCopy = true) {rc : Int} (intactAfter : Intact id s')
    (ended : ConnectEnd protobuf paho s id host port key o rc s')
    (closed : s.session.network = none) : Accounted s' := by
  obtain ⟨unleaked, held⟩ := (accounted_iff intact).mp ledger.accounted
  obtain ⟨sockets, network⟩ := connect_sockets protobuf paho host port key o ended
  obtain ⟨keyNull, topicNull⟩ := ledger.closed closed
  have unopened : ∀ socket, ¬ s.sockets.Live socket := by
    intro socket live
    have same := held socket live
    rw [closed] at same
    cases same
  rw [accounted_iff intactAfter, sockets, network]
  refine ⟨fun number lost => ?_, fun socket live => ?_⟩
  · rcases (leaked_after_connect protobuf paho host port key o intact copy ended number).2 lost with
      before | ⟨_, key⟩ | ⟨_, topic⟩
    · exact unleaked number before
    · rw [keyNull] at key
      cases key
    · rw [topicNull] at topic
      cases topic
  · by_cases opened : o.network = SUCCESS
    · rw [if_pos opened] at live ⊢
      rcases (Heap.live_alloc s.sockets () socket).mp live with same | before
      · rw [same]
      · exact absurd before (unopened socket)
    · rw [if_neg opened] at live
      exact absurd live (unopened socket)

/-- A connection that is open when another one is opened stays open and is lost. -/
theorem not_accounted_after_connect_opened {socket : Nat} (ledger : Ledger s) {rc : Int}
    (ended : ConnectEnd protobuf paho s id host port key o rc s')
    (connected : s.session.network = some socket) (opened : o.network = SUCCESS) : ¬ Accounted s' := by
  obtain ⟨sockets, network⟩ := connect_sockets protobuf paho host port key o ended
  rw [if_pos opened] at sockets network
  have live := ledger.isOpen socket connected
  intro account
  have stays : s'.sockets.Live socket := by
    rw [sockets]
    exact (Heap.live_alloc s.sockets () socket).mpr (Or.inr live)
  have same := account.sockets socket stays
  rw [network] at same
  have age := live.lt_next
  rw [Option.some.inj same] at age
  exact Nat.lt_irrefl _ age

/-- A connect that opens nothing loses at most the key. -/
theorem accounted_after_connect_refused_iff (intact : Intact id s) (ledger : Ledger s)
    (copy : o.keyCopy = true) {rc : Int} (intactAfter : Intact id s')
    (ended : ConnectEnd protobuf paho s id host port key o rc s')
    (refused : o.network ≠ SUCCESS) : Accounted s' ↔ key = none ∨ s.view.key = none := by
  obtain ⟨unleaked, held⟩ := (accounted_iff intact).mp ledger.accounted
  obtain ⟨sockets, network⟩ := connect_sockets protobuf paho host port key o ended
  have leaks := leaked_after_connect protobuf paho host port key o intact copy ended
  have noKey : s.view.key = none ↔ s.session.key = .null := intact.keyText_eq_none_iff
  rw [accounted_iff intactAfter, sockets, network, if_neg refused, if_neg refused]
  constructor
  · rintro ⟨after, _⟩
    by_cases given : key = none
    · exact Or.inl given
    · refine Or.inr (noKey.mpr ?_)
      rcases intact.keyBlock with ⟨empty, _⟩ | ⟨number, _, named, _, _⟩
      · exact empty
      · exact absurd ((leaks number).1 (Or.inr ⟨given, named⟩)) (after number)
  · intro unkeyed
    refine ⟨fun number lost => ?_, held⟩
    rcases (leaks number).2 lost with before | ⟨given, named⟩ | ⟨success, _⟩
    · exact unleaked number before
    · rcases unkeyed with absent | empty
      · exact given absent
      · rw [noKey.mp empty] at named
        cases named
    · exact refused success

/-- **One connect keeps the account exactly when it loses nothing.** -/
theorem accounted_after_connect_iff (intact : Intact id s) (ledger : Ledger s)
    (copy : o.keyCopy = true) {rc : Int} (intactAfter : Intact id s')
    (ended : ConnectEnd protobuf paho s id host port key o rc s') :
    Accounted s' ↔ LosesNothing s.view key o := by
  cases connection : s.session.network with
  | none =>
    have closed : s.view.network = false := by
      show s.session.network.isSome = false
      rw [connection]
      rfl
    exact iff_of_true (accounted_after_connect_closed protobuf paho host port key o intact ledger
      copy intactAfter ended connection) (Or.inl closed)
  | some socket =>
    have isOpen : s.view.network ≠ false := by
      show s.session.network.isSome ≠ false
      rw [connection]
      exact Bool.noConfusion
    by_cases opened : o.network = SUCCESS
    · refine iff_of_false (not_accounted_after_connect_opened protobuf paho host port key o ledger
        ended connection opened) fun loses => ?_
      rcases loses with closed | ⟨refused, _⟩
      · exact isOpen closed
      · exact refused opened
    · rw [accounted_after_connect_refused_iff protobuf paho host port key o intact ledger copy
        intactAfter ended opened]
      exact ⟨fun unkeyed => Or.inr ⟨opened, unkeyed⟩, fun loses =>
        (loses.resolve_left isOpen).2⟩

/-- After a connect a session without a connection holds no key and no topic. -/
theorem ledger_after_connect (ledger : Ledger s) {rc : Int}
    (ended : ConnectEnd protobuf paho s id host port key o rc s') (accounted : Accounted s') :
    Ledger s' where
  accounted := accounted
  isOpen socket held := by
    obtain ⟨sockets, network⟩ := connect_sockets protobuf paho host port key o ended
    rw [sockets]
    rw [network] at held
    by_cases opened : o.network = SUCCESS
    · rw [if_pos opened] at held ⊢
      exact (Heap.live_alloc ..).mpr (Or.inl (Option.some.inj held).symm)
    · rw [if_neg opened] at held ⊢
      exact ledger.isOpen socket held
  closed none := by
    obtain ⟨_, network⟩ := connect_sockets protobuf paho host port key o ended
    rw [network] at none
    cases ended with
    | network refused => exact ⟨rfl, rfl⟩
    | mqtt network will refused => exact ⟨rfl, rfl⟩
    | subscribe success will mqtt announcement topic =>
      rw [if_pos success] at none
      cases none

end Account

/-! ### The other calls -/

theorem ledger_sent (intact : Intact id s) (ledger : Ledger s) (topic : String)
    (message : MQTTMessage Bytes) (rc : Int) : Ledger (s.sent topic message rc) where
  accounted := by
    have fields : ∀ field, (s.sent topic message rc).at field = s.at field := by
      intro field
      unfold State.sent
      rw [at_emit, at_scratch, at_scratch]
    have same : ∀ number, Leaked (s.sent topic message rc) number ↔ Leaked s number :=
      leaked_congr fields fun _ => Iff.rfl
    rw [accounted_iff (intact.sent topic message rc)]
    obtain ⟨unleaked, held⟩ := (accounted_iff intact).mp ledger.accounted
    exact ⟨fun number lost => unleaked number ((same number).mp lost), held⟩
  isOpen := ledger.isOpen
  closed := ledger.closed

/-- `NetworkDisconnect` closes the one connection there is. -/
theorem closeSocket_sockets
    (held : ∀ socket, s.sockets.Live socket → s.session.network = some socket) (socket : Nat) :
    ¬ s.closeSocket.sockets.Live socket := by
  unfold State.closeSocket
  cases connection : s.session.network with
  | none =>
    intro live
    have same := held socket live
    rw [connection] at same
    cases same
  | some number =>
    show ¬ (s.sockets.free number).Live socket
    rw [Heap.live_free]
    rintro ⟨other, live⟩
    have same := held socket live
    rw [connection] at same
    exact other (Option.some.inj same).symm

theorem ledger_departed (intact : Intact id s) (ledger : Ledger s) (o : DisconnectOutcome) :
    Ledger (((s.departed protobuf paho id o).drop .key).drop .downlinkTopic) where
  accounted := by
    have intactAfter := ((intact.departed protobuf paho o).drop .key trivial).drop
      .downlinkTopic trivial
    have same : ∀ number, Leaked (s.departed protobuf paho id o) number ↔ Leaked s number := by
      refine leaked_congr (at_departed protobuf paho o s) fun number => ?_
      unfold Heap.Live
      rw [cell_departed]
    obtain ⟨unleaked, held⟩ := (accounted_iff intact).mp ledger.accounted
    rw [accounted_iff intactAfter]
    refine ⟨fun number lost => ?_, fun socket live => ?_⟩
    · rw [leaked_drop_iff, leaked_drop_iff, same] at lost
      exact unleaked number lost
    · exact absurd live
        (closeSocket_sockets (s := ((s.scratch.emit _).setConnected false).emit _) held socket)
  isOpen socket held := by
    have gone : (((s.departed protobuf paho id o).drop .key).drop .downlinkTopic).session.network =
        none := (departed_connection protobuf paho id o).1
    rw [gone] at held
    cases held
  closed _ := ⟨rfl, rfl⟩

/-! ### `ttngwc_cleanup` -/

/-- **A cleanup leaves nothing exactly when the network is closed.** -/
theorem nothingLeft_after_cleanup_iff (ledger : Ledger s) :
    NothingLeft { s with heap := s.cleanedHeap } ↔ s.session.network = none := by
  constructor
  · rintro ⟨_, sockets⟩
    rw [Option.eq_none_iff_forall_not_mem]
    exact fun socket held => sockets socket (ledger.isOpen socket held)
  · intro closed
    obtain ⟨_, topicNull⟩ := ledger.closed closed
    refine ⟨fun number live => ?_, fun socket live => ?_⟩
    · obtain ⟨before, unnamed⟩ := (live_cleanedHeap number).mp live
      obtain ⟨field, named, _⟩ := ledger.accounted.blocks number before
      by_cases topic : field = .downlinkTopic
      · subst topic
        have empty : s.at .downlinkTopic = .null := topicNull
        rw [empty] at named
        cases named
      · exact unnamed field topic named
    · have held := ledger.accounted.sockets socket live
      rw [closed] at held
      cases held

/-! ### Every run -/

/-- The condition on a call of a run. -/
def KeepsAccount (v : View) : Call Up St → Prop
  | .connect _ _ key o => LosesNothing v key o
  | _ => True

instance (v : View) (key : Option String) (o : ConnectOutcome) :
    Decidable (LosesNothing v key o) :=
  inferInstanceAs (Decidable (_ ∨ _ ∧ (_ ∨ _)))

instance (v : View) : (call : Call Up St) → Decidable (KeepsAccount v call)
  | .connect _ _ key o => inferInstanceAs (Decidable (LosesNothing v key o))
  | .disconnect _ | .sendUplink _ _ | .sendStatus _ _ => inferInstanceAs (Decidable True)

/-- A call keeps the account exactly when it is allowed, and the ledger with it. -/
theorem ledger_after_exec (intact : Intact id s) (ledger : Ledger s) (call : Call Up St)
    (served : call.Served) {rc : Int} (returned : (call.exec protobuf paho).run s = .ok (rc, s')) :
    (Accounted s' ↔ KeepsAccount s.view call) ∧ (KeepsAccount s.view call → Ledger s') := by
  have intactAfter := exec_intact protobuf paho intact call returned
  cases call with
  | connect host port key o =>
    have ended := connect_returned protobuf paho host port key o intact returned
    have account := accounted_after_connect_iff protobuf paho host port key o intact ledger served.1
      intactAfter ended
    exact ⟨account, fun permit =>
      ledger_after_connect protobuf paho host port key o ledger ended (account.mpr permit)⟩
  | disconnect o =>
    obtain ⟨_, _, rfl⟩ := disconnect_returned protobuf paho intact returned
    have after := ledger_departed protobuf paho intact ledger o
    exact ⟨iff_of_true after.accounted trivial, fun _ => after⟩
  | sendUplink uplink o =>
    obtain rfl := send_returned_served paho intact served.1 returned
    exact ⟨iff_of_true (ledger_sent intact ledger _ _ _).accounted trivial,
      fun _ => ledger_sent intact ledger _ _ _⟩
  | sendStatus status o =>
    obtain rfl := send_returned_served paho intact served.1 returned
    exact ⟨iff_of_true (ledger_sent intact ledger _ _ _).accounted trivial,
      fun _ => ledger_sent intact ledger _ _ _⟩

/-- **Resources over runs.** In a run from `ttngwc_init` to `ttngwc_cleanup` whose allocations are
served, with any other outcomes, every live block and open connection is held by one field after
every call and none is left at the end, exactly when every connect of the run loses nothing and the
network is closed at the end. -/
theorem resources_accounted_iff (id : String) (downlinkHandler : Option Nat) (cbArg : Nat)
    (calls : List (Call Up St)) (served : ∀ call ∈ calls, call.Served) :
    (Accounted (State.created id downlinkHandler cbArg : State Dn) ∧
      Throughout (Call.exec protobuf paho) (fun _ _ _ s' => Accounted s') calls
        (State.created id downlinkHandler cbArg : State Dn) ∧
      ∀ rcs last, (runCalls protobuf paho calls).run
          (State.created id downlinkHandler cbArg : State Dn) = .ok (rcs, last) →
        ∃ s', ttngwcCleanup.run last = .ok ((), s') ∧ NothingLeft s') ↔
      View.fresh.Along paho KeepsAccount calls ∧
        (View.fresh.after paho calls).network = false := by
  have intact : Intact id (State.created id downlinkHandler cbArg : State Dn) := created_intact ..
  have ledger : Ledger (State.created id downlinkHandler cbArg : State Dn) := created_ledger ..
  have along := throughout_iff_view protobuf paho (J := Ledger)
    (Q := fun _ _ _ s' => Accounted s') (fun s call rc s' intact ledger served returned =>
      ledger_after_exec protobuf paho intact ledger call served returned) intact ledger calls served
  obtain ⟨rcs, last, ran, refined⟩ := run_served protobuf paho intact calls served
  have network : (View.fresh.after paho calls).network = last.session.network.isSome :=
    (congrArg View.network refined.view).symm
  have ledgerAt : View.fresh.Along paho KeepsAccount calls → Ledger last := fun permits =>
    invariant_of_along protobuf paho (fun s call rc s' intact ledger served returned =>
      (ledger_after_exec protobuf paho intact ledger call served returned).2) intact ledger served
      permits ran
  constructor
  · rintro ⟨_, throughout, cleaned⟩
    have permits := along.mp throughout
    obtain ⟨s', cleanup, nothing⟩ := cleaned rcs last ran
    rw [cleanup_intact refined.intact] at cleanup
    cases cleanup
    have closed := (nothingLeft_after_cleanup_iff (ledgerAt permits)).mp nothing
    refine ⟨permits, ?_⟩
    rw [network, closed]
    rfl
  · rintro ⟨permits, closed⟩
    refine ⟨ledger.accounted, along.mpr permits, fun rcs' last' ran' => ?_⟩
    rw [ran] at ran'
    cases ran'
    rw [network, Option.isSome_eq_false_iff, Option.isNone_iff_eq_none] at closed
    exact ⟨_, cleanup_intact refined.intact,
      (nothingLeft_after_cleanup_iff (ledgerAt permits)).mpr closed⟩

/-- A connect with a key that is refused by the network, one that succeeds, and a disconnect. -/
theorem resources_accounted_disconnected :
    Accounted (State.created "gw" (some 7) 42 : State Bytes) ∧
      Throughout (Call.exec wireProtobuf embeddedPaho) (fun _ _ _ s' => Accounted s')
        [connectCall (some "secret") FAILURE SUCCESS SUCCESS SUCCESS,
          connectCall (some "secret") SUCCESS SUCCESS SUCCESS SUCCESS,
          disconnectCall SUCCESS SUCCESS]
        (State.created "gw" (some 7) 42 : State Bytes) ∧
      ∀ rcs last, (runCalls wireProtobuf embeddedPaho
          [connectCall (some "secret") FAILURE SUCCESS SUCCESS SUCCESS,
            connectCall (some "secret") SUCCESS SUCCESS SUCCESS SUCCESS,
            disconnectCall SUCCESS SUCCESS]).run
          (State.created "gw" (some 7) 42 : State Bytes) = .ok (rcs, last) →
        ∃ s', ttngwcCleanup.run last = .ok ((), s') ∧ NothingLeft s' :=
  (resources_accounted_iff wireProtobuf embeddedPaho "gw" (some 7) 42 _ (by decide)).mpr (by decide)

/-- **The connection that is left open.** After a connect that returned `0`, a cleanup returns and
the connection is still open. -/
theorem resources_not_accounted :
    ∃ rcs last s', (runCalls wireProtobuf embeddedPaho
        [connectCall none SUCCESS SUCCESS SUCCESS SUCCESS]).run
          (State.created "gw" (some 7) 42 : State Bytes) = .ok (rcs, last) ∧
      ttngwcCleanup.run last = .ok ((), s') ∧ ¬ NothingLeft s' := by
  have intact : Intact "gw" (State.created "gw" (some 7) 42 : State Bytes) := created_intact ..
  have served : ∀ call ∈ [connectCall none SUCCESS SUCCESS SUCCESS SUCCESS], call.Served := by decide
  obtain ⟨rcs, last, ran, refined⟩ := run_served wireProtobuf embeddedPaho intact _ served
  have ledger : Ledger last :=
    invariant_of_along wireProtobuf embeddedPaho (fun s call rc s' intact ledger served returned =>
      (ledger_after_exec wireProtobuf embeddedPaho intact ledger call served returned).2) intact
      (created_ledger (some 7) 42) served (by decide) ran
  have network : last.session.network.isSome = true := congrArg View.network refined.view
  refine ⟨rcs, last, _, ran, cleanup_intact refined.intact, ?_⟩
  rw [nothingLeft_after_cleanup_iff ledger]
  exact Option.isSome_iff_ne_none.mp network

end GatewayConnector
