/-
**The router learns that a gateway left.**

The last will and the message of `ttngwc_disconnect` cover for each other: when the connection ends
by itself the broker publishes the will, and before a clean DISCONNECT, which cancels the will, the
gateway publishes the same message itself. But `ttngwc_disconnect` drops the result of that publish
and sends the DISCONNECT all the same.

* `Quiet.feed` — every call but a disconnect ends sessions with their will only.
* `told_after_disconnect_iff` — one disconnect.
* `departures_told_iff` — every run and every behaviour of the network.
* `not_told` — a publish that is lost before a DISCONNECT that is not.
-/

import GatewayConnector.Model.Broker
import GatewayConnector.Model.Embedded
import GatewayConnector.Proof.Footprint
import GatewayConnector.Proof.Refinement
import GatewayConnector.Proof.Returned

namespace GatewayConnector

open Lib

variable {Up St Dn : Type} (protobuf : Protobuf Up St Dn) (paho : Paho) {id : String}

/-! ### The property and the condition -/

/-- The router heard, in this session, a disconnect message that carries the id. -/
def Told (id : String) (m : MqttSession) : Prop :=
  ∃ key, protobuf.disconnectMessage.pack ⟨id, key⟩ ∈ m.notices

/-- **The router was told of the end of every session.** -/
def AllTold (id : String) (b : Broker) : Prop := ∀ m ∈ b.ended, Told protobuf id m

/-- A disconnect of a linked session whose publish, with result `rc`, does not arrive and whose
DISCONNECT does. -/
def LeavesSilently (b : Broker) (wires : Nat → Wire) (rc : Int) : Prop :=
  b.linked = true ∧ (wires 0).drop = false ∧ rc ≠ SUCCESS ∧ (wires 0).reached = false ∧
    (wires 1).drop = false ∧ (wires 1).reached = true

instance (b : Broker) (wires : Nat → Wire) (rc : Int) : Decidable (LeavesSilently b wires rc) :=
  inferInstanceAs (Decidable (_ ∧ _ ∧ _ ∧ _ ∧ _ ∧ _))

/-- The condition on a move. -/
def Announces (p : Parties Dn) : Move Up St → Prop
  | .call (.disconnect o) wires => ¬ LeavesSilently p.broker wires
    (paho.publishRc p.gateway.session.client.isconnected o.publish)
  | _ => True

/-! ### The invariant -/

/-- A will that tells the router. -/
def WillSound (id : String) (will : WillOptions String Bytes) : Prop :=
  will.topicName = disconnectTopic ∧ ∃ key, will.message = protobuf.disconnectMessage.pack ⟨id, key⟩

/-- All ended sessions were told, the current one would be told by its will, and only a session can
be linked. -/
structure Sound (id : String) (b : Broker) : Prop where
  told : AllTold protobuf id b
  will : ∀ m, b.session = some m → WillSound protobuf id m.will
  linked : b.linked = true → b.session ≠ none

/-- Between two calls the router has heard nothing yet in the current session. -/
structure Quiet (id : String) (b : Broker) : Prop extends Sound protobuf id b where
  unheard : ∀ m, b.session = some m → m.notices = []

/-- After a step the router has been told of all ends exactly under a condition, which leaves nothing
to be told. -/
structure ToldIff (id : String) (condition : Prop) (b : Broker) : Prop where
  told : AllTold protobuf id b ↔ condition
  quiet : condition → Quiet protobuf id b

/-- What a call may do without telling the router: everything but publish on `disconnect` or send a
DISCONNECT, and any will it registers is sound. -/
def Event.Harmless (id : String) : Event Dn → Prop
  | .mqttConnect data _ => WillSound protobuf id data.will
  | .publish topic _ _ => topic ≠ disconnectTopic
  | .mqttDisconnect _ => False
  | _ => True

section Broker

variable {protobuf} {b : Broker}

theorem Quiet.toldIff (quiet : Quiet protobuf id b) {condition : Prop} (holds : condition) :
    ToldIff protobuf id condition b :=
  ⟨iff_of_true quiet.told holds, fun _ => quiet⟩

theorem Quiet.idle : Quiet protobuf id Broker.idle where
  told _ absent := nomatch absent
  will _ none := nomatch none
  linked unlinked := nomatch unlinked
  unheard _ none := nomatch none

/-- **A session that ends with its will is told.** -/
theorem Sound.close (sound : Sound protobuf id b) : Quiet protobuf id (b.close true) where
  told := by
    intro m member
    unfold Broker.close at member
    cases current : b.session with
    | none =>
      rw [current] at member
      exact sound.told m member
    | some session =>
      rw [current] at member
      rcases List.mem_append.mp member with before | last
      · exact sound.told m before
      · obtain ⟨topic, key, message⟩ := sound.will session current
        rw [List.mem_singleton.mp last, if_pos rfl]
        unfold MqttSession.hear
        rw [if_pos topic, message]
        exact ⟨key, List.mem_append_right _ List.mem_cons_self⟩
  will _ none := nomatch none
  linked unlinked := nomatch unlinked
  unheard _ none := nomatch none

theorem Quiet.endure (quiet : Quiet protobuf id b) (wire : Wire) :
    Quiet protobuf id (b.endure wire) := by
  unfold Broker.endure
  split
  · exact quiet.toSound.close
  · exact quiet

theorem Quiet.operate (quiet : Quiet protobuf id b) (wire : Wire) {event : Event Dn}
    (harmless : event.Harmless protobuf id) : Quiet protobuf id (b.operate wire event) := by
  cases event with
  | networkConnect host port rc =>
    show Quiet protobuf id (if rc = SUCCESS then _ else b)
    split
    · exact ⟨⟨quiet.told, quiet.will, fun unlinked => nomatch unlinked⟩, quiet.unheard⟩
    · exact quiet
  | mqttConnect data rc =>
    show Quiet protobuf id (if rc = SUCCESS then _ else b)
    split
    · refine ⟨⟨quiet.toSound.close.told, fun m new => ?_, fun _ => Option.some_ne_none _⟩,
        fun m new => ?_⟩
      · cases new
        exact harmless
      · cases new
        rfl
    · exact quiet
  | publish topic message rc =>
    have unheard : (fun m : MqttSession => m.hear topic message.payload) = fun m => m :=
      funext fun m => if_neg harmless
    show Quiet protobuf id (if b.linked = true ∧ (rc = SUCCESS ∨ wire.reached = true) then
      { b with session := b.session.map fun m => m.hear topic message.payload } else b)
    rw [unheard, Option.map_id']
    split
    · exact quiet
    · exact quiet
  | subscribe topicFilter qos rc => exact quiet
  | mqttDisconnect rc => exact absurd harmless fun never => never
  | networkDisconnect =>
    show Quiet protobuf id (if b.linked = true then b.close true else b)
    split
    · exact quiet.toSound.close
    · exact quiet
  | downlinkHandler function downlink arg => exact quiet
  | freeUnpacked downlink => exact quiet

/-- **Harmless operations keep the router informed**, whatever the network does to them. -/
theorem Quiet.feed (quiet : Quiet protobuf id b) (wires : Nat → Wire) (events : List (Event Dn))
    (harmless : ∀ event ∈ events, event.Harmless protobuf id) :
    Quiet protobuf id (b.feed wires events) := by
  induction events generalizing b wires with
  | nil => exact quiet
  | cons event rest ih =>
    exact ih ((quiet.endure (wires 0)).operate (wires 0) (harmless event List.mem_cons_self)) _
      fun other member => harmless other (List.mem_cons_of_mem _ member)

end Broker

/-! ### One disconnect -/

section Disconnect

variable {protobuf} {b : Broker} {message : MQTTMessage Bytes} {rc answer : Int}
  (wires : Nat → Wire)

/-- The three operations of a disconnect. -/
def farewellEvents (message : MQTTMessage Bytes) (rc answer : Int) : List (Event Dn) :=
  [.publish disconnectTopic message rc, .mqttDisconnect answer, .networkDisconnect]

/-- A disconnect of a session that is not linked, or whose connection drops first, does not reach
the broker. -/
theorem feed_farewell_unlinked (quiet : Quiet protobuf id b)
    (unlinked : (b.endure (wires 0)).linked = false) :
    Quiet protobuf id (b.feed wires (farewellEvents message rc answer : List (Event Dn))) := by
  have first : (b.endure (wires 0)).operate (wires 0)
      (.publish disconnectTopic message rc : Event Dn) = b.endure (wires 0) := by
    refine if_neg fun both => ?_
    rw [unlinked] at both
    exact Bool.false_ne_true both.1
  have quietThen := (quiet.endure (wires 0)).endure (wires 1)
  have unlinkedThen : ((b.endure (wires 0)).endure (wires 1)).linked = false := by
    unfold Broker.endure at unlinked ⊢
    split
    · rfl
    · exact unlinked
  have second : ((b.endure (wires 0)).endure (wires 1)).operate (wires 1)
      (.mqttDisconnect answer : Event Dn) = (b.endure (wires 0)).endure (wires 1) := by
    refine if_neg fun both => ?_
    rw [unlinkedThen] at both
    exact Bool.false_ne_true both.1
  unfold farewellEvents
  rw [Broker.feed_cons, first, Broker.feed_cons, second]
  exact quietThen.feed _ _ fun event member => by
    rw [List.mem_singleton.mp member]
    trivial

/-- Closing the connection of a linked session ends it with its will. -/
theorem feed_networkDisconnect (sound : Sound protobuf id b) (linked : b.linked = true) :
    Quiet protobuf id (b.feed wires [(.networkDisconnect : Event Dn)]) := by
  show Quiet protobuf id ((b.endure (wires 0)).operate (wires 0) (.networkDisconnect : Event Dn))
  unfold Broker.endure
  split
  · exact sound.close.operate _ trivial
  · show Quiet protobuf id (if b.linked = true then b.close true else b)
    rw [if_pos linked]
    exact sound.close

/-- Once the session has ended there is nothing to close. -/
theorem feed_networkDisconnect_ended (b : Broker) :
    (b.close false).feed wires [(.networkDisconnect : Event Dn)] = b.close false := by
  show ((b.close false).endure (wires 0)).operate (wires 0) (.networkDisconnect : Event Dn) = _
  unfold Broker.endure
  split
  · rfl
  · rfl

/-- A DISCONNECT that is read on its link ends the session without its will. -/
theorem toldIff_left (sound : Sound protobuf id b) {m : MqttSession}
    (current : b.session = some m) : ToldIff protobuf id (Told protobuf id m) (b.close false) := by
  have ended : (b.close false).ended = b.ended ++ [m] := by
    unfold Broker.close
    rw [current]
    rfl
  by_cases told : Told protobuf id m
  · have allTold : AllTold protobuf id (b.close false) := by
      intro other member
      rw [ended] at member
      rcases List.mem_append.mp member with before | last
      · exact sound.told other before
      · rw [List.mem_singleton.mp last]
        exact told
    have quiet : Quiet protobuf id (b.close false) :=
      ⟨⟨allTold, (fun _ new => nomatch new), fun new => nomatch new⟩, fun _ new => nomatch new⟩
    exact quiet.toldIff told
  · refine ⟨iff_of_false (fun all => told (all m ?_)) told, fun tells => absurd tells told⟩
    rw [ended]
    exact List.mem_append_right _ List.mem_cons_self

/-- A connection that does not drop. -/
theorem endure_of_stays {wire : Wire} (stays : wire.drop = false) : b.endure wire = b := by
  unfold Broker.endure
  rw [stays, if_neg Bool.false_ne_true]

/-- A link that is still up did not drop. -/
theorem stays_of_linked {wire : Wire} (linked : (b.endure wire).linked = true) :
    wire.drop = false ∧ b.linked = true := by
  cases drops : wire.drop with
  | false => exact ⟨rfl, by rwa [endure_of_stays drops] at linked⟩
  | true =>
    unfold Broker.endure at linked
    rw [if_pos drops] at linked
    cases linked

/-- **The end of a disconnect on its link**: a session that ends with a DISCONNECT is told only if
it was before, one whose connection ends otherwise is told by its will. -/
theorem told_after_mqttDisconnect_iff (sound : Sound protobuf id b) {m : MqttSession}
    (current : b.session = some m) (linked : b.linked = true) :
    ToldIff protobuf id ((wires 0).drop = false → (wires 0).reached = true → Told protobuf id m)
      (b.feed wires [(.mqttDisconnect answer : Event Dn), .networkDisconnect]) := by
  rw [Broker.feed_cons]
  cases drops : (wires 0).drop with
  | true =>
    -- the connection drops before the DISCONNECT
    have ended : (b.endure (wires 0)).operate (wires 0) (.mqttDisconnect answer : Event Dn) =
        b.close true := by
      unfold Broker.endure
      rw [if_pos drops]
      rfl
    rw [ended]
    refine Quiet.toldIff (sound.close.feed _ _ fun event member => ?_) fun stays =>
      Bool.noConfusion stays
    rw [List.mem_singleton.mp member]
    trivial
  | false =>
    rw [endure_of_stays drops]
    cases arrives : (wires 0).reached with
    | false =>
      -- the DISCONNECT is lost and the connection is closed without it
      have lost : b.operate (wires 0) (.mqttDisconnect answer : Event Dn) = b := by
        refine if_neg fun both => ?_
        rw [arrives] at both
        exact Bool.false_ne_true both.2
      rw [lost]
      exact (feed_networkDisconnect _ sound linked).toldIff fun _ reached =>
        Bool.noConfusion reached
    | true =>
      -- the DISCONNECT cancels the will
      have left : b.operate (wires 0) (.mqttDisconnect answer : Event Dn) = b.close false :=
        if_pos ⟨linked, arrives⟩
      have only : (false = false → true = true → Told protobuf id m) ↔ Told protobuf id m :=
        ⟨fun tells => tells rfl rfl, fun told _ _ => told⟩
      rw [left, feed_networkDisconnect_ended, only]
      exact toldIff_left sound current

/-- The session after the publish of a disconnect on its link. -/
theorem operate_farewell {m : MqttSession} (current : b.session = some m)
    (linked : b.linked = true) :
    b.operate (wires 0) (.publish disconnectTopic message rc : Event Dn) =
      { b with session := some { m with notices := m.notices ++
        if rc = SUCCESS ∨ (wires 0).reached = true then [message.payload] else [] } } := by
  show (if b.linked = true ∧ (rc = SUCCESS ∨ (wires 0).reached = true) then _ else b) = _
  by_cases arrives : rc = SUCCESS ∨ (wires 0).reached = true
  · rw [if_pos ⟨linked, arrives⟩, if_pos arrives, current]
    rfl
  · rw [if_neg fun both => arrives both.2, if_neg arrives, List.append_nil, ← current]

/-- Whether the router is told of a session by the publish of its disconnect. -/
theorem told_farewell_iff (m : MqttSession)
    (packed : ∃ key, message.payload = protobuf.disconnectMessage.pack ⟨id, key⟩) :
    Told protobuf id { m with
      notices := if rc = SUCCESS ∨ (wires 0).reached = true then [message.payload] else [] } ↔
      rc = SUCCESS ∨ (wires 0).reached = true := by
  obtain ⟨key, payload⟩ := packed
  by_cases reached : rc = SUCCESS ∨ (wires 0).reached = true
  · rw [if_pos reached, payload]
    exact iff_of_true ⟨key, List.mem_cons_self⟩ reached
  · rw [if_neg reached]
    exact iff_of_false (fun ⟨_, absent⟩ => nomatch absent) reached

/-- A disconnect on its link does not leave silently if the router is told, or the DISCONNECT is
lost. -/
theorem not_leavesSilently_iff (linked : b.linked = true) (stays : (wires 0).drop = false) :
    ((wires 1).drop = false → (wires 1).reached = true →
      rc = SUCCESS ∨ (wires 0).reached = true) ↔ ¬ LeavesSilently b wires rc := by
  unfold LeavesSilently
  cases (wires 1).drop <;> cases (wires 1).reached <;> cases (wires 0).reached <;>
    simp [linked, stays]

/-- **One disconnect.** The router is told of the end of all sessions exactly when the disconnect
does not leave silently. -/
theorem told_after_disconnect_iff (quiet : Quiet protobuf id b)
    (packed : ∃ key, message.payload = protobuf.disconnectMessage.pack ⟨id, key⟩) :
    ToldIff protobuf id (¬ LeavesSilently b wires rc)
      (b.feed wires (farewellEvents message rc answer : List (Event Dn))) := by
  cases up : (b.endure (wires 0)).linked with
  | false =>
    have kept : Quiet protobuf id
        (b.feed wires (farewellEvents message rc answer : List (Event Dn))) :=
      feed_farewell_unlinked wires quiet up
    have speaks : ¬ LeavesSilently b wires rc := by
      rintro ⟨linked, stays, _⟩
      rw [endure_of_stays stays, linked] at up
      cases up
    exact kept.toldIff speaks
  | true =>
    obtain ⟨stays, linked⟩ := stays_of_linked up
    obtain ⟨m, current⟩ := Option.ne_none_iff_exists'.mp (quiet.linked linked)
    let heard : MqttSession := { m with
      notices := if rc = SUCCESS ∨ (wires 0).reached = true then [message.payload] else [] }
    let published : Broker := { b with session := some heard }
    have sound : Sound protobuf id published :=
      ⟨quiet.told, (fun other new => by cases new; exact quiet.will m current),
        fun _ => Option.some_ne_none _⟩
    have fed : b.feed wires (farewellEvents message rc answer : List (Event Dn)) =
        published.feed (fun index => wires (index + 1))
          [(.mqttDisconnect answer : Event Dn), .networkDisconnect] := by
      unfold farewellEvents
      rw [Broker.feed_cons, endure_of_stays stays, operate_farewell wires current linked,
        quiet.unheard m current, List.nil_append]
    have told : Told protobuf id heard ↔ rc = SUCCESS ∨ (wires 0).reached = true :=
      told_farewell_iff wires m packed
    rw [fed, ← not_leavesSilently_iff wires linked stays, ← told]
    exact told_after_mqttDisconnect_iff (fun index => wires (index + 1)) sound rfl linked

end Disconnect

/-! ### One call -/

section Call

variable {protobuf paho} {s s' : State Dn} {rc : Int} {b : Broker} (wires : Nat → Wire)

/-- A connect registers a sound will and publishes on `connect` only. -/
theorem quiet_after_connect {host : Option String} {port : Int} {key : Option String}
    {o : ConnectOutcome} (quiet : Quiet protobuf id b)
    (ended : ConnectEnd protobuf paho s id host port key o rc s') :
    Quiet protobuf id (b.feed wires (newEvents s s')) := by
  obtain ⟨events, appended, first⟩ := ended.log
  rw [newEvents_append appended]
  refine quiet.feed wires events fun event member => ?_
  have operation := first.subset member
  simp only [State.operations, List.mem_cons, List.not_mem_nil, or_false] at operation
  rcases operation with rfl | rfl | rfl | rfl
  · trivial
  · exact ⟨rfl, _, rfl⟩
  · show connectTopic ≠ disconnectTopic
    decide
  · trivial

/-- A send publishes on a topic of the gateway's own. -/
theorem quiet_after_send {M : Type} {codec : Codec M} {topicOf : String → String} {qos : QoS}
    {message : M} {o : SendOutcome} (intact : Intact id s) (quiet : Quiet protobuf id b)
    (elsewhere : topicOf id ≠ disconnectTopic)
    (returned : (sendMessage paho codec topicOf qos message o).run s = .ok (rc, s')) :
    Quiet protobuf id (b.feed wires (newEvents s s')) := by
  rcases send_events paho intact returned with none | sent
  · rw [none]
    exact quiet
  · rw [sent]
    refine quiet.feed wires _ fun event member => ?_
    rw [List.mem_singleton.mp member]
    exact elsewhere

/-- **One call.** After it the router has been told of the end of all sessions exactly when the
call announces. -/
theorem told_after_call_iff {p : Parties Dn} (intact : Intact id p.gateway)
    (quiet : Quiet protobuf id p.broker) (call : Call Up St)
    (returned : (call.exec protobuf paho).run p.gateway = .ok (rc, s')) :
    ToldIff protobuf id (Announces paho p (.call call wires))
      (p.broker.feed wires (newEvents p.gateway s')) := by
  cases call with
  | connect host port key o =>
    exact (quiet_after_connect wires quiet
      (connect_returned protobuf paho host port key o intact returned)).toldIff trivial
  | disconnect o =>
    rw [disconnect_events protobuf paho intact returned]
    exact told_after_disconnect_iff wires quiet ⟨_, rfl⟩
  | sendUplink uplink o =>
    exact (quiet_after_send wires intact quiet (upTopic_not_shared id).2
      returned).toldIff trivial
  | sendStatus status o =>
    exact (quiet_after_send wires intact quiet (statusTopic_not_shared id).2
      returned).toldIff trivial

end Call

/-! ### Every run -/

theorem move_call_run {p : Parties Dn} {call : Call Up St} {wires : Nat → Wire} {rc : Int}
    {s' : State Dn} (returned : (call.exec protobuf paho).run p.gateway = .ok (rc, s')) :
    (Move.exec protobuf paho (.call call wires)).run p =
      .ok ((), ⟨s', p.broker.feed wires (newEvents p.gateway s')⟩) :=
  Exec.within_ok _ _ returned

theorem move_call_returned {p p' : Parties Dn} {call : Call Up St} {wires : Nat → Wire}
    (returned : (Move.exec protobuf paho (.call call wires)).run p = .ok ((), p')) :
    ∃ rc s', (call.exec protobuf paho).run p.gateway = .ok (rc, s') ∧
      p' = ⟨s', p.broker.feed wires (newEvents p.gateway s')⟩ :=
  Exec.within_returned _ _ returned

/-- **Departures over runs.** In a run of calls, with any outcomes and any behaviour of the network
at every operation, and of drops of the connection in between, the router is told of the end of
every accepted session exactly when no disconnect of the run leaves silently. -/
theorem departures_told_iff (id : String) (downlinkHandler : Option Nat) (cbArg : Nat)
    (moves : List (Move Up St)) (replies : List Unit) (last : Parties Dn)
    (ran : (runAll (Move.exec protobuf paho) moves).run
      ⟨State.created id downlinkHandler cbArg, Broker.idle⟩ = .ok (replies, last)) :
    Throughout (Move.exec protobuf paho) (fun _ _ _ p' => AllTold protobuf id p'.broker) moves
        (⟨State.created id downlinkHandler cbArg, Broker.idle⟩ : Parties Dn) ↔
      Along (Move.exec protobuf paho) (Announces paho) moves
        (⟨State.created id downlinkHandler cbArg, Broker.idle⟩ : Parties Dn) := by
  refine throughout_iff_along_of_returned
    (I := fun p => Intact id p.gateway ∧ Quiet protobuf id p.broker)
    (fun p move _ p' kept returned permit => ?_) (fun p move _ p' kept returned => ?_)
    ⟨created_intact id downlinkHandler cbArg, Quiet.idle⟩ ran
  · cases move with
    | call call wires =>
      obtain ⟨rc, s', made, rfl⟩ := move_call_returned protobuf paho returned
      exact ⟨exec_intact protobuf paho kept.1 call made,
        (told_after_call_iff wires kept.1 kept.2 call made).quiet permit⟩
    | drop =>
      cases returned
      exact ⟨kept.1, kept.2.toSound.close⟩
  · cases move with
    | call call wires =>
      obtain ⟨rc, s', made, rfl⟩ := move_call_returned protobuf paho returned
      exact (told_after_call_iff wires kept.1 kept.2 call made).told
    | drop =>
      cases returned
      exact iff_of_true kept.2.toSound.close.told trivial

/-! ### Two disconnects whose publish fails -/

/-- The allocations of a move are served. -/
def Move.Served : Move Up St → Prop
  | .call made _ => made.Served
  | .drop => True

instance Move.decidableServed : (move : Move Up St) → Decidable move.Served
  | .call made _ => inferInstanceAs (Decidable made.Served)
  | .drop => inferInstanceAs (Decidable True)

/-- Moves whose allocations are served do not stop a run. -/
theorem moves_return {p : Parties Dn} (intact : Intact id p.gateway) (moves : List (Move Up St))
    (served : ∀ move ∈ moves, move.Served) :
    ∃ replies last, (runAll (Move.exec protobuf paho) moves).run p = .ok (replies, last) ∧
      Intact id last.gateway := by
  refine runAll_returns (I := fun p : Parties Dn => Intact id p.gateway)
    (fun p move intact served => ?_) served intact
  cases move with
  | call call wires =>
    obtain ⟨rc, s', made, refined⟩ := exec_served protobuf paho intact call served
    exact ⟨_, _, move_call_run protobuf paho made, refined.intact⟩
  | drop => exact ⟨_, _, rfl, intact⟩

/-- Nothing is lost. -/
def Wire.sound : Wire := ⟨false, true⟩

/-- Nothing arrives that was not acknowledged. -/
def Wire.lossy : Wire := ⟨false, false⟩

/-- The connection is lost after the publish failed: neither it nor the DISCONNECT arrives, and the
will tells the router. -/
theorem departures_told_lost :
    Throughout (Move.exec wireProtobuf embeddedPaho)
      (fun _ _ _ p' => AllTold wireProtobuf "gw" p'.broker)
      [.call (connectCall none SUCCESS SUCCESS SUCCESS SUCCESS) fun _ => .sound,
        .call (disconnectCall FAILURE FAILURE) fun _ => .lossy]
      ⟨State.created "gw" (some 7) 42, Broker.idle⟩ := by
  obtain ⟨replies, last, ran, _⟩ := moves_return wireProtobuf embeddedPaho
    (p := ⟨State.created "gw" (some 7) 42, Broker.idle⟩) (created_intact ..)
    [.call (connectCall none SUCCESS SUCCESS SUCCESS SUCCESS) fun _ => .sound,
      .call (disconnectCall FAILURE FAILURE) fun _ => .lossy] (by decide)
  refine (departures_told_iff wireProtobuf embeddedPaho "gw" (some 7) 42 _ replies last ran).mpr
    ⟨trivial, fun _ p _ => ⟨fun silent => ?_, fun _ _ _ => trivial⟩⟩
  obtain ⟨_, _, _, _, _, reached⟩ := silent
  cases reached

/-- **The lost publish.** A session is connected, and the publish of the disconnect fails without
reaching the broker while the DISCONNECT arrives: the session ends and the router is not told. -/
theorem not_told :
    ∃ replies p, (runAll (Move.exec wireProtobuf embeddedPaho)
        [.call (connectCall none SUCCESS SUCCESS SUCCESS SUCCESS) fun _ => .sound,
          .call (disconnectCall FAILURE SUCCESS) fun index =>
            if index = 0 then .lossy else .sound]).run
        ⟨State.created "gw" (some 7) 42, Broker.idle⟩ = .ok (replies, p) ∧
      ¬ AllTold wireProtobuf "gw" p.broker := by
  have intact : Intact "gw" (State.created "gw" (some 7) 42 : State Bytes) := created_intact ..
  obtain ⟨rc, s, connected, one⟩ := exec_served wireProtobuf embeddedPaho intact
    (connectCall none SUCCESS SUCCESS SUCCESS SUCCESS) (connectCall_served ..)
  obtain ⟨rc', s', departed, two⟩ := exec_served wireProtobuf embeddedPaho one.intact
    (disconnectCall FAILURE SUCCESS) (disconnectCall_served ..)
  have linked : (Broker.idle.feed (fun _ => .sound)
      (newEvents (State.created "gw" (some 7) 42 : State Bytes) s)).linked = true := by
    rw [newEvents_append one.log]
    rfl
  refine ⟨_, _, runAll_cons _ (move_call_run _ _ connected)
    (runAll_cons _ (move_call_run _ _ departed) (runAll_nil _ _)), fun told => ?_⟩
  have quiet := (told_after_call_iff (p := ⟨_, Broker.idle⟩) (fun _ => .sound) intact Quiet.idle _
    connected).quiet trivial
  refine (told_after_call_iff (p := ⟨s, _⟩) _ one.intact quiet _ departed).told.mp told
    ⟨linked, rfl, ?_, rfl, rfl, rfl⟩
  show embeddedPaho.publishRc s.session.client.isconnected FAILURE ≠ SUCCESS
  cases s.session.client.isconnected <;> decide

end GatewayConnector
