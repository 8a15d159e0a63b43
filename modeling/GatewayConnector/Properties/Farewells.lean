/-
**The router is told once.**

The message of `ttngwc_disconnect` and the last will are both about the end of the session. If the
DISCONNECT that should cancel the will does not arrive, the router hears the one and then the other.

* `feed_farewell_linked` — all that a disconnect does on its link.
* `departures_once_iff` — every run and every behaviour of the network.
-/

import GatewayConnector.Properties.Departure

namespace GatewayConnector

open Lib

variable {Up St Dn : Type} (protobuf : Protobuf Up St Dn) (paho : Paho) {id : String}

/-! ### The property and the condition -/

/-- The router heard one message on `disconnect` in this session, and it carries the id. -/
def ToldOnce (id : String) (m : MqttSession) : Prop :=
  ∃ key, m.notices = [protobuf.disconnectMessage.pack ⟨id, key⟩]

/-- **The router was told of the end of every session once.** -/
def AllOnce (id : String) (b : Broker) : Prop := ∀ m ∈ b.ended, ToldOnce protobuf id m

/-- The publish of a disconnect, with result `rc`, reaches the broker. -/
def Heard (wire : Wire) (rc : Int) : Prop := rc = SUCCESS ∨ wire.reached = true

/-- The DISCONNECT of a disconnect reaches the broker. -/
def Left (wire : Wire) : Prop := wire.drop = false ∧ wire.reached = true

instance (wire : Wire) (rc : Int) : Decidable (Heard wire rc) :=
  inferInstanceAs (Decidable (_ ∨ _))

instance (wire : Wire) : Decidable (Left wire) := inferInstanceAs (Decidable (_ ∧ _))

/-- The condition on a move: of the publish and the DISCONNECT of a disconnect on its link both
arrive or neither does. -/
def SpeaksOnce (p : Parties Dn) : Move Up St → Prop
  | .call (.disconnect o) wires => p.broker.linked = true → (wires 0).drop = false →
    (Heard (wires 0) (paho.publishRc p.gateway.session.client.isconnected o.publish) ↔
      Left (wires 1))
  | _ => True

/-! ### Everything but a disconnect -/

section Broker

variable {protobuf} {b : Broker}

/-- **A session in which nothing was heard ends with its will**: it is told once. -/
theorem AllOnce.close (once : AllOnce protobuf id b) (quiet : Quiet protobuf id b) :
    AllOnce protobuf id (b.close true) := by
  intro m member
  unfold Broker.close at member
  cases current : b.session with
  | none =>
    rw [current] at member
    exact once m member
  | some session =>
    rw [current] at member
    rcases List.mem_append.mp member with before | last
    · exact once m before
    · obtain ⟨topic, key, message⟩ := quiet.will session current
      refine ⟨key, ?_⟩
      rw [List.mem_singleton.mp last, if_pos rfl]
      unfold MqttSession.hear
      rw [if_pos topic, message, quiet.unheard session current, List.nil_append]

theorem AllOnce.endure (once : AllOnce protobuf id b) (quiet : Quiet protobuf id b) (wire : Wire) :
    AllOnce protobuf id (b.endure wire) := by
  unfold Broker.endure
  split
  · exact once.close quiet
  · exact once

/-- A harmless operation ends a session with its will, or none. -/
theorem operate_ended (wire : Wire) {event : Event Dn} (harmless : event.Harmless protobuf id) :
    (b.operate wire event).ended = b.ended ∨
      (b.operate wire event).ended = (b.close true).ended := by
  cases event with
  | networkConnect host port rc =>
    left
    show (if rc = SUCCESS then _ else b).ended = b.ended
    split <;> rfl
  | mqttConnect data rc =>
    show (if rc = SUCCESS then _ else b).ended = b.ended ∨
      (if rc = SUCCESS then _ else b).ended = (b.close true).ended
    split
    · exact Or.inr rfl
    · exact Or.inl rfl
  | publish topic message rc =>
    left
    show (if b.linked = true ∧ (rc = SUCCESS ∨ wire.reached = true) then _ else b).ended = b.ended
    split <;> rfl
  | mqttDisconnect rc => exact absurd harmless fun never => never
  | networkDisconnect =>
    show (if b.linked = true then b.close true else b).ended = b.ended ∨
      (if b.linked = true then b.close true else b).ended = (b.close true).ended
    split
    · exact Or.inr rfl
    · exact Or.inl rfl
  | subscribe topicFilter qos rc => exact Or.inl rfl
  | downlinkHandler function downlink arg => exact Or.inl rfl
  | freeUnpacked downlink => exact Or.inl rfl

theorem AllOnce.operate (once : AllOnce protobuf id b) (quiet : Quiet protobuf id b) (wire : Wire)
    {event : Event Dn} (harmless : event.Harmless protobuf id) :
    AllOnce protobuf id (b.operate wire event) := by
  unfold AllOnce
  rcases operate_ended wire harmless with same | closed
  · rw [same]
    exact once
  · rw [closed]
    exact once.close quiet

/-- **Harmless operations tell the router once**, whatever the network does to them. -/
theorem AllOnce.feed (once : AllOnce protobuf id b) (quiet : Quiet protobuf id b)
    (wires : Nat → Wire) (events : List (Event Dn))
    (harmless : ∀ event ∈ events, event.Harmless protobuf id) :
    AllOnce protobuf id (b.feed wires events) := by
  induction events generalizing b wires with
  | nil => exact once
  | cons event rest ih =>
    have first := harmless event List.mem_cons_self
    have quietThen := quiet.endure (wires 0)
    exact ih ((once.endure quiet (wires 0)).operate quietThen (wires 0) first)
      (quietThen.operate (wires 0) first) _
      fun other member => harmless other (List.mem_cons_of_mem _ member)

end Broker

/-! ### One disconnect -/

section Disconnect

variable {protobuf} {b : Broker} {message : MQTTMessage Bytes} {rc answer : Int}
  (wires : Nat → Wire)

/-- The operations of a disconnect do nothing without a link. -/
theorem operate_farewell_unlinked (unlinked : b.linked = false) (wire : Wire) {event : Event Dn}
    (farewell : event ∈ (farewellEvents message rc answer : List (Event Dn))) :
    b.operate wire event = b := by
  simp only [farewellEvents, List.mem_cons, List.not_mem_nil, or_false] at farewell
  rcases farewell with rfl | rfl | rfl <;> simp [Broker.operate, unlinked]

/-- A disconnect of a session that is not linked, or whose connection drops first, ends sessions with
their will only. -/
theorem once_after_unlinked (once : AllOnce protobuf id b) (quiet : Quiet protobuf id b)
    (events : List (Event Dn)) (farewell : ∀ event ∈ events, event ∈
      (farewellEvents message rc answer : List (Event Dn)))
    (unlinked : (b.endure (wires 0)).linked = false) :
    AllOnce protobuf id (b.feed wires events) := by
  induction events generalizing b wires with
  | nil => exact once
  | cons event rest ih =>
    rw [Broker.feed_cons, operate_farewell_unlinked unlinked _ (farewell event List.mem_cons_self)]
    refine ih _ (once.endure quiet (wires 0)) (quiet.endure (wires 0))
      (fun other member => farewell other (List.mem_cons_of_mem _ member)) ?_
    unfold Broker.endure at unlinked ⊢
    split
    · rfl
    · exact unlinked

/-- The end of a disconnect on its link: the router hears the will if the DISCONNECT does not arrive. -/
theorem feed_leave_linked (linked : b.linked = true) {m : MqttSession}
    (current : b.session = some m) (topic : m.will.topicName = disconnectTopic) :
    (b.feed wires [(.mqttDisconnect answer : Event Dn), .networkDisconnect]).ended =
      b.ended ++ [{ m with notices :=
        m.notices ++ if Left (wires 0) then [] else [m.will.message] }] := by
  have willed : (b.close true).ended =
      b.ended ++ [{ m with notices := m.notices ++ [m.will.message] }] := by
    unfold Broker.close MqttSession.hear
    rw [current]
    simp [topic]
  rw [Broker.feed_cons]
  by_cases drops : (wires 0).drop = true
  · -- the connection drops before the DISCONNECT
    have lost : ¬ Left (wires 0) := fun left => by
      rw [left.1] at drops
      cases drops
    rw [if_neg lost, ← willed]
    simp [Broker.feed, Broker.endure, Broker.operate, Broker.close, drops]
  · have stays : (wires 0).drop = false := Bool.eq_false_iff.mpr drops
    rw [endure_of_stays stays]
    by_cases arrives : (wires 0).reached = true
    · -- the DISCONNECT cancels the will
      have left : b.operate (wires 0) (.mqttDisconnect answer : Event Dn) = b.close false :=
        if_pos ⟨linked, arrives⟩
      rw [left, feed_networkDisconnect_ended, if_pos ⟨stays, arrives⟩, List.append_nil]
      unfold Broker.close
      rw [current]
      rfl
    · -- the connection is closed without it
      have lost : b.operate (wires 0) (.mqttDisconnect answer : Event Dn) = b :=
        if_neg fun both => arrives both.2
      rw [lost, if_neg (fun left : Left (wires 0) => arrives left.2), ← willed]
      show ((b.endure (wires 1)).operate (wires 1) (.networkDisconnect : Event Dn)).ended = _
      unfold Broker.endure
      split
      · rfl
      · show (if b.linked = true then b.close true else b).ended = _
        rw [if_pos linked]

/-- **All that a disconnect does on its link**: the session ends, the router hears the publish if it
arrives, and the will if the DISCONNECT does not. -/
theorem feed_farewell_linked (quiet : Quiet protobuf id b) (linked : b.linked = true)
    (stays : (wires 0).drop = false) {m : MqttSession} (current : b.session = some m) :
    (b.feed wires (farewellEvents message rc answer : List (Event Dn))).ended =
      b.ended ++ [{ m with notices :=
        ((if Heard (wires 0) rc then [message.payload] else []) ++
          if Left (wires 1) then [] else [m.will.message]) }] := by
  unfold farewellEvents
  rw [Broker.feed_cons, endure_of_stays stays, operate_farewell wires current linked,
    quiet.unheard m current, List.nil_append]
  exact feed_leave_linked (b := { b with session := some _ }) (fun index => wires (index + 1)) linked
    rfl (quiet.will m current).1

/-- Which of the two messages a session hears. -/
theorem toldOnce_farewell_iff (m : MqttSession) (wire wire' : Wire) {payload will : Bytes}
    (packed : ∃ key, payload = protobuf.disconnectMessage.pack ⟨id, key⟩)
    (registered : ∃ key, will = protobuf.disconnectMessage.pack ⟨id, key⟩) :
    ToldOnce protobuf id { m with notices :=
      ((if Heard wire rc then [payload] else []) ++ if Left wire' then [] else [will]) } ↔
      (Heard wire rc ↔ Left wire') := by
  obtain ⟨key, rfl⟩ := packed
  obtain ⟨key', rfl⟩ := registered
  unfold ToldOnce
  by_cases heard : Heard wire rc
  · by_cases left : Left wire'
    · simpa [heard, left] using ⟨key, rfl⟩
    · simp [heard, left]
  · by_cases left : Left wire'
    · simp [heard, left]
    · simpa [heard, left] using ⟨key', rfl⟩

/-- **One disconnect.** The router is told once of the end of all sessions exactly when the publish
and the DISCONNECT of a disconnect on its link both arrive or neither does. -/
theorem once_after_disconnect_iff (once : AllOnce protobuf id b) (quiet : Quiet protobuf id b)
    (packed : ∃ key, message.payload = protobuf.disconnectMessage.pack ⟨id, key⟩) :
    AllOnce protobuf id (b.feed wires (farewellEvents message rc answer : List (Event Dn))) ↔
      (b.linked = true → (wires 0).drop = false → (Heard (wires 0) rc ↔ Left (wires 1))) := by
  cases up : (b.endure (wires 0)).linked with
  | false =>
    refine iff_of_true (once_after_unlinked wires once quiet _ (fun _ member => member) up) ?_
    intro linked stays
    rw [endure_of_stays stays, linked] at up
    cases up
  | true =>
    obtain ⟨stays, linked⟩ := stays_of_linked up
    obtain ⟨m, current⟩ := Option.ne_none_iff_exists'.mp (quiet.linked linked)
    unfold AllOnce
    rw [feed_farewell_linked wires quiet linked stays current, List.forall_mem_append,
      List.forall_mem_singleton, toldOnce_farewell_iff m _ _ packed (quiet.will m current).2]
    exact ⟨fun both _ _ => both.2, fun told => ⟨once, told linked stays⟩⟩

end Disconnect

/-! ### One call -/

/-- A disconnect that speaks once does not leave silently. -/
theorem SpeaksOnce.announces {p : Parties Dn} {move : Move Up St} (speaks : SpeaksOnce paho p move) :
    Announces paho p move := by
  cases move with
  | drop => trivial
  | call made wires =>
    cases made with
    | disconnect o =>
      rintro ⟨linked, stays, refused, unreached, left⟩
      rcases (speaks linked stays).mpr left with accepted | reached
      · exact refused accepted
      · rw [unreached] at reached
        cases reached
    | connect host port key o => trivial
    | sendUplink uplink o => trivial
    | sendStatus status o => trivial

section Call

variable {protobuf paho} {s s' : State Dn} {rc : Int} (wires : Nat → Wire)

/-- A connect registers a sound will and publishes on `connect` only. -/
theorem connect_harmless {host : Option String} {port : Int} {key : Option String}
    {o : ConnectOutcome} (ended : ConnectEnd protobuf paho s id host port key o rc s') :
    ∀ event ∈ newEvents s s', event.Harmless protobuf id := by
  obtain ⟨events, appended, first⟩ := ended.log
  rw [newEvents_append appended]
  intro event member
  have operation := first.subset member
  simp only [State.operations, List.mem_cons, List.not_mem_nil, or_false] at operation
  rcases operation with rfl | rfl | rfl | rfl
  · trivial
  · exact ⟨rfl, _, rfl⟩
  · show connectTopic ≠ disconnectTopic
    decide
  · trivial

/-- A send publishes on a topic of the gateway's own. -/
theorem send_harmless {M : Type} {codec : Codec M} {topicOf : String → String} {qos : QoS}
    {message : M} {o : SendOutcome} (intact : Intact id s) (elsewhere : topicOf id ≠ disconnectTopic)
    (returned : (sendMessage paho codec topicOf qos message o).run s = .ok (rc, s')) :
    ∀ event ∈ newEvents s s', event.Harmless protobuf id := by
  intro event member
  rcases send_events paho intact returned with none | sent
  · rw [none] at member
    exact nomatch member
  · rw [sent] at member
    rw [List.mem_singleton.mp member]
    exact elsewhere

/-- **One call.** After it the router has been told once of the end of all sessions exactly when the
call speaks once. -/
theorem once_after_call_iff {p : Parties Dn} (intact : Intact id p.gateway)
    (once : AllOnce protobuf id p.broker) (quiet : Quiet protobuf id p.broker) (call : Call Up St)
    (returned : (call.exec protobuf paho).run p.gateway = .ok (rc, s')) :
    AllOnce protobuf id (p.broker.feed wires (newEvents p.gateway s')) ↔
      SpeaksOnce paho p (.call call wires) := by
  cases call with
  | connect host port key o =>
    have ended := connect_returned protobuf paho host port key o intact returned
    exact iff_of_true (once.feed quiet wires _ (connect_harmless ended)) trivial
  | disconnect o =>
    rw [disconnect_events protobuf paho intact returned]
    exact once_after_disconnect_iff wires once quiet ⟨_, rfl⟩
  | sendUplink uplink o =>
    exact iff_of_true (once.feed quiet wires _
      (send_harmless intact (upTopic_not_shared id).2 returned)) trivial
  | sendStatus status o =>
    exact iff_of_true (once.feed quiet wires _
      (send_harmless intact (statusTopic_not_shared id).2 returned)) trivial

end Call

/-! ### Every run -/

/-- **Departures, each told once.** In a run of calls, with any outcomes and any behaviour of the
network at every operation, and of drops of the connection in between, the router hears exactly one
message of the end of every accepted session exactly when in every disconnect of a session on its
link the publish arrives if and only if the DISCONNECT does. -/
theorem departures_once_iff (id : String) (downlinkHandler : Option Nat) (cbArg : Nat)
    (moves : List (Move Up St)) (replies : List Unit) (last : Parties Dn)
    (ran : (runAll (Move.exec protobuf paho) moves).run
      ⟨State.created id downlinkHandler cbArg, Broker.idle⟩ = .ok (replies, last)) :
    Throughout (Move.exec protobuf paho) (fun _ _ _ p' => AllOnce protobuf id p'.broker) moves
        (⟨State.created id downlinkHandler cbArg, Broker.idle⟩ : Parties Dn) ↔
      Along (Move.exec protobuf paho) (SpeaksOnce paho) moves
        (⟨State.created id downlinkHandler cbArg, Broker.idle⟩ : Parties Dn) := by
  refine throughout_iff_along_of_returned
    (I := fun p => Intact id p.gateway ∧ Quiet protobuf id p.broker ∧ AllOnce protobuf id p.broker)
    (fun p move _ p' kept returned speaks => ?_) (fun p move _ p' kept returned => ?_)
    ⟨created_intact id downlinkHandler cbArg, Quiet.idle, fun _ absent => nomatch absent⟩ ran
  · obtain ⟨intact, quiet, once⟩ := kept
    cases move with
    | call call wires =>
      obtain ⟨rc, s', made, rfl⟩ := move_call_returned protobuf paho returned
      exact ⟨exec_intact protobuf paho intact call made,
        (told_after_call_iff wires intact quiet call made).quiet speaks.announces,
        (once_after_call_iff wires intact once quiet call made).mpr speaks⟩
    | drop =>
      cases returned
      exact ⟨intact, quiet.toSound.close, once.close quiet⟩
  · obtain ⟨intact, quiet, once⟩ := kept
    cases move with
    | call call wires =>
      obtain ⟨rc, s', made, rfl⟩ := move_call_returned protobuf paho returned
      exact once_after_call_iff wires intact once quiet call made
    | drop =>
      cases returned
      exact iff_of_true (once.close quiet) trivial

/-- A session whose connection drops, and one that is disconnected without a loss. -/
theorem departures_once_disconnected :
    Throughout (Move.exec wireProtobuf embeddedPaho)
      (fun _ _ _ p' => AllOnce wireProtobuf "gw" p'.broker)
      [.call (connectCall none SUCCESS SUCCESS SUCCESS SUCCESS) fun _ => .sound, .drop,
        .call (connectCall none SUCCESS SUCCESS SUCCESS SUCCESS) fun _ => .sound,
        .call (disconnectCall SUCCESS SUCCESS) fun _ => .sound]
      ⟨State.created "gw" (some 7) 42, Broker.idle⟩ := by
  obtain ⟨replies, last, ran, _⟩ := moves_return wireProtobuf embeddedPaho
    (p := ⟨State.created "gw" (some 7) 42, Broker.idle⟩) (created_intact ..)
    [.call (connectCall none SUCCESS SUCCESS SUCCESS SUCCESS) fun _ => .sound, .drop,
      .call (connectCall none SUCCESS SUCCESS SUCCESS SUCCESS) fun _ => .sound,
      .call (disconnectCall SUCCESS SUCCESS) fun _ => .sound] (by decide)
  refine (departures_once_iff wireProtobuf embeddedPaho "gw" (some 7) 42 _ replies last ran).mpr
    ⟨trivial, fun _ _ _ => ⟨trivial, fun _ _ _ => ⟨trivial, fun _ _ _ => ⟨fun _ _ => ?_,
      fun _ _ _ => trivial⟩⟩⟩⟩
  exact iff_of_true (Or.inr rfl) ⟨rfl, rfl⟩

end GatewayConnector
