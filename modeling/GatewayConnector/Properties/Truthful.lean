/-
**What a `0` from `ttngwc_connect` says.**

An application that gets a `0` goes on to send uplinks, so a `0` should mean that the gateway is
connected with its will, announced and subscribed. The call returns the result of the last step that
can end it, the announcement is no such step, and a topic that was not formatted is subscribed to.

* `connect_succeeds_iff`, `connect_established_iff` — the steps behind a `0`, and the steps that
  were needed.
* `connect_truthful_iff` — every reachable session and all outcomes: the result is truthful exactly
  when the call returns and no announcement fails under a subscription that is accepted.
* `connect_not_truthful` — an announcement that is not accepted.
-/

import GatewayConnector.Model.Embedded
import GatewayConnector.Proof.Lifetime
import GatewayConnector.Proof.Returned

namespace GatewayConnector

open Lib

variable {Up St Dn : Type} (protobuf : Protobuf Up St Dn) (paho : Paho) {id : String}
  {s : State Dn}

/-! ### The property and the condition -/

/-- **The gateway is in place**: between the two states an MQTT session was accepted with the will
of the session, the announcement was accepted, and the downlink callback was subscribed on
`<id>/down` with the session as argument. -/
structure Established (id : String) (key : Option String) (s s' : State Dn) : Prop where
  session : .mqttConnect (connectPacket protobuf id key s'.keyText) SUCCESS ∈ newEvents s s'
  announcement : .publish connectTopic (published protobuf.connectMessage QOS_CONNECT ⟨id, key⟩)
    SUCCESS ∈ newEvents s s'
  subscription : .subscribe (downTopic id) QOS_DOWN SUCCESS ∈ newEvents s s'
  callback : s'.session.client.messageHandlers = s.session.client.messageHandlers ++
    [{ topicFilter := s'.session.downlinkTopic, text := downTopic id, fp := .ttngwcDownlinkCb,
       arg := s.handle }]

/-- `ttngwc_connect` returns, and it returns `0` exactly when the gateway is in place. -/
def Truthful (id : String) (s : State Dn) (host : Option String) (port : Int)
    (key : Option String) (o : ConnectOutcome) : Prop :=
  ∃ rc s', (ttngwcConnect protobuf paho host port key o).run s = .ok (rc, s') ∧
    (rc = SUCCESS ↔ Established protobuf id key s s')

/-- The condition: the allocations without which the call faults are served, and the announcement
is accepted if the three steps that decide the result are. -/
def AnnouncementCounts (s : State Dn) (o : ConnectOutcome) : Prop :=
  ConnectReturns paho s o ∧
    (o.network = SUCCESS → mqttRc paho s o = SUCCESS → subscribeRc paho s o = SUCCESS →
      paho.publishRc true o.publish = SUCCESS)

/-! ### One connect -/

section Connect

variable (host : Option String) (port : Int) (key : Option String) (o : ConnectOutcome)
  {s' : State Dn} {rc : Int}

/-- **The steps behind a `0`.** -/
theorem connect_succeeds_iff (ended : ConnectEnd protobuf paho s id host port key o rc s') :
    rc = SUCCESS ↔
      o.network = SUCCESS ∧ mqttRc paho s o = SUCCESS ∧ subscribeRc paho s o = SUCCESS := by
  cases ended with
  | network refused => exact iff_of_false refused fun all => refused all.1
  | mqtt network will refused => exact iff_of_false refused fun all => refused all.2.1
  | subscribe network will mqtt announcement topic =>
    exact ⟨fun subscribed => ⟨network, mqtt, subscribed⟩, fun all => all.2.2⟩

/-- What a connect that puts the gateway in place was answered, as its events are among those of a
connect that goes through. -/
theorem answers_of_established (ended : ConnectEnd protobuf paho s id host port key o rc s')
    (established : Established protobuf id key s s') :
    mqttRc paho s o = SUCCESS ∧ subscribeRc paho s o = SUCCESS ∧
      paho.publishRc true o.publish = SUCCESS := by
  obtain ⟨events, appended, first⟩ := ended.log protobuf paho
  have asked : ∀ event ∈ newEvents s s', event ∈ s.operations protobuf paho id host port key o := by
    rw [newEvents_append appended]
    exact fun event member => first.subset member
  have session := asked _ established.session
  have announcement := asked _ established.announcement
  have subscription := asked _ established.subscription
  simp only [State.operations, List.mem_cons, List.not_mem_nil, reduceCtorEq, or_false, false_or,
    Event.mqttConnect.injEq, Event.publish.injEq,
    Event.subscribe.injEq] at session announcement subscription
  exact ⟨session.2.symm, subscription.2.2.symm, announcement.2.2.symm⟩

/-- A connect whose steps all succeed puts the gateway in place. -/
theorem established_of_answers (intact : Intact id s) (mqtt : mqttRc paho s o = SUCCESS)
    (subscribed : subscribeRc paho s o = SUCCESS)
    (announced : paho.publishRc true o.publish = SUCCESS) :
    Established protobuf id key s (s.afterSubscribe protobuf paho id host port key o) := by
  have events := newEvents_append (afterSubscribe_log (s := s) protobuf paho id host port key o)
  constructor
  · rw [events, afterSubscribe_keyText protobuf paho id host port key o intact]
    simp [State.operations, mqtt]
  · rw [events]
    simp [State.operations, announced]
  · rw [events]
    simp [State.operations, subscribed]
  · rw [afterSubscribe_handlers protobuf paho id host port key o subscribed,
      afterSubscribe_topic, State.downlinkEntry, afterAnnounce_handle]

/-- **The steps that put the gateway in place.** -/
theorem connect_established_iff (intact : Intact id s)
    (ended : ConnectEnd protobuf paho s id host port key o rc s') :
    Established protobuf id key s s' ↔
      o.network = SUCCESS ∧ mqttRc paho s o = SUCCESS ∧ subscribeRc paho s o = SUCCESS ∧
        paho.publishRc true o.publish = SUCCESS := by
  constructor
  · intro established
    refine ⟨?_, answers_of_established protobuf paho host port key o ended established⟩
    cases ended with
    | network refused =>
      -- nothing was asked of the MQTT layer
      have events : newEvents s (s.reached host port key o).released = _ :=
        newEvents_append (reached_log host port key o)
      have session := established.session
      rw [events] at session
      simp at session
    | mqtt network => exact network
    | subscribe network => exact network
  · rintro ⟨network, mqtt, subscribed, announced⟩
    cases ended with
    | network refused => exact absurd network refused
    | mqtt _ _ refused => exact absurd mqtt refused
    | subscribe =>
      rw [if_pos subscribed]
      exact established_of_answers protobuf paho host port key o intact mqtt subscribed announced

/-- **One connect** on an intact session. -/
theorem truthful_iff (intact : Intact id s) :
    Truthful protobuf paho id s host port key o ↔ AnnouncementCounts paho s o := by
  constructor
  · rintro ⟨rc, s', returned, truth⟩
    have ended := connect_returned protobuf paho host port key o intact returned
    refine ⟨(connect_returns_iff protobuf paho host port key o intact).mp ⟨rc, s', returned⟩, ?_⟩
    intro network mqtt subscribed
    have success : rc = SUCCESS :=
      (connect_succeeds_iff protobuf paho host port key o ended).mpr ⟨network, mqtt, subscribed⟩
    have steps := (connect_established_iff protobuf paho host port key o intact ended).mp
      (truth.mp success)
    exact steps.2.2.2
  · rintro ⟨served, counts⟩
    obtain ⟨rc, s', returned⟩ :=
      (connect_returns_iff protobuf paho host port key o intact).mpr served
    have ended := connect_returned protobuf paho host port key o intact returned
    refine ⟨rc, s', returned, ?_⟩
    rw [connect_succeeds_iff protobuf paho host port key o ended,
      connect_established_iff protobuf paho host port key o intact ended]
    constructor
    · rintro ⟨network, mqtt, subscribed⟩
      exact ⟨network, mqtt, subscribed, counts network mqtt subscribed⟩
    · rintro ⟨network, mqtt, subscribed, _⟩
      exact ⟨network, mqtt, subscribed⟩

end Connect

/-! ### Every reachable session -/

/-- **The truth of the result, in every reachable session.** After any calls with any outcomes, a
connect to any host and port with any key and any outcomes of its steps returns `0` exactly when the
gateway is in place, if and only if the allocations it cannot do without are served and the
announcement is accepted whenever the network, the MQTT session and the subscription are. -/
theorem connect_truthful_iff (id : String) (downlinkHandler : Option Nat) (cbArg : Nat)
    (calls : List (Call Up St)) (rcs : List Int) (s : State Dn)
    (ran : (runCalls protobuf paho calls).run (State.created id downlinkHandler cbArg) =
      .ok (rcs, s))
    (host : Option String) (port : Int) (key : Option String) (o : ConnectOutcome) :
    Truthful protobuf paho id s host port key o ↔ AnnouncementCounts paho s o :=
  truthful_iff protobuf paho host port key o
    (run_intact protobuf paho (created_intact id downlinkHandler cbArg) ran)

/-! ### Two announcements -/

/-- All steps are answered positively. -/
theorem connect_truthful_accepted :
    Truthful wireProtobuf embeddedPaho "gw" (State.created "gw" (some 7) 42 : State Bytes)
      (some "localhost") 1883 (some "secret")
      ⟨true, true, true, true, SUCCESS, SUCCESS, SUCCESS, SUCCESS⟩ :=
  (connect_truthful_iff wireProtobuf embeddedPaho "gw" (some 7) 42 [] [] _ rfl _ _ _ _).mpr
    ⟨fun _ => ⟨rfl, fun _ => ⟨rfl, rfl⟩⟩, fun _ _ _ => rfl⟩

/-- **The unannounced gateway.** On a session just created every step but the publish of the
announcement is answered positively: the call returns `0` and the announcement was not accepted. -/
theorem connect_not_truthful :
    ∃ s', (ttngwcConnect wireProtobuf embeddedPaho (some "localhost") 1883 none
        ⟨true, true, true, true, SUCCESS, SUCCESS, FAILURE, SUCCESS⟩).run
          (State.created "gw" (some 7) 42 : State Bytes) = .ok (SUCCESS, s') ∧
      ¬ Established wireProtobuf "gw" none (State.created "gw" (some 7) 42) s' := by
  have intact : Intact "gw" (State.created "gw" (some 7) 42 : State Bytes) := created_intact ..
  have returned : (ttngwcConnect wireProtobuf embeddedPaho (some "localhost") 1883 none
      ⟨true, true, true, true, SUCCESS, SUCCESS, FAILURE, SUCCESS⟩).run
        (State.created "gw" (some 7) 42 : State Bytes) = .ok (SUCCESS, _) :=
    connect_subscribed wireProtobuf embeddedPaho intact rfl rfl rfl rfl rfl
  refine ⟨_, returned, fun established => ?_⟩
  have ended := connect_returned wireProtobuf embeddedPaho _ _ _ _ intact returned
  have steps := (connect_established_iff wireProtobuf embeddedPaho _ _ _ _ intact ended).mp
    established
  exact absurd steps.2.2.2 (by decide)

end GatewayConnector
