/-
**Failure atomicity of `ttngwc_connect`.**

A call that fails should leave the session disconnected, so that the caller can simply try again.
The block at `exit:` releases the topic and the key, but it closes neither the MQTT session nor the
network: a failure after `NetworkConnect` leaves the network open, and one after `MQTTConnect`
leaves a connected client on which every further `MQTTConnect` fails.

* `connect_fails_cleanly_iff` — one call: it fails cleanly exactly in `FailsCleanly`.
* `connect_atomic_iff` — every run: all of its failures are clean exactly when every connect in it
  is issued under `FailsCleanly`.
* `connect_not_atomic` — a subscription that is refused.
-/

import GatewayConnector.Model.Embedded
import GatewayConnector.Proof.Footprint
import GatewayConnector.Proof.Refinement
import GatewayConnector.Proof.Returned

namespace GatewayConnector

open Lib

/-- What `MQTTConnect` does with the connected flag: the broker's answer decides on a client that
is not connected, a connected client is refused. -/
structure Paho.GuardsConnect (paho : Paho) : Prop where
  fresh : ∀ answer, paho.connectRc false answer = answer
  connected : ∀ answer, paho.connectRc true answer ≠ SUCCESS

theorem Paho.GuardsConnect.mqttRc_iff {paho : Paho} (guarded : paho.GuardsConnect) {Dn : Type}
    (s : State Dn) (o : ConnectOutcome) :
    mqttRc paho s o = SUCCESS ↔ s.session.client.isconnected = false ∧ o.mqtt = SUCCESS := by
  unfold mqttRc
  cases s.session.client.isconnected with
  | false => rw [guarded.fresh]; exact (and_iff_right rfl).symm
  | true => exact iff_of_false (guarded.connected o.mqtt) fun both => Bool.noConfusion both.1

section Atomicity

variable {Up St Dn : Type} (protobuf : Protobuf Up St Dn) (paho : Paho) {id : String}

/-- The session is as `ttngwc_init` and `ttngwc_disconnect` leave it. -/
structure Disconnected (s : State Dn) : Prop where
  network : s.session.network = none
  client : s.session.client.isconnected = false
  key : s.session.key = .null
  downlinkTopic : s.session.downlinkTopic = .null

/-- A further `ttngwc_connect` returns `0` whenever its own steps are answered positively. -/
def RetrySucceeds (s : State Dn) : Prop :=
  ∀ host port key o, (.connect host port key o : Call Up St).Served → o.network = SUCCESS →
    o.mqtt = SUCCESS → subscribeRc paho s o = SUCCESS →
    ∃ s', (ttngwcConnect protobuf paho host port key o).run s = .ok (SUCCESS, s')

/-- A `ttngwc_connect` that returns a non-zero code leaves the session disconnected and open to a
retry. -/
def FailureAtomic (_ : State Dn) : Call Up St → Int → State Dn → Prop
  | .connect _ _ _ _, rc, s' => rc ≠ SUCCESS → Disconnected s' ∧ RetrySucceeds protobuf paho s'
  | _, _, _ => True

/-- The calls that cannot fail halfway: `NetworkConnect` fails on a session that was disconnected,
or it succeeds and so do `MQTTConnect`, on a client that is not connected, and `MQTTSubscribe`. -/
def FailsCleanly (s : State Dn) (o : ConnectOutcome) : Prop :=
  if o.network = SUCCESS then
    s.session.client.isconnected = false ∧ o.mqtt = SUCCESS ∧ subscribeRc paho s o = SUCCESS
  else s.session.network = none ∧ s.session.client.isconnected = false

/-! ### One call -/

/-- A disconnected session can be connected. -/
theorem Disconnected.retry {s : State Dn} (guarded : paho.GuardsConnect)
    (disconnected : Disconnected s) (intact : Intact id s) : RetrySucceeds protobuf paho s := by
  rintro host port key o ⟨_, will, announcement, topic⟩ network mqtt subscribe
  have accepted := (guarded.mqttRc_iff s o).mpr ⟨disconnected.client, mqtt⟩
  have returned : (ttngwcConnect protobuf paho host port key o).run s = _ :=
    connect_subscribed protobuf paho intact network will accepted announcement topic
  rw [subscribe, if_pos rfl] at returned
  exact ⟨_, returned⟩

/-- **One call fails cleanly exactly in `FailsCleanly`.** -/
theorem connect_fails_cleanly_iff {s s' : State Dn} {rc : Int} (guarded : paho.GuardsConnect)
    (intact : Intact id s) (host : Option String) (port : Int) (key : Option String)
    (o : ConnectOutcome)
    (returned : (ttngwcConnect protobuf paho host port key o).run s = .ok (rc, s')) :
    (rc ≠ SUCCESS → Disconnected s' ∧ RetrySucceeds protobuf paho s') ↔ FailsCleanly paho s o := by
  have intactAfter := exec_intact protobuf paho intact (.connect host port key o) returned
  unfold FailsCleanly
  cases connect_returned protobuf paho host port key o intact returned with
  | network refused =>
    rw [if_neg refused]
    have client : (s.reached host port key o).released.session.client = s.session.client :=
      reached_client host port key o
    have network : (s.reached host port key o).released.session.network = s.session.network :=
      (reached_network host port key o).trans (if_neg refused)
    constructor
    · intro atomic
      obtain ⟨disconnected, _⟩ := atomic refused
      exact ⟨network ▸ disconnected.network, client ▸ disconnected.client⟩
    · rintro ⟨closed, unconnected⟩ _
      have disconnected : Disconnected (s.reached host port key o).released :=
        ⟨network.trans closed, by rw [client, unconnected], rfl, rfl⟩
      exact ⟨disconnected, disconnected.retry protobuf paho guarded intactAfter⟩
  | mqtt network will refused =>
    rw [if_pos network]
    have opened : (s.afterMqtt protobuf paho id host port key o).released.session.network =
        some s.sockets.next := afterMqtt_network protobuf paho id host port key o network
    constructor
    · intro atomic
      have closed := (atomic refused).1.network
      rw [opened] at closed
      cases closed
    · rintro ⟨unconnected, accepted, _⟩
      exact absurd ((guarded.mqttRc_iff s o).mpr ⟨unconnected, accepted⟩) refused
  | subscribe network will mqtt announcement topic =>
    rw [if_pos network]
    obtain ⟨unconnected, accepted⟩ := (guarded.mqttRc_iff s o).mp mqtt
    by_cases subscribed : subscribeRc paho s o = SUCCESS
    · exact iff_of_true (fun failed => absurd subscribed failed)
        ⟨unconnected, accepted, subscribed⟩
    · refine iff_of_false (fun atomic => ?_) fun clean => subscribed clean.2.2
      have opened : (s.afterSubscribe protobuf paho id host port key o).released.session.network =
          some s.sockets.next := afterSubscribe_network protobuf paho id host port key o network
      have closed := (atomic subscribed).1.network
      rw [if_neg subscribed, opened] at closed
      cases closed

/-! ### Every run -/

/-- The condition on a call of a run. -/
def CleanCall (s : State Dn) : Call Up St → Prop
  | .connect _ _ _ o => FailsCleanly paho s o
  | _ => True

/-- **Failure atomicity over runs.** In a run from `ttngwc_init`, with any outcomes, every connect
that fails leaves the session disconnected and open to a retry, exactly when every connect of the
run is issued under `FailsCleanly`. -/
theorem connect_atomic_iff (guarded : paho.GuardsConnect) (id : String)
    (downlinkHandler : Option Nat) (cbArg : Nat) (calls : List (Call Up St)) (rcs : List Int)
    (last : State Dn)
    (ran : (runCalls protobuf paho calls).run (State.created id downlinkHandler cbArg) =
      .ok (rcs, last)) :
    Throughout (Call.exec protobuf paho) (FailureAtomic protobuf paho) calls
        (State.created id downlinkHandler cbArg : State Dn) ↔
      Along (Call.exec protobuf paho) (CleanCall paho) calls
        (State.created id downlinkHandler cbArg : State Dn) := by
  refine throughout_iff_along_of_returned
    (fun _ call _ _ intact returned _ => exec_intact protobuf paho intact call returned)
    (fun s call rc s' intact returned => ?_) (created_intact id downlinkHandler cbArg) ran
  cases call with
  | connect host port key o =>
    exact connect_fails_cleanly_iff protobuf paho guarded intact host port key o returned
  | disconnect o => exact Iff.rfl
  | sendUplink uplink o => exact Iff.rfl
  | sendStatus status o => exact Iff.rfl

end Atomicity

/-! ### A refused network and a refused subscription -/

theorem embeddedPaho_guards : embeddedPaho.GuardsConnect where
  fresh _ := rfl
  connected _ := by
    show FAILURE ≠ SUCCESS
    decide

/-- A network that cannot be reached, and then one that can. -/
theorem connect_atomic_retried :
    Throughout (Call.exec wireProtobuf embeddedPaho) (FailureAtomic wireProtobuf embeddedPaho)
      [connectCall none FAILURE SUCCESS SUCCESS SUCCESS,
        connectCall (some "secret") SUCCESS SUCCESS SUCCESS SUCCESS]
      (State.created "gw" (some 7) 42 : State Bytes) := by
  have intact : Intact "gw" (State.created "gw" (some 7) 42 : State Bytes) := created_intact ..
  obtain ⟨rcs, last, ran, _⟩ := run_served wireProtobuf embeddedPaho intact
    [connectCall none FAILURE SUCCESS SUCCESS SUCCESS,
      connectCall (some "secret") SUCCESS SUCCESS SUCCESS SUCCESS] (by decide)
  refine (connect_atomic_iff wireProtobuf embeddedPaho embeddedPaho_guards "gw" (some 7) 42 _ rcs
    last ran).mpr ⟨⟨rfl, rfl⟩, fun rc s' returned => ⟨?_, fun _ _ _ => trivial⟩⟩
  have refined := refines_of_returned wireProtobuf embeddedPaho intact
    (connectCall_served none FAILURE SUCCESS SUCCESS SUCCESS) returned
  have view : s'.view = View.fresh := refined.view
  have handlers : s'.session.client.messageHandlers.length = 0 := congrArg View.handlers view
  refine ⟨congrArg View.connected view, rfl, ?_⟩
  unfold subscribeRc
  rw [handlers]
  rfl

/-- **The failed subscription.** On a session just created, the network and the broker accept and
the subscription is refused: the call returns `FAILURE`, the network stays open, the client stays
connected and a retry fails although all of its steps are answered positively. -/
theorem connect_not_atomic :
    ∃ s', (ttngwcConnect wireProtobuf embeddedPaho (some "localhost") 1883 none
        ⟨true, true, true, true, SUCCESS, SUCCESS, SUCCESS, FAILURE⟩).run
          (State.created "gw" (some 7) 42 : State Bytes) = .ok (FAILURE, s') ∧
      s'.session.network ≠ none ∧ s'.session.client.isconnected = true ∧
      ¬ RetrySucceeds wireProtobuf embeddedPaho s' := by
  have intact : Intact "gw" (State.created "gw" (some 7) 42 : State Bytes) := created_intact ..
  obtain ⟨rc, s', returned, refined⟩ := exec_served wireProtobuf embeddedPaho intact
    (connectCall none SUCCESS SUCCESS SUCCESS FAILURE) (connectCall_served ..)
  have failed : rc = FAILURE := refined.reply
  subst failed
  have view : s'.view = ⟨true, true, none, false, 0⟩ := refined.view
  have network : s'.session.network.isSome = true := congrArg View.network view
  have connected : s'.session.client.isconnected = true := congrArg View.connected view
  have handlers : s'.session.client.messageHandlers.length = 0 := congrArg View.handlers view
  refine ⟨s', returned, Option.isSome_iff_ne_none.mp network, connected, fun retry => ?_⟩
  -- the retry is answered positively in all of its steps, and its `MQTTConnect` fails
  have positive : subscribeRc embeddedPaho s' ⟨true, true, true, true, 0, 0, 0, 0⟩ = SUCCESS := by
    unfold subscribeRc
    rw [handlers]
    rfl
  obtain ⟨s'', again⟩ := retry none 1883 none ⟨true, true, true, true, 0, 0, 0, 0⟩
    ⟨rfl, rfl, rfl, rfl⟩ rfl rfl positive
  have refused : mqttRc embeddedPaho s' ⟨true, true, true, true, 0, 0, 0, 0⟩ = FAILURE := by
    unfold mqttRc
    rw [connected]
    rfl
  rw [connect_mqtt_refused wireProtobuf embeddedPaho none 1883 none _ refined.intact rfl rfl
    (by rw [refused]; decide), refused] at again
  cases again

end GatewayConnector
