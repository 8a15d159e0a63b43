/-
**What reaches `MQTTPublish` is what was meant.**

The calls of a process that publish have messages to pass on. `MQTTPublish` is given these messages
in order, each with the topic of its kind and of its gateway, whatever the ids are; and if no two
messages of a type have the same encoding, topics and payloads stand for no other list of messages.

* `wire_injective` — a message is known from its topic and its payload.
* `events_publish` — what one call passes on.
* `publishes_exact` — the property, over every run of a process.
-/

import GatewayConnector.Model.GatewayMessages
import GatewayConnector.Properties.Independence

namespace GatewayConnector

open Lib

variable {Up St Dn : Type} (protobuf : Protobuf Up St Dn) (paho : Paho)

/-! ### Messages -/

/-- **A message is known from its topic and its payload**: its kind, its gateway and its contents. -/
theorem GatewayMessage.wire_injective {protobuf : Protobuf Up St Dn}
    (injective : protobuf.Injective) :
    Function.Injective (GatewayMessage.wire protobuf : GatewayMessage Up St → String × Bytes) := by
  intro first second same
  obtain ⟨topics, payloads⟩ := Prod.mk.inj same
  cases first with
  | connect message =>
    cases second with
    | connect message' => exact congrArg GatewayMessage.connect (injective.connectMessage payloads)
    | disconnect message' => exact absurd topics connectTopic_ne_disconnectTopic
    | uplink id' message' => exact absurd topics.symm (upTopic_not_shared id').1
    | status id' message' => exact absurd topics.symm (statusTopic_not_shared id').1
  | disconnect message =>
    cases second with
    | connect message' => exact absurd topics.symm connectTopic_ne_disconnectTopic
    | disconnect message' =>
      exact congrArg GatewayMessage.disconnect (injective.disconnectMessage payloads)
    | uplink id' message' => exact absurd topics.symm (upTopic_not_shared id').2
    | status id' message' => exact absurd topics.symm (statusTopic_not_shared id').2
  | uplink id message =>
    cases second with
    | connect message' => exact absurd topics (upTopic_not_shared id).1
    | disconnect message' => exact absurd topics (upTopic_not_shared id).2
    | uplink id' message' =>
      exact congrArg₂ GatewayMessage.uplink ((String.append_left_inj _).mp topics)
        (injective.uplinkMessage payloads)
    | status id' message' => exact absurd topics (upTopic_ne_statusTopic id id')
  | status id message =>
    cases second with
    | connect message' => exact absurd topics (statusTopic_not_shared id).1
    | disconnect message' => exact absurd topics (statusTopic_not_shared id).2
    | uplink id' message' => exact absurd topics.symm (upTopic_ne_statusTopic id' id)
    | status id' message' =>
      exact congrArg₂ GatewayMessage.status ((String.append_left_inj _).mp topics)
        (injective.status payloads)

/-! ### Calls -/

/-- The messages a call has to pass on, with what `MQTTPublish` returns for them: a connect that is
accepted announces the gateway with the key it was given, a disconnect takes leave with the key the
session holds. -/
def View.messages (v : View) (id : String) : Call Up St → List (GatewayMessage Up St × Int)
  | .connect _ _ key o =>
    if o.network = SUCCESS ∧ v.mqttRc paho o = SUCCESS then
      [(.connect ⟨id, key⟩, paho.publishRc true o.publish)]
    else []
  | .disconnect o => [(.disconnect ⟨id, v.key⟩, v.publishRc paho o.publish)]
  | .sendUplink uplink o => [(.uplink id uplink, v.publishRc paho o.publish)]
  | .sendStatus status o => [(.status id status, v.publishRc paho o.publish)]

/-- **One call** passes on what it has to. -/
theorem events_publish (v : View) (id : String) (call : Call Up St) :
    publishCalls (v.events protobuf paho id call : List (Event Dn)) =
      onWire protobuf (v.messages paho id call) := by
  cases call with
  | connect host port key o =>
    simp only [View.messages, View.events]
    by_cases network : o.network = SUCCESS
    · by_cases mqtt : v.mqttRc paho o = SUCCESS
      · rw [View.connectEvents_accepted protobuf paho network mqtt, if_pos ⟨network, mqtt⟩]
        rfl
      · rw [View.connectEvents_unaccepted protobuf paho network mqtt,
          if_neg fun both => mqtt both.2]
        rfl
    · rw [View.connectEvents_refused protobuf paho network, if_neg fun both => network both.1]
      rfl
  | disconnect o => rfl
  | sendUplink uplink o => rfl
  | sendStatus status o => rfl

/-- What is handed over is not published. -/
theorem deliveries_publish (topicFilters : List String) (downlinkHandler : Option Nat) (cbArg : Nat)
    (topic : String) (payload : Bytes) :
    publishCalls (deliveries protobuf paho topicFilters downlinkHandler cbArg topic payload :
      List (Event Dn)) = [] := by
  refine List.filterMap_eq_nil_iff.mpr fun event member => ?_
  obtain ⟨_, _, within⟩ := List.mem_flatMap.mp member
  unfold handedOver at within
  split at within
  · exact absurd within List.not_mem_nil
  · rcases List.mem_append.mp within with handler | released
    · obtain ⟨_, _, rfl⟩ := List.mem_map.mp handler
      rfl
    · rw [List.mem_singleton.mp released]
      rfl

/-! ### Runs of a process -/

/-- The messages of one request, in a fleet. -/
def messages (fleet : Nat → Option Member) : Request Up St → List (GatewayMessage Up St × Int)
  | .call session made => match fleet session with
    | some m => m.view.messages paho m.id made
    | none => []
  | _ => []

/-- The messages of a run of requests. -/
def allMessages (fleet : Nat → Option Member) :
    List (Request Up St) → List (GatewayMessage Up St × Int)
  | [] => []
  | request :: rest =>
    messages paho fleet request ++ allMessages ((fleetMachine protobuf paho).next fleet request) rest

theorem output_publish (fleet : Nat → Option Member) (request : Request Up St) :
    publishCalls ((fleetMachine protobuf paho).output fleet request).2 =
      onWire protobuf (messages paho fleet request) := by
  cases request with
  | init session id downlinkHandler cbArg => rfl
  | cleanup session => rfl
  | call session made =>
    show publishCalls ((memberMachine protobuf paho).output (fleet session) (.call session made)).2 =
      onWire protobuf (match fleet session with
        | some m => m.view.messages paho m.id made
        | none => [])
    cases fleet session with
    | none => rfl
    | some m => exact events_publish protobuf paho m.view m.id made
  | arrival session topic payload =>
    show publishCalls ((memberMachine protobuf paho).output (fleet session)
      (.arrival session topic payload)).2 = []
    cases fleet session with
    | none => rfl
    | some m => exact deliveries_publish protobuf paho _ _ _ topic payload

theorem outputs_publish (fleet : Nat → Option Member) (requests : List (Request Up St)) :
    publishCalls (((fleetMachine protobuf paho).outputs fleet requests).flatMap Prod.snd) =
      onWire protobuf (allMessages protobuf paho fleet requests) := by
  induction requests generalizing fleet with
  | nil => rfl
  | cons request rest ih =>
    have here := output_publish protobuf paho fleet request
    have later := ih ((fleetMachine protobuf paho).next fleet request)
    unfold publishCalls at here later ⊢
    rw [Machine.outputs, List.flatMap_cons, List.filterMap_append, here, later]
    exact (List.map_append ..).symm

/-- **What is passed on is what was meant.** After any run of orderly requests on any number of
sessions, the calls of `MQTTPublish` in the log of the process were given exactly the messages that
the requests had to pass on, in their order, and returned what is expected. No other list of messages
has these topics and payloads. -/
theorem publishes_exact (injective : protobuf.Injective) (requests : List (Request Up St))
    (orderly : Orderly protobuf paho requests) :
    ∃ replies p, (runAll (Request.traced protobuf paho) requests).run
        (Process.boot : Process Dn) = .ok (replies, p) ∧
      publishCalls p.log = onWire protobuf (allMessages protobuf paho (fun _ => none) requests) ∧
      ∀ others : List (GatewayMessage Up St),
        others.map (GatewayMessage.wire protobuf) = (publishCalls p.log).map Prod.fst →
          others = (allMessages protobuf paho (fun _ => none) requests).map Prod.fst := by
  obtain ⟨p, ran, _, _, log⟩ := requests_refine protobuf paho boot_separate (orderly.fleet ..)
  have published : publishCalls p.log =
      onWire protobuf (allMessages protobuf paho (fun _ => none) requests) := by
    rw [log, fleet_boot]
    exact outputs_publish protobuf paho (fun _ => none) requests
  refine ⟨_, p, ran, published, fun others same => ?_⟩
  rw [published, onWire, List.map_map] at same
  refine List.map_injective_iff.mpr (GatewayMessage.wire_injective injective) (same.trans ?_)
  rw [List.map_map]
  rfl

theorem wireProtobuf_injective : wireProtobuf.Injective :=
  ⟨wireConnect_injective, wireDisconnect_injective, fun _ _ => id, fun _ _ => id⟩

/-- Two gateways, the id of one ending as the topic of an uplink does. -/
def reporting : List (Request Bytes Bytes) :=
  [.init 0 "gw" none 0, .init 1 "gw/up" none 0,
    .call 0 (connectCall (some "key") SUCCESS SUCCESS SUCCESS SUCCESS),
    .call 1 (connectCall none SUCCESS FAILURE SUCCESS SUCCESS),
    .call 1 (.sendStatus [8] ⟨true, true, SUCCESS⟩), .arrival 0 "gw/down" [],
    .call 0 (.sendUplink [1, 2] ⟨true, true, SUCCESS⟩), .call 0 (disconnectCall SUCCESS SUCCESS)]

theorem reporting_orderly : Orderly wireProtobuf embeddedPaho reporting :=
  (Family.along_iff (fun _ => none) reporting).mp (by decide)

theorem publishes_exact_reporting :
    ∃ replies p, (runAll (Request.traced wireProtobuf embeddedPaho) reporting).run
        (Process.boot : Process Bytes) = .ok (replies, p) ∧
      publishCalls p.log = onWire wireProtobuf
        [(.connect ⟨"gw", some "key"⟩, SUCCESS), (.status "gw/up" [8], FAILURE),
          (.uplink "gw" [1, 2], SUCCESS), (.disconnect ⟨"gw", some "key"⟩, SUCCESS)] := by
  obtain ⟨replies, p, ran, published, _⟩ := publishes_exact wireProtobuf embeddedPaho
    wireProtobuf_injective reporting reporting_orderly
  exact ⟨replies, p, ran, published⟩

end GatewayConnector
