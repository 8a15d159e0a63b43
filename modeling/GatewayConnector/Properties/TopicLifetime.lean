/-
**The topic of a subscription outlives its registration.**

`MQTTSubscribe` stores the reference it is given, so the string behind it must stay alive for as
long as the entry is in the handler table; `session->downlink_topic` is there to keep it. But
`ttngwc_disconnect` and the block at `exit:` release the string, and a further connect replaces it,
while nothing ever takes an entry out of the table.

* `topicsHeld_after_connect_iff`, `topicsHeld_after_disconnect_iff` — one call.
* `topics_held_iff` — every run: its entries all refer to the string in `session->downlink_topic`
  exactly when nothing but sends follows the first subscription.
* `topics_not_held` — a connect and a disconnect.
-/

import GatewayConnector.Model.Embedded
import GatewayConnector.Proof.Footprint
import GatewayConnector.Proof.Refinement
import GatewayConnector.Proof.Returned

namespace GatewayConnector

open Lib

variable {Up St Dn : Type} (protobuf : Protobuf Up St Dn) (paho : Paho) {id : String}
  {s s' : State Dn}

/-- Every entry of the handler table refers to the string in `session->downlink_topic`, and that
string has not been released. -/
def TopicsHeld (s : State Dn) : Prop :=
  ∀ entry ∈ s.session.client.messageHandlers, entry.topicFilter = s.session.downlinkTopic ∧
    ∃ number, entry.topicFilter = .block number ∧ s.heap.Live number

/-! ### One call -/

/-- A session that holds no topic has its entries in order only if there are none. -/
theorem topicsHeld_iff_of_null (released : s.session.downlinkTopic = .null) :
    TopicsHeld s ↔ s.session.client.messageHandlers = [] := by
  constructor
  · intro held
    rw [List.eq_nil_iff_forall_not_mem]
    intro entry registered
    obtain ⟨same, number, named, _⟩ := held entry registered
    rw [named, released] at same
    cases same
  · intro empty entry registered
    rw [empty] at registered
    cases registered

theorem topicsHeld_after_connect_iff (intact : Intact id s) (held : TopicsHeld s)
    (host : Option String) (port : Int) (key : Option String) (o : ConnectOutcome) {rc : Int}
    (returned : (ttngwcConnect protobuf paho host port key o).run s = .ok (rc, s')) :
    TopicsHeld s' ↔ s.session.client.messageHandlers = [] := by
  have intactAfter := exec_intact protobuf paho intact (.connect host port key o) returned
  cases connect_returned protobuf paho host port key o intact returned with
  | network refused =>
    rw [topicsHeld_iff_of_null rfl]
    show (s.reached host port key o).session.client.messageHandlers = [] ↔ _
    rw [reached_client]
  | mqtt network will refused =>
    rw [topicsHeld_iff_of_null rfl]
    show (s.afterMqtt protobuf paho id host port key o).session.client.messageHandlers = [] ↔ _
    rw [afterMqtt_handlers]
  | subscribe network will mqtt announcement topic =>
    by_cases subscribed : subscribeRc paho s o = SUCCESS
    · rw [if_pos subscribed] at intactAfter ⊢
      have topicAt : (s.afterSubscribe protobuf paho id host port key o).at .downlinkTopic =
          .block (s.afterAnnounce protobuf paho id host port key o).heap.next :=
        afterSubscribe_topic protobuf paho id host port key o
      unfold TopicsHeld
      rw [afterSubscribe_handlers protobuf paho id host port key o subscribed,
        afterSubscribe_topic protobuf paho id host port key o]
      constructor
      · intro after
        rw [List.eq_nil_iff_forall_not_mem]
        intro entry registered
        -- an entry that was there before names a block older than the new topic
        obtain ⟨_, number, old, live⟩ := held entry registered
        obtain ⟨renamed, _⟩ := after entry (List.mem_append_left _ registered)
        rw [old] at renamed
        have younger := next_lt_afterAnnounce (s := s) protobuf paho id host port key o
        have older := live.lt_next
        rw [Ptr.block.inj renamed] at older
        omega
      · intro empty entry registered
        rw [empty, List.nil_append, List.mem_singleton] at registered
        subst registered
        exact ⟨rfl, _, rfl, intactAfter.live topicAt⟩
    · rw [if_neg subscribed, topicsHeld_iff_of_null rfl]
      show (s.afterSubscribe protobuf paho id host port key o).session.client.messageHandlers = [] ↔ _
      rw [afterSubscribe_handlers_refused protobuf paho id host port key o subscribed]

theorem topicsHeld_after_disconnect_iff (intact : Intact id s) {o : DisconnectOutcome} {rc : Int}
    (returned : (ttngwcDisconnect protobuf paho o).run s = .ok (rc, s')) :
    TopicsHeld s' ↔ s.session.client.messageHandlers = [] := by
  obtain ⟨_, _, rfl⟩ := disconnect_returned protobuf paho intact returned
  rw [topicsHeld_iff_of_null rfl]
  show (State.closeSocket _).session.client.messageHandlers = [] ↔ _
  rw [closeSocket_client]
  exact Iff.rfl

/-! ### Every run -/

/-- Before the first subscription everything is allowed, after it nothing but sends. -/
def BeforeSubscription (v : View) : Call Up St → Prop
  | .connect _ _ _ _ | .disconnect _ => v.handlers = 0
  | .sendUplink _ _ | .sendStatus _ _ => True

instance (v : View) : (call : Call Up St) → Decidable (BeforeSubscription v call)
  | .connect _ _ _ _ | .disconnect _ => inferInstanceAs (Decidable (v.handlers = 0))
  | .sendUplink _ _ | .sendStatus _ _ => inferInstanceAs (Decidable True)

/-- **The topics over runs.** In a run from `ttngwc_init` whose allocations are served, with any
other outcomes, every entry of the handler table refers after every call to the string held in
`session->downlink_topic`, not released, exactly when no connect or disconnect is issued once a
handler is registered. -/
theorem topics_held_iff (id : String) (downlinkHandler : Option Nat) (cbArg : Nat)
    (calls : List (Call Up St)) (served : ∀ call ∈ calls, call.Served) :
    Throughout (Call.exec protobuf paho) (fun _ _ _ s' => TopicsHeld s') calls
        (State.created id downlinkHandler cbArg : State Dn) ↔
      View.fresh.Along paho BeforeSubscription calls := by
  refine throughout_iff_view (J := TopicsHeld) protobuf paho
    (fun s call rc s' intact held served returned => ?_)
    (created_intact id downlinkHandler cbArg) (fun _ registered => nomatch registered) calls served
  have handlers : s.view.handlers = 0 ↔ s.session.client.messageHandlers = [] :=
    List.length_eq_zero_iff
  cases call with
  | connect host port key o =>
    have here := topicsHeld_after_connect_iff protobuf paho intact held host port key o returned
    rw [← handlers] at here
    exact ⟨here, here.mpr⟩
  | disconnect o =>
    have here := topicsHeld_after_disconnect_iff protobuf paho intact returned
    rw [← handlers] at here
    exact ⟨here, here.mpr⟩
  | sendUplink uplink o =>
    obtain rfl := send_returned_served paho intact served.1 returned
    exact ⟨iff_of_true held trivial, fun _ => held⟩
  | sendStatus status o =>
    obtain rfl := send_returned_served paho intact served.1 returned
    exact ⟨iff_of_true held trivial, fun _ => held⟩

/-- A refused network, a subscription and a status. -/
theorem topics_held_subscribed :
    Throughout (Call.exec wireProtobuf embeddedPaho) (fun _ _ _ s' => TopicsHeld s')
      [connectCall none FAILURE SUCCESS SUCCESS SUCCESS,
        connectCall none SUCCESS SUCCESS SUCCESS SUCCESS, .sendStatus [] ⟨true, true, SUCCESS⟩]
      (State.created "gw" (some 7) 42 : State Bytes) :=
  (topics_held_iff wireProtobuf embeddedPaho "gw" (some 7) 42 _ (by decide)).mpr (by decide)

/-- **The released topic.** After a connect that returned `0` and a disconnect, the one entry of
the handler table names the released block of the topic. -/
theorem topics_not_held :
    ∃ rcs s', (runCalls wireProtobuf embeddedPaho
        [connectCall none SUCCESS SUCCESS SUCCESS SUCCESS, disconnectCall SUCCESS SUCCESS]).run
          (State.created "gw" (some 7) 42 : State Bytes) = .ok (rcs, s') ∧ ¬ TopicsHeld s' := by
  have intact : Intact "gw" (State.created "gw" (some 7) 42 : State Bytes) := created_intact ..
  obtain ⟨rcs, s', ran, refined⟩ := run_served wireProtobuf embeddedPaho intact
    [connectCall none SUCCESS SUCCESS SUCCESS SUCCESS, disconnectCall SUCCESS SUCCESS] (by decide)
  have view : s'.view = { View.fresh with handlers := 1 } := refined.view
  have handlers : s'.session.client.messageHandlers.length = 1 := congrArg View.handlers view
  have topic : (s'.session.downlinkTopic != .null) = false := congrArg View.topic view
  refine ⟨rcs, s', ran, fun held => ?_⟩
  rw [topicsHeld_iff_of_null (by simpa using topic)] at held
  rw [held] at handlers
  cases handlers

end GatewayConnector
