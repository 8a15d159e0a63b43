/-
**The parts of `test.c`.**

* `printDownlink_exact` — `print_downlink` stops exactly at the downlinks that are not `Printable`.
* `arriveAll_exact`, `loop_exact` — so does what the program does with the messages that arrive, and
  its loop, which sends a status and an uplink per round.
-/

import GatewayConnector.Lib.Exact
import GatewayConnector.Model.TestProgram
import GatewayConnector.Proof.Harmony
import GatewayConnector.Properties.Publishes

namespace GatewayConnector

open Lib

/-! ### `print_downlink` -/

/-- **`print_downlink` finds what it reads**: a downlink with a payload has a protocol configuration,
and one for LoRaWAN has a data rate, a coding rate and a gateway configuration. -/
def Printable (msg : RouterDownlinkMessage) : Prop :=
  msg.payload ≠ none → ∃ configuration, msg.protocolConfiguration = some configuration ∧
    ∀ lora, configuration.lorawan = some lora →
      lora.dataRate ≠ none ∧ lora.codingRate ≠ none ∧ msg.gatewayConfiguration ≠ none

namespace TestProgram

@[simp] theorem printf_run (line : String) (p : TestProgram) :
    (printf line).run p = .ok ((), { p with out := p.out ++ [line] }) := rfl

theorem string_exact (text : Option String) (p : TestProgram) :
    Exact (string text) p .nullPointer (text ≠ none) fun _ p' => p'.ttn = p.ttn := by
  cases text with
  | none => exact .congr (iff_of_false not_false fun absent => absent rfl) (.of_stopped rfl)
  | some text => exact .congr (iff_of_true trivial (Option.some_ne_none _)) (.of_returned rfl rfl)

theorem message_exact {M : Type} (contents : Option M) (p : TestProgram) :
    Exact (message contents) p .nullPointer (contents ≠ none) fun _ p' => p'.ttn = p.ttn := by
  cases contents with
  | none => exact .congr (iff_of_false not_false fun absent => absent rfl) (.of_stopped rfl)
  | some found => exact .congr (iff_of_true trivial (Option.some_ne_none _)) (.of_returned rfl rfl)

/-- A line, and one about a message behind a pointer. -/
theorem lines_exact {M : Type} (first : String) (contents : Option M) (second : M → String)
    (p : TestProgram) :
    Exact (do printf first; let found ← message contents; printf (second found)) p .nullPointer
      (contents ≠ none) fun _ p' => p'.ttn = p.ttn := by
  refine .congr (and_iff_left trivial) (.follow (printf_run first p) (.bind (message_exact ..) ?_))
  intro found p' same
  exact .of_returned (printf_run (second found) p') same

/-- **`print_downlink`** stops exactly at the downlinks that are not printable, and leaves the
connector alone. -/
theorem printDownlink_exact (msg : RouterDownlinkMessage) (p : TestProgram) :
    Exact (printDownlink msg) p .nullPointer (Printable msg) fun _ p' => p'.ttn = p.ttn := by
  unfold printDownlink Printable
  cases payload : msg.payload with
  | none => exact .congr (iff_of_true trivial fun some => absurd rfl some) (.of_returned rfl rfl)
  | some bytes =>
    refine .follow (printf_run _ p) ?_
    cases msg.protocolConfiguration with
    | none =>
      refine .congr (iff_of_false not_false fun printable => ?_) (.of_stopped rfl)
      obtain ⟨_, found, _⟩ := printable (Option.some_ne_none bytes)
      cases found
    | some configuration =>
      refine .follow rfl ?_
      cases lorawan : configuration.lorawan with
      | none =>
        refine .congr (iff_of_true trivial fun _ => ?_) (.of_returned (printf_run ..) rfl)
        refine ⟨configuration, rfl, fun lora found => ?_⟩
        rw [lorawan] at found
        cases found
      | some lora =>
        refine .congr ?_ (.bind (string_exact lora.dataRate _) fun _ p₁ same₁ =>
          .bind (string_exact lora.codingRate p₁) fun _ p₂ same₂ =>
            (lines_exact _ _ _ p₂).imp fun _ p₃ same₃ => same₃.trans (same₂.trans same₁))
        constructor
        · rintro conditions _
          refine ⟨configuration, rfl, fun other found => ?_⟩
          rw [lorawan] at found
          cases found
          exact conditions
        · intro printable
          obtain ⟨_, found, conditions⟩ := printable (Option.some_ne_none bytes)
          cases found
          exact conditions lora lorawan

/-! ### What arrives -/

variable (protobuf : RouterProtobuf) (paho : Paho)

/-- The downlink that is handed to `print_downlink`. -/
def Arrival.downlink (arrival : Arrival) : Option RouterDownlinkMessage :=
  if paho.topicMatched (downTopic "test") arrival.topic = true then
    protobuf.unpackDownlink arrival.payload
  else none

/-- Whatever is handed to `print_downlink` is printable. -/
def Arrival.Safe (arrival : Arrival) : Prop :=
  ∀ downlink, arrival.downlink protobuf paho = some downlink → Printable downlink

/-- What the connector keeps: the session is intact, has the callback and the topic of the program,
and holds all blocks and connections. -/
structure Tested (s : State RouterDownlinkMessage) : Prop where
  subscribed : Subscribed "test" printDownlinkPointer 0
    ⟨s, false, s.session.client.messageHandlers.length⟩
  ledger : Ledger s

/-- The messages of the program. -/
abbrev TestMessages := List (GatewayMessage RouterUplinkMessage GatewayStatus × Int)

/-- The session is connected, with one handler. -/
def online : View := ⟨true, true, none, true, 1⟩

/-- **The program goes on**: its session stays connected, and these messages are passed on. -/
structure Continues (p : TestProgram) (messages : TestMessages) (p' : TestProgram) : Prop where
  tested : Tested p'.ttn
  view : p'.ttn.view = online
  published : publishCalls p'.ttn.log = publishCalls p.ttn.log ++ onWire protobuf messages

variable {protobuf} in
theorem Continues.trans {p p' p'' : TestProgram} {first later : TestMessages}
    (one : Continues protobuf p first p') (two : Continues protobuf p' later p'') :
    Continues protobuf p (first ++ later) p'' where
  tested := two.tested
  view := two.view
  published := by
    rw [two.published, one.published, List.append_assoc, onWire, onWire, onWire, List.map_append]

theorem Tested.logged {s : State RouterDownlinkMessage} (tested : Tested s)
    (log : List (Event RouterDownlinkMessage)) : Tested { s with log := log } where
  subscribed := tested.subscribed.logged log
  ledger := ⟨⟨tested.ledger.accounted.blocks, tested.ledger.accounted.sockets⟩,
    tested.ledger.isOpen, tested.ledger.closed⟩

/-- **One arrival.** -/
theorem arrive_exact {p : TestProgram} (tested : Tested p.ttn) (view : p.ttn.view = online)
    (arrival : Arrival) :
    Exact (arrive protobuf paho arrival) p .nullPointer (arrival.Safe protobuf paho)
      fun _ p' => Continues protobuf p [] p' := by
  have delivered := deliver_topic_run protobuf paho arrival.payload arrival.topic
    tested.subscribed.topics tested.subscribed.handler tested.subscribed.argument
  have one : p.ttn.session.client.messageHandlers.length = 1 := congrArg View.handlers view
  rw [one, List.replicate_one, List.flatten_singleton] at delivered
  unfold arrive
  refine .follow (Exec.run_getState p) (.follow (Exec.focus_ok _ _ delivered)
    (.follow (Exec.run_getState _) ?_))
  rw [newEvents_append rfl]
  unfold Arrival.Safe Arrival.downlink delivery
  by_cases matched : paho.topicMatched (downTopic "test") arrival.topic = true
  · rw [if_pos matched, if_pos matched]
    cases protobuf.unpackDownlink arrival.payload with
    | none =>
      refine .congr (iff_of_true trivial fun _ absent => nomatch absent) (.of_returned rfl ?_)
      exact ⟨tested.logged _, view, List.filterMap_append ..⟩
    | some downlink =>
      refine .congr ⟨fun safe _ same => Option.some.inj same ▸ safe.1, fun safe =>
        ⟨safe downlink rfl, trivial⟩⟩ (.bind (printDownlink_exact downlink _) fun _ p' same =>
          .of_returned rfl ?_)
      refine ⟨?_, ?_, ?_⟩
      · rw [same]
        exact tested.logged _
      · rw [same]
        exact view
      · rw [same]
        exact List.filterMap_append ..
  · rw [if_neg matched, if_neg matched]
    refine .congr (iff_of_true trivial fun _ absent => nomatch absent) (.of_returned rfl ?_)
    exact ⟨tested.logged _, view, List.filterMap_append ..⟩

theorem arriveAll_exact {p : TestProgram} (tested : Tested p.ttn) (view : p.ttn.view = online)
    (arrivals : List Arrival) :
    Exact (arriveAll protobuf paho arrivals) p .nullPointer
      (∀ arrival ∈ arrivals, arrival.Safe protobuf paho)
      fun _ p' => Continues protobuf p [] p' := by
  induction arrivals generalizing p with
  | nil =>
    exact .congr (iff_of_true trivial fun _ absent => nomatch absent)
      (.of_returned rfl ⟨tested, view, (List.append_nil _).symm⟩)
  | cons arrival rest ih =>
    refine .congr List.forall_mem_cons.symm
      (.bind (arrive_exact protobuf paho tested view arrival) ?_)
    intro _ p' first
    exact (ih first.tested first.view).imp fun _ p'' later => first.trans later

/-! ### The loop -/

/-- **One call** of the program. -/
theorem Tested.call {s : State RouterDownlinkMessage} (tested : Tested s)
    (made : Call RouterUplinkMessage GatewayStatus) (served : made.Served)
    (permitted : KeepsAccount s.view made) :
    ∃ rc s', (followed (made.exec protobuf paho)).run s = .ok (rc, s') ∧
      Refines protobuf paho s "test" made rc s' ∧ Tested s' ∧
      publishCalls s'.log =
        publishCalls s.log ++ onWire protobuf (s.view.messages paho "test" made) := by
  have intact := tested.subscribed.intact
  obtain ⟨rc, s', returned, refines⟩ := exec_served protobuf paho intact made served
  have after := (subscribed_after_call protobuf paho tested.subscribed made returned).1
  have ledger := (ledger_after_exec protobuf paho intact tested.ledger made served returned).2
    permitted
  have state : (Watched.after ⟨s, false, s.session.client.messageHandlers.length⟩ rc s' made).state =
      s' := by
    cases made <;> rfl
  refine ⟨rc, s', followed_run intact returned, refines, ⟨⟨refines.intact, ?_, ?_, ?_, rfl⟩,
    ledger⟩, ?_⟩
  · exact state ▸ after.handler
  · exact state ▸ after.argument
  · exact state ▸ after.topics
  · rw [refines.log, ← events_publish]
    exact List.filterMap_append ..

/-- A send of the program leaves the session as it was. -/
theorem send_run {p : TestProgram} (tested : Tested p.ttn) (view : p.ttn.view = online)
    (made : Call RouterUplinkMessage GatewayStatus) (served : made.Served)
    (permitted : KeepsAccount p.ttn.view made) (stays : View.next paho online made = online)
    {messages : TestMessages} (passes : View.messages paho online "test" made = messages) :
    ∃ rc s', (onTtn (followed (made.exec protobuf paho))).run p = .ok (rc, { p with ttn := s' }) ∧
      ∀ out, Continues protobuf p messages ⟨s', out⟩ := by
  obtain ⟨rc, s', returned, refines, after, published⟩ :=
    tested.call protobuf paho made served permitted
  refine ⟨rc, s', Exec.focus_ok _ _ returned, fun out => ⟨after, ?_, ?_⟩⟩
  · rw [refines.view, view, stays]
  · rw [published, view, passes]

theorem report_run (err : Int) (failed sent : String) (p : TestProgram) :
    ∃ out, (report err failed sent).run p = .ok ((), { p with out := out }) := by
  unfold report
  split
  · exact ⟨_, rfl⟩
  · exact ⟨_, rfl⟩

/-- The allocations of a round are served. -/
def Round.Served (round : Round) : Prop :=
  (round.status.payload = true ∧ round.status.topic = true) ∧
    round.uplink.payload = true ∧ round.uplink.topic = true

instance (round : Round) : Decidable round.Served := inferInstanceAs (Decidable (_ ∧ _))

/-- What arrives in a round. -/
def Round.arrivals (round : Round) : List Arrival := round.between ++ round.asleep

/-- The messages of the rounds after round `i`, with what `MQTTPublish` returns for them. -/
def reports (i : Nat) : List Round → TestMessages
  | [] => []
  | round :: rest =>
    (.status "test" (statusOf (i + 1)), paho.publishRc true round.status.publish) ::
      (.uplink "test" (uplinkOf (i + 1)), paho.publishRc true round.uplink.publish) ::
        reports (i + 1) rest

/-- **The loop** passes on a status and an uplink per round. -/
theorem loop_exact {p : TestProgram} (tested : Tested p.ttn) (view : p.ttn.view = online) (i : Nat)
    (rounds : List Round) (served : ∀ round ∈ rounds, round.Served) :
    Exact (loop protobuf paho i rounds) p .nullPointer
      (∀ arrival ∈ rounds.flatMap Round.arrivals, arrival.Safe protobuf paho)
      fun _ p' => Continues protobuf p (reports paho i rounds) p' := by
  induction rounds generalizing p i with
  | nil =>
    exact .congr (iff_of_true trivial fun _ absent => nomatch absent)
      (.of_returned rfl ⟨tested, view, (List.append_nil _).symm⟩)
  | cons round rest ih =>
    obtain ⟨status, uplink⟩ := served round List.mem_cons_self
    have servedRest := fun other member => served other (List.mem_cons_of_mem round member)
    obtain ⟨rc, s, sent, one⟩ := send_run protobuf paho tested view
      (.sendStatus (statusOf (i + 1)) round.status) status trivial rfl rfl
    obtain ⟨out, told⟩ := report_run rc "status: send failed: "
      ("status: sent with time " ++ toString (i + 1)) { p with ttn := s }
    have whole : Exact (loop protobuf paho i (round :: rest)) p .nullPointer
        ((∀ arrival ∈ round.between, arrival.Safe protobuf paho) ∧
          (∀ arrival ∈ round.asleep, arrival.Safe protobuf paho) ∧
          ∀ arrival ∈ rest.flatMap Round.arrivals, arrival.Safe protobuf paho)
        fun _ p' => Continues protobuf p (reports paho i (round :: rest)) p' := by
      refine .follow sent (.follow told
        (.bind (arriveAll_exact protobuf paho (one out).tested (one out).view round.between) ?_))
      intro _ p₁ two
      obtain ⟨rc', s', sent', three⟩ := send_run protobuf paho two.tested two.view
        (.sendUplink (uplinkOf (i + 1)) round.uplink) uplink trivial rfl rfl
      obtain ⟨out', told'⟩ := report_run rc' "up: send failed: "
        ("up: sent with timestamp " ++ toString (i + 1)) { p₁ with ttn := s' }
      refine .follow sent' (.follow told' (.bind (arriveAll_exact protobuf paho (three out').tested
        (three out').view round.asleep) ?_))
      intro _ p₂ four
      refine (ih four.tested four.view (i + 1) servedRest).imp fun _ p₃ five => ?_
      exact (one out).trans (two.trans ((three out').trans (four.trans five)))
    refine .congr ?_ whole
    rw [List.flatMap_cons, List.forall_mem_append, Round.arrivals, List.forall_mem_append, and_assoc]

end TestProgram

end GatewayConnector
