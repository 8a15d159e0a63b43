/-
**What a run of `test.c` comes to.**

* `main_exact` — a run that gets a connection: it passes on what it should, in order, and leaves
  nothing behind, unless a downlink arrives that `print_downlink` cannot read, which stops it.
* `main_refused` — a run that does not: it returns the code of the connect, releases its memory, and
  leaves a connection open if the network had answered.
-/

import GatewayConnector.Proof.TestProgram

namespace GatewayConnector

open Lib

namespace TestProgram

variable (protobuf : RouterProtobuf) (paho : Paho)

/-- The allocations of a run are served. -/
def Course.Served (course : Course) : Prop :=
  course.init = .served ∧
    (course.connect.keyCopy = true ∧ course.connect.willPayload = true ∧
      course.connect.announcement = true ∧ course.connect.downlinkTopic = true) ∧
    (∀ round ∈ course.rounds, round.Served) ∧ course.disconnect.payload = true

instance (course : Course) : Decidable course.Served := inferInstanceAs (Decidable (_ ∧ _))

/-- What arrives in a run. -/
def Course.arrivals (course : Course) : List Arrival :=
  course.connected ++ course.rounds.flatMap Round.arrivals

/-- The session that `ttngwc_init` leaves. -/
def session : State RouterDownlinkMessage := .created "test" (some printDownlinkPointer) 0

theorem session_tested : Tested session where
  subscribed := created_subscribed "test" printDownlinkPointer 0
  ledger := created_ledger (some printDownlinkPointer) 0

theorem init_exact {course : Course} (served : course.Served) :
    (onTtn (ttngwcInit "test" (some printDownlinkPointer) 0 course.init)).run start =
      .ok (.block 0, ⟨session, []⟩) := by
  rw [served.1]
  exact Exec.focus_ok _ _ (init_served "test" (some printDownlinkPointer) 0)

/-- The connect of the program, with its allocations served. -/
def connecting (o : ConnectOutcome) : Call RouterUplinkMessage GatewayStatus :=
  .connect (some "localhost") 1883 none o

theorem cleanup_run {p : TestProgram} (tested : Tested p.ttn) :
    (onTtn (followed ttngwcCleanup)).run p =
      .ok ((), { p with ttn := { p.ttn with heap := p.ttn.cleanedHeap } }) :=
  Exec.focus_ok _ _ (followed_run tested.subscribed.intact (cleanup_intact tested.subscribed.intact))

/-! ### A run that gets a connection -/

/-- The messages of a run: it announces itself, reports in every round, and takes its leave. -/
def Course.messages (course : Course) : TestMessages :=
  (.connect ⟨"test", none⟩, paho.publishRc true course.connect.publish) ::
    (reports paho 0 course.rounds ++
      [(.disconnect ⟨"test", none⟩, paho.publishRc true course.disconnect.publish)])

/-- The end of the program. -/
theorem leave_exact {p : TestProgram} (tested : Tested p.ttn) (view : p.ttn.view = online)
    {o : DisconnectOutcome} (served : o.payload = true) :
    Exact (do
        printf "disconnecting"
        let _ ← onTtn (followed (ttngwcDisconnect protobuf paho o))
        onTtn (followed ttngwcCleanup)
        pure (0 : Int)) p .nullPointer True fun rc p' =>
      rc = 0 ∧ NothingLeft p'.ttn ∧ publishCalls p'.ttn.log = publishCalls p.ttn.log ++
        onWire protobuf [(.disconnect ⟨"test", none⟩, paho.publishRc true o.publish)] := by
  obtain ⟨rc, s', returned, refines, after, published⟩ :=
    tested.call protobuf paho (.disconnect o) served trivial
  refine .follow (printf_run ..) (.follow (Exec.focus_ok _ _ returned) (.follow (cleanup_run after)
    (.of_returned rfl ⟨rfl, ?_, ?_⟩)))
  · refine (nothingLeft_after_cleanup_iff after.ledger).mpr ?_
    have closed : s'.view.network = false := by
      rw [refines.view]
      rfl
    exact Option.isNone_iff_eq_none.mp (Option.isSome_eq_false_iff.mp closed)
  · show publishCalls s'.log = _
    rw [published, view]
    rfl

/-- The program once its connect is accepted. -/
theorem main_connects {course : Course} (served : course.Served)
    (accepted : View.fresh.connectReply paho course.connect = SUCCESS) :
    Exact (main protobuf paho course) start .nullPointer
      (∀ arrival ∈ course.arrivals, arrival.Safe protobuf paho)
      fun rc p => rc = 0 ∧ NothingLeft p.ttn ∧
        publishCalls p.ttn.log = onWire protobuf (course.messages paho) := by
  obtain ⟨rc, s', returned, refines, after, published⟩ :=
    session_tested.call protobuf paho (connecting course.connect) served.2.1 (Or.inl rfl)
  have fresh : session.view = View.fresh := created_view ..
  rw [fresh] at published
  have reply : rc = 0 := by
    rw [refines.reply, fresh]
    exact accepted
  obtain ⟨network, mqtt, subscribe⟩ := (View.connectReply_iff paho).mp accepted
  have view : s'.view = online := by
    rw [refines.view, fresh]
    exact View.connect_accepted paho network mqtt subscribe
  have begun : publishCalls s'.log = onWire protobuf
      [(.connect ⟨"test", none⟩, paho.publishRc true course.connect.publish)] := by
    rw [published]
    show [] ++ onWire protobuf (if _ then _ else _) = _
    rw [if_pos ⟨network, mqtt⟩]
    rfl
  have whole : Exact (main protobuf paho course) start .nullPointer
      ((∀ arrival ∈ course.connected, arrival.Safe protobuf paho) ∧
        (∀ arrival ∈ course.rounds.flatMap Round.arrivals, arrival.Safe protobuf paho) ∧ True)
      fun rc p => rc = 0 ∧ NothingLeft p.ttn ∧
        publishCalls p.ttn.log = onWire protobuf (course.messages paho) := by
    refine .follow (init_exact served) ?_
    rw [if_neg (by decide)]
    refine .follow (printf_run ..) (.follow (Exec.focus_ok _ _ returned) ?_)
    rw [if_neg (not_not.mpr reply)]
    refine .follow (printf_run ..)
      (.bind (arriveAll_exact protobuf paho after view course.connected) ?_)
    intro _ p₁ one
    refine .bind (loop_exact protobuf paho one.tested one.view 0 course.rounds served.2.2.1) ?_
    intro _ p₂ two
    refine (leave_exact protobuf paho two.tested two.view served.2.2.2).imp ?_
    rintro _ p₃ ⟨returns, nothing, spoken⟩
    refine ⟨returns, nothing, ?_⟩
    rw [spoken, two.published, one.published]
    show ((publishCalls s'.log ++ _) ++ _) ++ _ = _
    rw [begun]
    simp [onWire, Course.messages]
  rw [and_true, ← List.forall_mem_append] at whole
  exact whole

/-- A downlink for LoRa. -/
def downlinkForLora : RouterDownlinkMessage where
  payload := some [1, 2, 3]
  protocolConfiguration := some { lorawan := some {
    dataRate := some "SF7BW125"
    codingRate := some "4/5" } }
  gatewayConfiguration := some { frequency := some 868100000 }

/-- A run of two rounds with one downlink. -/
def twoRounds : Course where
  init := .served
  connect := ⟨true, true, true, true, SUCCESS, SUCCESS, SUCCESS, SUCCESS⟩
  connected := []
  rounds := [⟨⟨true, true, SUCCESS⟩, [], ⟨true, true, FAILURE⟩,
      [⟨"test/down", downlinkForLora.encode⟩]⟩,
    ⟨⟨true, true, SUCCESS⟩, [], ⟨true, true, SUCCESS⟩, []⟩]
  inRange := by decide
  disconnect := ⟨true, SUCCESS, SUCCESS⟩

/-- A session without a topic leaves no block behind. -/
theorem cleaned_blocks {s : State RouterDownlinkMessage} (tested : Tested s)
    (unsubscribed : s.view.topic = false) (number : Nat) : ¬ s.cleanedHeap.Live number := by
  intro live
  obtain ⟨before, unnamed⟩ := (live_cleanedHeap number).mp live
  obtain ⟨field, named, _⟩ := tested.ledger.accounted.blocks number before
  have held : s.session.downlinkTopic = .null := by
    simpa [State.view] using unsubscribed
  by_cases same : field = .downlinkTopic
  · rw [same] at named
    exact Ptr.noConfusion (held.symm.trans named)
  · exact unnamed field same named

/-- The open connections are that of the session. -/
theorem connections_ncard {s : State RouterDownlinkMessage} (tested : Tested s) :
    {socket | s.sockets.Live socket}.ncard = if s.view.network = true then 1 else 0 := by
  have none : {socket | Adrift s socket} = ∅ := Set.eq_empty_iff_forall_notMem.mpr
    fun socket lost => lost.2 (tested.ledger.accounted.sockets socket lost.1)
  rw [open_ncard tested.ledger.isOpen, none, Set.ncard_empty, Nat.zero_add]

/-- **A run of the program that does not connect**, with its allocations served, returns the code of
the connect. It has passed no status and no uplink to `MQTTPublish`, and took no leave if it had
announced itself. Every block is given back, but if `NetworkConnect` returned `0` its connection is
still open. -/
theorem main_refused (course : Course) (served : course.Served)
    (refused : View.fresh.connectReply paho course.connect ≠ SUCCESS) :
    ∃ p, (main protobuf paho course).run start =
        .ok (View.fresh.connectReply paho course.connect, p) ∧
      publishCalls p.ttn.log = onWire protobuf (if course.connect.network = SUCCESS ∧
        View.fresh.mqttRc paho course.connect = SUCCESS then
          [(.connect ⟨"test", none⟩, paho.publishRc true course.connect.publish)] else []) ∧
      (∀ number, ¬ p.ttn.heap.Live number) ∧
      {socket | p.ttn.sockets.Live socket}.ncard =
        if course.connect.network = SUCCESS then 1 else 0 := by
  obtain ⟨rc, s', returned, refines, after, published⟩ :=
    session_tested.call protobuf paho (connecting course.connect) served.2.1 (Or.inl rfl)
  have fresh : session.view = View.fresh := created_view ..
  rw [fresh] at published
  have reply : rc = View.fresh.connectReply paho course.connect := by
    rw [refines.reply, fresh]
    rfl
  have failed : rc ≠ 0 := by
    rw [reply]
    exact refused
  obtain ⟨connected, unconnected⟩ := View.connect_failed paho none refused
  have view : s'.view = ⟨decide (course.connect.network = SUCCESS), connected, none, false, 0⟩ := by
    rw [refines.view, fresh]
    exact unconnected
  have whole : Exact (main protobuf paho course) start .nullPointer True fun code p =>
      code = rc ∧ p.ttn = { s' with heap := s'.cleanedHeap } := by
    refine .follow (init_exact served) ?_
    rw [if_neg (by decide)]
    refine .follow (printf_run ..) (.follow (Exec.focus_ok _ _ returned) ?_)
    rw [if_pos failed]
    exact .follow (printf_run ..) (.follow (cleanup_run after) (.of_returned rfl ⟨rfl, rfl⟩))
  obtain ⟨_, p, ran, rfl, left⟩ := whole.returns trivial
  rw [reply] at ran
  refine ⟨p, ran, ?_⟩
  rw [left]
  refine ⟨?_, cleaned_blocks after (congrArg View.topic view), ?_⟩
  · show publishCalls s'.log = _
    rw [published]
    rfl
  · show {socket | s'.sockets.Live socket}.ncard = _
    rw [connections_ncard after, view]
    simp only [decide_eq_true_eq]

/-- The broker refuses. -/
theorem main_refused_unaccepted :
    ∃ p, (main (routerProtobuf []) embeddedPaho { twoRounds with
        connect := ⟨true, true, true, true, SUCCESS, 5, SUCCESS, SUCCESS⟩ }).run start = .ok (5, p) ∧
      publishCalls p.ttn.log = [] ∧ (∀ number, ¬ p.ttn.heap.Live number) ∧
      {socket | p.ttn.sockets.Live socket}.ncard = 1 :=
  main_refused (routerProtobuf []) embeddedPaho { twoRounds with
    connect := ⟨true, true, true, true, SUCCESS, 5, SUCCESS, SUCCESS⟩ } (by decide) (by decide)

end TestProgram

end GatewayConnector
