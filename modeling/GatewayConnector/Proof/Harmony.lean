/-
**`app.c` is the machine of `Abstract/Demo.lean`.**

* `Polled` — what the demo keeps: before the first poll there is no session, afterwards it is intact,
  its table has entries of the demo's topic only, and every connection it opened is still open.
* `step_refines` — one step; `steps_refine` — every run of polls and arrivals.
-/

import GatewayConnector.Abstract.Demo
import GatewayConnector.Properties.Losses

namespace GatewayConnector

open Lib

variable {Up St Dn : Type} (protobuf : Protobuf Up St Dn) (paho : Paho)

/-- A delivery is nothing but deliveries. -/
theorem handed_deliveries (n : Nat) (topic : String) (payload : Bytes) :
    ∀ event ∈ (List.replicate n (handedOn protobuf paho topic payload : List (Event Dn))).flatten,
      event.isDelivery = true := by
  intro event member
  obtain ⟨events, replicated, within⟩ := List.mem_flatten.mp member
  rw [List.eq_of_mem_replicate replicated] at within
  unfold handedOn delivery at within
  split at within
  · split at within
    · simp only [List.mem_cons, List.not_mem_nil, or_false] at within
      rcases within with rfl | rfl
      · rfl
      · rfl
    · exact absurd within List.not_mem_nil
  · exact absurd within List.not_mem_nil

/-! ### What the demo keeps -/

/-- The demo without its memory. -/
def AppData.demo (app : AppData Dn) : Demo := ⟨app.state, app.ttn.view⟩

/-- A connection is opened. -/
def Event.opens : Event Dn → Bool
  | .networkConnect _ _ rc => rc == SUCCESS
  | _ => false

theorem Event.not_opens_of_delivery {event : Event Dn} (delivers : event.isDelivery = true) :
    event.opens = false := by
  cases event with
  | networkConnect => cases delivers
  | _ => rfl

/-- What a session of the demo keeps: it is intact, has the demo's callback and topic, and every
connection that was opened is open. -/
structure State.Demonstrates (s : State Dn) : Prop where
  subscribed : Subscribed "test" handleDownlink 0 ⟨s, false, s.session.client.messageHandlers.length⟩
  holdsOpen : HoldsOpen s
  opened : {socket | s.sockets.Live socket}.ncard = s.log.countP Event.opens

/-- **The invariant of the demo.** -/
inductive Polled : AppData Dn → Prop
  | fresh : Polled appInitialize
  | begun {app : AppData Dn} (state : app.state = .connect ∨ app.state = .serviceTasks)
    (kept : app.ttn.Demonstrates) : Polled app

/-- A step of the machine. -/
abbrev Advances (app : AppData Dn) (step : AppStep) (app' : AppData Dn) : Prop :=
  (demoMachine protobuf paho).Step Polled AppData.demo (fun app => app.ttn.log) app step app'

theorem created_demonstrates :
    (State.created "test" (some handleDownlink) 0 : State Dn).Demonstrates where
  subscribed := created_subscribed "test" handleDownlink 0
  holdsOpen := created_holdsOpen (some handleDownlink) 0
  opened := by
    show {socket | (Heap.empty : Heap Unit).Live socket}.ncard = 0
    simp

/-- One connection is opened if the network answers, and none is closed. -/
theorem opened_after_connect {id : String} {s s' : State Dn} {host : Option String} {port : Int}
    {key : Option String} {o : ConnectOutcome} {rc : Int}
    (ended : ConnectEnd protobuf paho s id host port key o rc s') :
    {socket | s'.sockets.Live socket}.ncard =
      {socket | s.sockets.Live socket}.ncard + if o.network = SUCCESS then 1 else 0 := by
  obtain ⟨sockets, _⟩ := connect_sockets protobuf paho host port key o ended
  by_cases network : o.network = SUCCESS
  · rw [if_pos network] at sockets ⊢
    have set : {socket | s'.sockets.Live socket} =
        insert s.sockets.next {socket | s.sockets.Live socket} := by
      ext socket
      rw [sockets]
      exact Heap.live_alloc ..
    have fresh : s.sockets.next ∉ {socket | s.sockets.Live socket} := fun live =>
      Nat.lt_irrefl _ (Heap.Live.lt_next live)
    rw [set, Set.ncard_insert_of_notMem fresh (open_finite s)]
  · rw [if_neg network] at sockets ⊢
    rw [sockets, Nat.add_zero]

theorem connectEvents_opens (v : View) (id : String) (host : Option String) (port : Int)
    (key : Option String) (o : ConnectOutcome) :
    (v.connectEvents protobuf paho id host port key o : List (Event Dn)).countP Event.opens =
      if o.network = SUCCESS then 1 else 0 := by
  unfold View.connectEvents
  by_cases network : o.network = SUCCESS
  · by_cases mqtt : v.mqttRc paho o = SUCCESS
    · simp [network, mqtt, Event.opens]
    · simp [network, mqtt, Event.opens]
  · simp [network, Event.opens]

/-- **A connect keeps it.** -/
theorem State.Demonstrates.connect {s s' : State Dn} (kept : s.Demonstrates) {host : Option String}
    {port : Int} {key : Option String} {o : ConnectOutcome}
    (served : (.connect host port key o : Call Up St).Served) {rc : Int}
    (returned : (ttngwcConnect protobuf paho host port key o).run s = .ok (rc, s')) :
    s'.Demonstrates := by
  let call : Call Up St := .connect host port key o
  have ended := connect_returned protobuf paho host port key o kept.subscribed.intact returned
  have refines : Refines protobuf paho s "test" call rc s' :=
    refines_of_returned protobuf paho kept.subscribed.intact served returned
  have after := (subscribed_after_call protobuf paho kept.subscribed call returned).1
  refine ⟨⟨after.intact, after.handler, after.argument, after.topics, rfl⟩,
    (adrift_after_connect protobuf paho kept.holdsOpen ended).1, ?_⟩
  rw [opened_after_connect protobuf paho ended, kept.opened, refines.log, List.countP_append]
  exact congrArg _ (connectEvents_opens protobuf paho s.view "test" host port key o).symm

/-- **A delivery keeps it.** -/
theorem State.Demonstrates.logged {s : State Dn} (kept : s.Demonstrates) {events : List (Event Dn)}
    (deliveries : ∀ event ∈ events, event.isDelivery = true) :
    ({ s with log := s.log ++ events } : State Dn).Demonstrates where
  subscribed := kept.subscribed.logged _
  holdsOpen := kept.holdsOpen
  opened := by
    have none : events.countP Event.opens = 0 := by
      refine List.countP_eq_zero.mpr fun event member opens => ?_
      rw [Event.not_opens_of_delivery (deliveries event member)] at opens
      exact Bool.false_ne_true opens
    rw [List.countP_append, none]
    exact kept.opened

/-! ### One step -/

/-- The first poll creates the session. -/
theorem tasks_init (o : TasksOutcome) (served : o.Served) :
    ∃ app', (appTasks protobuf paho o).run (appInitialize : AppData Dn) = .ok ((), app') ∧
      Advances protobuf paho appInitialize (.tasks o) app' := by
  have created : (onTtn (ttngwcInit "test" (some handleDownlink) 0 o.init)).run
      (appInitialize : AppData Dn) =
        .ok (.block 0, ⟨.init, State.created "test" (some handleDownlink) 0⟩) := by
    rw [served.1]
    exact Exec.focus_ok _ _ (init_served "test" (some handleDownlink) 0)
  refine ⟨⟨.connect, State.created "test" (some handleDownlink) 0⟩, ?_, ?_⟩
  · unfold appTasks
    rw [Exec.bind_ok (Exec.run_getState _)]
    show (onTtn _ >>= fun _ => _ : Exec Fault (AppData Dn) Unit).run _ = _
    rw [Exec.bind_ok created]
    rfl
  · exact ⟨.begun (Or.inl rfl) created_demonstrates, rfl, rfl⟩

/-- A poll that connects. -/
theorem tasks_connect {s : State Dn} (kept : s.Demonstrates) (o : TasksOutcome) (served : o.Served) :
    ∃ app', (appTasks protobuf paho o).run ⟨.connect, s⟩ = .ok ((), app') ∧
      Advances protobuf paho ⟨.connect, s⟩ (.tasks o) app' := by
  let call : Call Up St := .connect (some "192.168.1.100") 1883 none o.connect
  obtain ⟨rc, s', returned, refines⟩ :=
    exec_served protobuf paho kept.subscribed.intact call served.2
  have keptThen := kept.connect protobuf paho served.2 returned
  have ran : (onTtn (followed (ttngwcConnect protobuf paho (some "192.168.1.100") 1883 none
      o.connect))).run ⟨.connect, s⟩ = .ok (rc, ⟨.connect, s'⟩) :=
    Exec.focus_ok _ _ (followed_run kept.subscribed.intact returned)
  have moved : Demo.next paho ⟨.connect, s.view⟩ (.tasks o) =
      ⟨if rc = SUCCESS then .serviceTasks else .connect, s'.view⟩ := by
    rw [refines.view, refines.reply]
    rfl
  by_cases accepted : rc = SUCCESS
  · rw [if_pos accepted] at moved
    refine ⟨⟨.serviceTasks, s'⟩, ?_, .begun (Or.inr rfl) keptThen, moved.symm, refines.log⟩
    unfold appTasks
    rw [Exec.bind_ok (Exec.run_getState _)]
    show (onTtn _ >>= fun _ => _ : Exec Fault (AppData Dn) Unit).run _ = _
    rw [Exec.bind_ok ran, if_pos (show rc = 0 from accepted)]
    rfl
  · rw [if_neg accepted] at moved
    refine ⟨⟨.connect, s'⟩, ?_, .begun (Or.inl rfl) keptThen, moved.symm, refines.log⟩
    unfold appTasks
    rw [Exec.bind_ok (Exec.run_getState _)]
    show (onTtn _ >>= fun _ => _ : Exec Fault (AppData Dn) Unit).run _ = _
    rw [Exec.bind_ok ran, if_neg (show ¬ rc = 0 from accepted)]
    rfl

/-- A poll that has nothing left to do. -/
theorem tasks_serviceTasks {s : State Dn} (kept : s.Demonstrates) (o : TasksOutcome) :
    (appTasks protobuf paho o).run ⟨.serviceTasks, s⟩ = .ok ((), ⟨.serviceTasks, s⟩) ∧
      Advances protobuf paho ⟨.serviceTasks, s⟩ (.tasks o) ⟨.serviceTasks, s⟩ :=
  ⟨rfl, .begun (Or.inr rfl) kept, rfl, (List.append_nil _).symm⟩

/-- A message arrives. -/
theorem arrival_refines {app : AppData Dn} (polled : Polled app) (topic : String) (payload : Bytes) :
    ∃ app', (AppStep.exec protobuf paho (.arrival topic payload)).run app = .ok ((), app') ∧
      Advances protobuf paho app (.arrival topic payload) app' := by
  cases polled with
  | fresh => exact ⟨appInitialize, rfl, .fresh, rfl, rfl⟩
  | begun state kept =>
    have delivered := deliver_topic_run protobuf paho payload topic kept.subscribed.topics
      kept.subscribed.handler kept.subscribed.argument
    exact ⟨_, Exec.focus_ok _ _ delivered,
      .begun state (kept.logged (handed_deliveries protobuf paho _ topic payload)), rfl, rfl⟩

/-- **One step** whose allocations are served returns and does what the machine does. -/
theorem step_refines {app : AppData Dn} (polled : Polled app) (step : AppStep)
    (served : step.Served) :
    ∃ app', (step.exec protobuf paho).run app = .ok ((), app') ∧
      Advances protobuf paho app step app' := by
  cases step with
  | arrival topic payload => exact arrival_refines protobuf paho polled topic payload
  | tasks o =>
    cases polled with
    | fresh => exact tasks_init protobuf paho o served
    | begun state kept =>
      obtain ⟨_, s⟩ := app
      rcases state with rfl | rfl
      · exact tasks_connect protobuf paho kept o served
      · exact ⟨_, tasks_serviceTasks protobuf paho kept o⟩

/-! ### Every run -/

/-- The machine allows steps whose allocations are served. -/
theorem demo_along (demo : Demo) {steps : List AppStep} (served : ∀ step ∈ steps, step.Served) :
    (demoMachine protobuf paho).Along demo steps := by
  induction steps generalizing demo with
  | nil => trivial
  | cons step rest ih =>
    exact ⟨served step List.mem_cons_self,
      ih _ fun other member => served other (List.mem_cons_of_mem _ member)⟩

/-- **Every run of polls and arrivals** is a run of the machine. -/
theorem steps_refine {app : AppData Dn} (polled : Polled app) {steps : List AppStep}
    (served : ∀ step ∈ steps, step.Served) :
    ∃ replies app', (runAll (AppStep.exec protobuf paho) steps).run app = .ok (replies, app') ∧
      Polled app' ∧ app'.demo = (demoMachine protobuf paho).after app.demo steps ∧
      app'.ttn.log = app.ttn.log ++ ((demoMachine protobuf paho).outputs app.demo steps).flatten :=
  Machine.run_refines (fun app step polled allowed => by
    obtain ⟨app', returned, follows⟩ := step_refines protobuf paho polled step allowed
    exact ⟨(), app', returned, follows⟩) polled (demo_along protobuf paho app.demo served)

end GatewayConnector
