/-
**How far a connection has come.**

On the connection of a connect that returns `0` the broker reads a CONNECT and then a SUBSCRIBE for
`<id>/down`, and no other CONNECT or SUBSCRIBE ever: `Stage` says which of the two are still ahead
and what the session, if it is on this connection, has subscribed to. No interleaving of the three
parties changes that (`Ordered.exec`), because the gateway issues both in order, a link keeps the
order, and every further connect uses a connection of its own.
-/

import GatewayConnector.Model.Router
import GatewayConnector.Proof.Returned
import GatewayConnector.Proof.Refinement

namespace GatewayConnector

open Lib

variable {Up St Dn : Type} {protobuf : Protobuf Up St Dn} {paho : Paho} {id : String}

/-! ### What is ahead -/

/-- The packets of a list of operations that are sent on a connection. -/
def packetsOn (connection : Nat) (operations : List Operation) : List Packet :=
  (operations.filter fun operation => operation.connection = connection).map Operation.packet

theorem packetsOn_cons_self (operation : Operation) (rest : List Operation) :
    packetsOn operation.connection (operation :: rest) =
      operation.packet :: packetsOn operation.connection rest := by
  unfold packetsOn
  rw [List.filter_cons, if_pos (decide_eq_true rfl), List.map_cons]

theorem packetsOn_cons_of_ne {operation : Operation} {connection : Nat}
    (other : operation.connection ≠ connection) (rest : List Operation) :
    packetsOn connection (operation :: rest) = packetsOn connection rest := by
  unfold packetsOn
  rw [List.filter_cons, if_neg fun same => other (of_decide_eq_true same)]

theorem packetsOn_eq_nil {connection : Nat} {operations : List Operation}
    (elsewhere : ∀ operation ∈ operations, operation.connection ≠ connection) :
    packetsOn connection operations = [] := by
  unfold packetsOn
  rw [List.filter_eq_nil_iff.mpr fun operation member => ?_, List.map_nil]
  rw [decide_eq_true_iff]
  exact elsewhere operation member

/-- The packets that open a session or a subscription. -/
def Packet.opens : Packet → Bool
  | .connect | .subscribe _ => true
  | _ => false

/-- What a session has subscribed to, if it is on this connection. -/
def Subscriber.filters (connection : Nat) : Option Subscriber → Option (List String)
  | some subscriber =>
    if subscriber.connection = connection then some subscriber.topicFilters else none
  | none => none

theorem filters_on {connection : Nat} {subscriber : Subscriber}
    (same : subscriber.connection = connection) :
    Subscriber.filters connection (some subscriber) = some subscriber.topicFilters := if_pos same

theorem filters_off {connection : Nat} {subscriber : Subscriber}
    (other : subscriber.connection ≠ connection) :
    Subscriber.filters connection (some subscriber) = none := if_neg other

namespace World

/-- What the broker has still to read on a connection: what is on its way and what the gateway has
still to issue. -/
def ahead (w : World Dn) (connection : Nat) : List Packet :=
  w.links connection ++ packetsOn connection w.pending

/-- What the session has subscribed to, if it is on this connection. -/
def filters (w : World Dn) (connection : Nat) : Option (List String) :=
  Subscriber.filters connection w.subscriber

theorem filters_of_on {w : World Dn} {connection : Nat} (on : w.On connection) :
    ∃ subscriber, w.subscriber = some subscriber ∧
      w.filters connection = some subscriber.topicFilters := by
  obtain ⟨subscriber, found, same⟩ := Option.map_eq_some_iff.mp on
  refine ⟨subscriber, found, ?_⟩
  unfold filters
  rw [found]
  exact filters_on same

end World

/-! ### The stages -/

/-- How far a connection has come: which opening packets are ahead, and what the session, if it is on
this connection, has subscribed to. -/
inductive Stage (id : String) : List Packet → Option (List String) → Prop
  | started : Stage id [.connect, .subscribe (downTopic id)] none
  | connected {filters : Option (List String)} (empty : ∀ list ∈ filters, list = []) :
    Stage id [.subscribe (downTopic id)] filters
  | subscribed {filters : Option (List String)} (own : ∀ list ∈ filters, list = [downTopic id]) :
    Stage id [] filters

/-- A stage is left standing when the session ends. -/
theorem Stage.ended {packets : List Packet} {filters : Option (List String)}
    (stage : Stage id packets filters) : Stage id packets none := by
  cases stage with
  | started => exact .started
  | connected => exact .connected fun _ absent => nomatch absent
  | subscribed => exact .subscribed fun _ absent => nomatch absent

/-- What reading a packet does to the subscriptions of its own connection. -/
def Packet.effect : Packet → Option (List String) → Option (List String)
  | .connect, _ => some []
  | .publish _ _, filters => filters
  | .subscribe topicFilter, filters => filters.map fun list => list ++ [topicFilter]
  | .disconnect, _ | .close, _ => none

/-- **Reading a packet moves a connection to its next stage.** -/
theorem Stage.read {packet : Packet} {rest : List Packet} {filters : Option (List String)}
    (stage : Stage id ((packet :: rest).filter Packet.opens) filters) :
    Stage id (rest.filter Packet.opens) (packet.effect filters) := by
  cases packet with
  | connect =>
    rw [List.filter_cons_of_pos rfl] at stage
    generalize rest.filter Packet.opens = later at stage
    cases stage with
    | started =>
      refine .connected fun list found => ?_
      cases found
      rfl
  | subscribe topicFilter =>
    rw [List.filter_cons_of_pos rfl] at stage
    generalize rest.filter Packet.opens = later at stage
    cases stage with
    | connected empty =>
      refine .subscribed fun list found => ?_
      obtain ⟨before, held, rfl⟩ := Option.map_eq_some_iff.mp found
      rw [empty before held, List.nil_append]
  | publish topic payload => exact stage
  | disconnect => exact stage.ended
  | close => exact stage.ended

/-! ### What a packet does to the session -/

section Handle

variable {connection other : Nat} {session : Option Subscriber} (packet : Packet)

theorem filters_handle_self :
    Subscriber.filters connection (packet.handle connection session) =
      packet.effect (Subscriber.filters connection session) := by
  cases session with
  | none =>
    cases packet with
    | connect => exact filters_on rfl
    | publish topic payload => rfl
    | subscribe topicFilter => rfl
    | disconnect => rfl
    | close => rfl
  | some subscriber =>
    by_cases same : subscriber.connection = connection
    · rw [filters_on same]
      cases packet with
      | connect => exact filters_on rfl
      | publish topic payload => exact filters_on same
      | subscribe topicFilter =>
        rw [Packet.handle, if_pos same]
        exact filters_on same
      | disconnect =>
        rw [Packet.handle, if_pos same]
        rfl
      | close =>
        rw [Packet.handle, if_pos same]
        rfl
    · rw [filters_off same]
      cases packet with
      | connect => exact filters_on rfl
      | publish topic payload => exact filters_off same
      | subscribe topicFilter =>
        rw [Packet.handle, if_neg same]
        exact filters_off same
      | disconnect =>
        rw [Packet.handle, if_neg same]
        exact filters_off same
      | close =>
        rw [Packet.handle, if_neg same]
        exact filters_off same

/-- On another connection a packet can only end the session. -/
theorem filters_handle_other (session : Option Subscriber) (packet : Packet)
    (different : other ≠ connection) :
    Subscriber.filters other (packet.handle connection session) = Subscriber.filters other session ∨
      Subscriber.filters other (packet.handle connection session) = none := by
  cases session with
  | none =>
    cases packet with
    | connect => exact Or.inr (filters_off (Ne.symm different))
    | publish topic payload => exact Or.inl rfl
    | subscribe topicFilter => exact Or.inl rfl
    | disconnect => exact Or.inl rfl
    | close => exact Or.inl rfl
  | some subscriber =>
    cases packet with
    | connect => exact Or.inr (filters_off (Ne.symm different))
    | publish topic payload => exact Or.inl rfl
    | subscribe topicFilter =>
      rw [Packet.handle]
      split
      · rename_i same
        exact Or.inr (filters_off fun here => different (here.symm.trans same))
      · exact Or.inl rfl
    | disconnect =>
      rw [Packet.handle]
      split
      · exact Or.inr rfl
      · exact Or.inl rfl
    | close =>
      rw [Packet.handle]
      split
      · exact Or.inr rfl
      · exact Or.inl rfl

end Handle

/-! ### The invariant -/

/-- **The order on every connection.** A connection whose connect returns `0` is at one of its
stages, a connection not opened yet is empty, and the operations that open a session or a
subscription on an accepted connection are answered. -/
structure Ordered (id : String) (w : World Dn) : Prop where
  intact : Intact id w.gateway
  stage : ∀ connection ∈ w.accepted,
    Stage id ((w.ahead connection).filter Packet.opens) (w.filters connection)
  known : ∀ connection ∈ w.accepted, connection < w.gateway.sockets.next
  unopened : ∀ connection, w.gateway.sockets.next ≤ connection →
    w.ahead connection = [] ∧ w.filters connection = none
  current : ∀ connection, w.gateway.session.network = some connection →
    connection < w.gateway.sockets.next
  answered : ∀ operation ∈ w.pending, operation.packet.opens = true →
    operation.connection ∈ w.accepted → operation.answered = true

namespace Ordered

theorem start {s : State Dn} (intact : Intact id s) (current : ∀ connection,
    s.session.network = some connection → connection < s.sockets.next) :
    Ordered id (World.start s) where
  intact := intact
  stage _ absent := nomatch absent
  known _ absent := nomatch absent
  unopened _ _ := ⟨rfl, rfl⟩
  current := current
  answered _ absent := nomatch absent

variable {w : World Dn}

/-! ### The steps of the broker and the router -/

theorem lose (ordered : Ordered id w) : Ordered id w.lose where
  intact := ordered.intact
  stage connection accepted := (ordered.stage connection accepted).ended
  known := ordered.known
  unopened connection above := ⟨(ordered.unopened connection above).1, rfl⟩
  current := ordered.current
  answered := ordered.answered

theorem receive (ordered : Ordered id w) : Ordered id w.receive := by
  unfold World.receive
  split
  · exact ordered
  · exact ⟨ordered.intact, ordered.stage, ordered.known, ordered.unopened, ordered.current,
      ordered.answered⟩

theorem publish (ordered : Ordered id w) (payload : Bytes) : Ordered id (w.publish payload) :=
  ⟨ordered.intact, ordered.stage, ordered.known, ordered.unopened, ordered.current,
    ordered.answered⟩

theorem readRouter (ordered : Ordered id w) : Ordered id (w.readRouter id) := by
  unfold World.readRouter
  split
  · exact ordered
  · exact ⟨ordered.intact, ordered.stage, ordered.known, ordered.unopened, ordered.current,
      ordered.answered⟩

/-- What the broker read is no longer ahead. -/
theorem ahead_read {connection : Nat} {packet : Packet} {rest : List Packet}
    (link : w.links connection = packet :: rest) (other : Nat) :
    w.ahead other = if other = connection then
      packet :: ({ w with links := Function.update w.links connection rest } : World Dn).ahead other
    else ({ w with links := Function.update w.links connection rest } : World Dn).ahead other := by
  by_cases same : other = connection
  · subst same
    rw [if_pos rfl]
    show w.links other ++ packetsOn other w.pending =
      packet :: (Function.update w.links other rest other ++ packetsOn other w.pending)
    rw [Function.update_self, link, List.cons_append]
  · rw [if_neg same]
    show w.links other ++ packetsOn other w.pending =
      Function.update w.links connection rest other ++ packetsOn other w.pending
    rw [Function.update_of_ne same]

theorem readGateway (ordered : Ordered id w) (connection : Nat) :
    Ordered id (w.readGateway connection) := by
  unfold World.readGateway
  split
  · exact ordered
  · rename_i packet rest link
    have ahead := ahead_read link
    refine ⟨ordered.intact, fun other accepted => ?_, ordered.known, fun other above => ?_,
      ordered.current, ordered.answered⟩
    · have stage := ordered.stage other accepted
      rw [ahead other] at stage
      by_cases same : other = connection
      · subst same
        rw [if_pos rfl] at stage
        show Stage id _ (Subscriber.filters other (packet.handle other w.subscriber))
        rw [filters_handle_self]
        exact stage.read
      · rw [if_neg same] at stage
        show Stage id _ (Subscriber.filters other (packet.handle connection w.subscriber))
        rcases filters_handle_other w.subscriber packet same with kept | ended
        · rw [kept]
          exact stage
        · rw [ended]
          exact stage.ended
    · obtain ⟨empty, off⟩ := ordered.unopened other above
      rw [ahead other] at empty
      by_cases same : other = connection
      · rw [if_pos same] at empty
        cases empty
      · rw [if_neg same] at empty
        refine ⟨empty, ?_⟩
        show Subscriber.filters other (packet.handle connection w.subscriber) = none
        rcases filters_handle_other w.subscriber packet same with kept | ended
        · rw [kept]
          exact off
        · exact ended

/-! ### The steps of the gateway -/

/-- A packet that is sent goes from what is to be issued to what is to be read. -/
theorem ahead_sent {operation : Operation} {rest : List Operation}
    (pending : w.pending = operation :: rest) (awaited : Option Nat) (connection : Nat) :
    ({ w with
      pending := rest
      awaited := awaited
      links := Function.update w.links operation.connection
        (w.links operation.connection ++ [operation.packet]) } : World Dn).ahead connection =
      w.ahead connection := by
  show Function.update w.links operation.connection
    (w.links operation.connection ++ [operation.packet]) connection ++ packetsOn connection rest =
      w.links connection ++ packetsOn connection w.pending
  rw [pending]
  by_cases same : connection = operation.connection
  · subst same
    rw [Function.update_self, packetsOn_cons_self, List.append_assoc]
    rfl
  · rw [Function.update_of_ne same, packetsOn_cons_of_ne (Ne.symm same)]

/-- A packet that is not sent is no longer ahead. -/
theorem opening_unsent {operation : Operation} {rest : List Operation}
    (pending : w.pending = operation :: rest) {connection : Nat}
    (closed : operation.connection = connection → operation.packet.opens = false) :
    (w.links connection ++ packetsOn connection rest).filter Packet.opens =
      (w.ahead connection).filter Packet.opens := by
  unfold World.ahead
  rw [pending]
  by_cases same : operation.connection = connection
  · subst same
    have shut : ¬ operation.packet.opens = true := by
      rw [closed rfl]
      exact Bool.false_ne_true
    rw [packetsOn_cons_self, List.filter_append, List.filter_append, List.filter_cons_of_neg shut]
  · rw [packetsOn_cons_of_ne same]

theorem ahead_unsent_nil {operation : Operation} {rest : List Operation}
    (pending : w.pending = operation :: rest) {connection : Nat}
    (empty : w.ahead connection = []) : w.links connection ++ packetsOn connection rest = [] := by
  unfold World.ahead at empty
  rw [pending] at empty
  by_cases same : operation.connection = connection
  · subst same
    rw [packetsOn_cons_self] at empty
    cases (List.append_eq_nil_iff.mp empty).2
  · rw [packetsOn_cons_of_ne same] at empty
    exact empty

theorem issue (ordered : Ordered id w) (sent : Bool) : Ordered id (w.issue sent) := by
  unfold World.issue
  split
  · exact ordered
  · rename_i operation rest pending
    have answeredRest : ∀ other ∈ rest, other.packet.opens = true →
        other.connection ∈ w.accepted → other.answered = true := fun other member =>
      ordered.answered other (by rw [pending]; exact List.mem_cons_of_mem _ member)
    split
    · by_cases leaves : (operation.answered || sent) = true
      · rw [if_pos leaves]
        have ahead := ahead_sent pending
          (if operation.answered then some operation.connection else none)
        refine ⟨ordered.intact, fun connection accepted => ?_, ordered.known,
          fun connection above => ?_, ordered.current, answeredRest⟩
        · rw [ahead connection]
          exact ordered.stage connection accepted
        · rw [ahead connection]
          exact ordered.unopened connection above
      · rw [if_neg leaves]
        have unanswered : operation.answered ≠ true := fun answered =>
          leaves (by rw [answered, Bool.true_or])
        refine ⟨ordered.intact, fun connection accepted => ?_, ordered.known,
          fun connection above => ?_, ordered.current, answeredRest⟩
        · -- the packet does not leave, so it opens nothing on an accepted connection
          show Stage id ((w.links connection ++ packetsOn connection rest).filter Packet.opens) _
          rw [opening_unsent pending fun here => ?_]
          · exact ordered.stage connection accepted
          · rw [← Bool.not_eq_true]
            intro opens
            exact unanswered (ordered.answered operation
              (by rw [pending]; exact List.mem_cons_self) opens (by rw [here]; exact accepted))
        · obtain ⟨empty, off⟩ := ordered.unopened connection above
          exact ⟨ahead_unsent_nil pending empty, off⟩
    · exact ordered

end Ordered

/-! ### The packets of a call -/

section Script

variable {s s' : State Dn} {rc : Int} {used : Option Nat} {next : Nat}

theorem script_networkConnect (host : Option String) (port : Int) {answer : Int}
    (network : answer = SUCCESS) (rest : List (Event Dn)) :
    script used next (.networkConnect host port answer :: rest) =
      script (some next) (next + 1) rest := by
  show Event.sends used (.networkConnect host port answer) ++ (if answer = SUCCESS then _ else _) = _
  rw [if_pos network]
  cases used <;> rfl

theorem script_refused (host : Option String) (port : Int) (answer : Int) :
    script used next ([.networkConnect host port answer] : List (Event Dn)) = [] := by
  show Event.sends used _ ++ (if answer = SUCCESS then [] else []) = []
  rw [ite_self]
  cases used <;> rfl

/-- The packets of a disconnect, or of a publish, are on the connection in use and open nothing. -/
theorem script_departed (topic : String) (message : MQTTMessage Bytes) (answer answer' : Int) :
    ∀ operation ∈ script used next ([.publish topic message answer, .mqttDisconnect answer',
        .networkDisconnect] : List (Event Dn)),
      used = some operation.connection ∧ operation.packet.opens = false := by
  cases used with
  | none =>
    intro operation absent
    cases absent
  | some connection =>
    intro operation member
    simp only [script, Event.sends, Event.packet, List.cons_append, List.nil_append,
      List.mem_cons, List.not_mem_nil, or_false] at member
    rcases member with rfl | rfl | rfl
    · exact ⟨rfl, rfl⟩
    · exact ⟨rfl, rfl⟩
    · exact ⟨rfl, rfl⟩

theorem script_published (topic : String) (message : MQTTMessage Bytes) (answer : Int) :
    ∀ operation ∈ script used next ([.publish topic message answer] : List (Event Dn)),
      used = some operation.connection ∧ operation.packet.opens = false := by
  cases used with
  | none =>
    intro operation absent
    cases absent
  | some connection =>
    intro operation member
    rw [List.mem_singleton.mp member]
    exact ⟨rfl, rfl⟩

variable {host : Option String} {port : Int} {key : Option String} {o : ConnectOutcome}

/-- **The packets of a connect** are on the connection it opens, and those of one that returns `0`
are a CONNECT, the announcement and a SUBSCRIBE. -/
theorem script_connect (ended : ConnectEnd protobuf paho s id host port key o rc s') :
    (∀ operation ∈ script s.session.network s.sockets.next (newEvents s s'),
      o.network = SUCCESS ∧ operation.connection = s.sockets.next) ∧
      (rc = SUCCESS → o.network = SUCCESS ∧
        script s.session.network s.sockets.next (newEvents s s') =
          [⟨s.sockets.next, .connect, true⟩,
            ⟨s.sockets.next, .publish connectTopic (protobuf.connectMessage.pack ⟨id, key⟩),
              paho.publishRc true o.publish == SUCCESS⟩,
            ⟨s.sockets.next, .subscribe (downTopic id), true⟩]) := by
  cases ended with
  | network refused =>
    have events : newEvents s (s.reached host port key o).released =
        [.networkConnect host port o.network] := newEvents_append (reached_log host port key o)
    rw [events, script_refused]
    exact ⟨(fun _ absent => nomatch absent), fun success => absurd success refused⟩
  | mqtt network will refused =>
    have events : newEvents s (s.afterMqtt protobuf paho id host port key o).released = _ :=
      newEvents_append (afterMqtt_log protobuf paho id host port key o)
    rw [events, script_networkConnect host port network]
    refine ⟨fun operation member => ?_, fun success => absurd success refused⟩
    rw [List.mem_singleton.mp member]
    exact ⟨network, rfl⟩
  | subscribe network will mqtt announcement topic =>
    have events : newEvents s (if subscribeRc paho s o = SUCCESS then
        s.afterSubscribe protobuf paho id host port key o
        else (s.afterSubscribe protobuf paho id host port key o).released) =
        s.operations protobuf paho id host port key o := by
      split
      · exact newEvents_append (afterSubscribe_log protobuf paho id host port key o)
      · exact newEvents_append (afterSubscribe_log protobuf paho id host port key o)
    rw [events, State.operations, script_networkConnect host port network]
    refine ⟨fun operation member => ⟨network, ?_⟩, fun success => ⟨network, ?_⟩⟩
    · simp only [script, Event.sends, Event.packet, List.cons_append, List.nil_append,
        List.mem_cons, List.not_mem_nil, or_false] at member
      rcases member with rfl | rfl | rfl
      · rfl
      · rfl
      · rfl
    · simp only [script, Event.sends, Event.packet, Event.answered, List.cons_append,
        List.nil_append, mqtt, success, beq_self_eq_true]
      rfl

end Script

namespace Ordered

variable {w : World Dn} {s' : State Dn} {rc : Int}

/-- A call that opens nothing. -/
theorem begin_plain (ordered : Ordered id w) (idle : w.pending = []) {made : Call Up St}
    (intactAfter : Intact id s') (same : s'.sockets.next = w.gateway.sockets.next)
    (network : ∀ connection, s'.session.network = some connection →
      w.gateway.session.network = some connection)
    (accepted : (w.begin rc s' made).accepted = w.accepted)
    (plain : ∀ operation ∈ script w.gateway.session.network w.gateway.sockets.next
        (newEvents w.gateway s'),
      w.gateway.session.network = some operation.connection ∧ operation.packet.opens = false) :
    Ordered id (w.begin rc s' made) where
  intact := intactAfter
  stage connection known := by
    rw [accepted] at known
    have stage := ordered.stage connection known
    unfold World.ahead at stage ⊢
    rw [idle, List.filter_append] at stage
    have closed : (packetsOn connection (w.begin rc s' made).pending).filter Packet.opens = [] := by
      refine List.filter_eq_nil_iff.mpr fun packet member => ?_
      obtain ⟨operation, found, rfl⟩ := List.mem_map.mp member
      rw [(plain operation (List.mem_of_mem_filter found)).2]
      exact Bool.false_ne_true
    rw [List.filter_append, closed]
    exact stage
  known connection known := by
    rw [accepted] at known
    show connection < s'.sockets.next
    rw [same]
    exact ordered.known connection known
  unopened connection above := by
    have beyond : w.gateway.sockets.next ≤ connection := by
      rw [← same]
      exact above
    obtain ⟨empty, off⟩ := ordered.unopened connection beyond
    refine ⟨List.append_eq_nil_iff.mpr ⟨(List.append_eq_nil_iff.mp empty).1, ?_⟩, off⟩
    refine packetsOn_eq_nil fun operation member here => ?_
    have below := ordered.current _ (plain operation member).1
    omega
  current connection held := by
    show connection < s'.sockets.next
    rw [same]
    exact ordered.current connection (network connection held)
  answered operation member opens := by
    rw [(plain operation member).2] at opens
    cases opens

section Connect

variable {host : Option String} {port : Int} {key : Option String} {o : ConnectOutcome}

/-- After a connect an accepted connection is an earlier one, or the one this connect opened. -/
theorem accepted_connect (ended : ConnectEnd protobuf paho w.gateway id host port key o rc s')
    {connection : Nat}
    (member : connection ∈ (w.begin rc s' (.connect host port key o : Call Up St)).accepted) :
    connection ∈ w.accepted ∨ rc = SUCCESS ∧ connection = w.gateway.sockets.next := by
  have cases : connection ∈
      (if rc = SUCCESS then w.accepted ++ s'.session.network.toList else w.accepted) := member
  by_cases success : rc = SUCCESS
  · rw [if_pos success] at cases
    rcases List.mem_append.mp cases with before | new
    · exact Or.inl before
    · rw [(connect_sockets protobuf paho host port key o ended).2,
        if_pos ((script_connect ended).2 success).1] at new
      exact Or.inr ⟨success, List.mem_singleton.mp new⟩
  · rw [if_neg success] at cases
    exact Or.inl cases

/-- A connect sends nothing on another connection than the one it opens. -/
theorem packetsOn_connect (ended : ConnectEnd protobuf paho w.gateway id host port key o rc s')
    {connection : Nat} (other : o.network = SUCCESS → connection ≠ w.gateway.sockets.next) :
    packetsOn connection (w.begin rc s' (.connect host port key o : Call Up St)).pending = [] :=
  packetsOn_eq_nil fun operation found here => by
    obtain ⟨success, there⟩ := (script_connect ended).1 operation found
    exact other success (here.symm.trans there)

/-- The connection of a connect that returns `0` is at its start. -/
theorem stage_opened (ordered : Ordered id w)
    (ended : ConnectEnd protobuf paho w.gateway id host port key o rc s') (success : rc = SUCCESS) :
    Stage id (((w.begin rc s' (.connect host port key o : Call Up St)).ahead
        w.gateway.sockets.next).filter Packet.opens)
      ((w.begin rc s' (.connect host port key o : Call Up St)).filters w.gateway.sockets.next) := by
  obtain ⟨empty, off⟩ := ordered.unopened w.gateway.sockets.next (Nat.le_refl _)
  have packets : packetsOn w.gateway.sockets.next (script w.gateway.session.network
      w.gateway.sockets.next (newEvents w.gateway s')) =
      [.connect, .publish connectTopic (protobuf.connectMessage.pack ⟨id, key⟩),
        .subscribe (downTopic id)] := by
    rw [((script_connect ended).2 success).2]
    simp [packetsOn]
  show Stage id (List.filter Packet.opens (w.links w.gateway.sockets.next ++
    packetsOn w.gateway.sockets.next (script w.gateway.session.network w.gateway.sockets.next
      (newEvents w.gateway s')))) (w.filters w.gateway.sockets.next)
  rw [(List.append_eq_nil_iff.mp empty).1, off, packets]
  exact .started

/-- A connect: one more connection, which is accepted if the connect returns `0`. -/
theorem begin_connect (ordered : Ordered id w) (idle : w.pending = []) (intactAfter : Intact id s')
    (ended : ConnectEnd protobuf paho w.gateway id host port key o rc s') :
    Ordered id (w.begin rc s' (.connect host port key o : Call Up St)) := by
  obtain ⟨sockets, network⟩ := connect_sockets protobuf paho host port key o ended
  obtain ⟨fresh, opened⟩ := script_connect ended
  have grown : w.gateway.sockets.next ≤ s'.sockets.next := by
    rw [sockets]
    split
    · exact Nat.le_succ _
    · exact Nat.le_refl _
  refine ⟨intactAfter, fun connection member => ?_, fun connection member => ?_,
    fun connection above => ?_, fun connection held => ?_, fun operation member opens known => ?_⟩
  · rcases accepted_connect ended member with before | ⟨success, rfl⟩
    · have stage := ordered.stage connection before
      have below := ordered.known connection before
      unfold World.ahead at stage ⊢
      rw [idle] at stage
      rw [packetsOn_connect ended fun _ => by omega]
      exact stage
    · exact stage_opened ordered ended success
  · show connection < s'.sockets.next
    rcases accepted_connect ended member with before | ⟨success, rfl⟩
    · exact Nat.lt_of_lt_of_le (ordered.known connection before) grown
    · rw [sockets, if_pos (opened success).1]
      exact Nat.lt_succ_self _
  · have beyond : s'.sockets.next ≤ connection := above
    obtain ⟨empty, off⟩ := ordered.unopened connection (Nat.le_trans grown beyond)
    refine ⟨List.append_eq_nil_iff.mpr ⟨(List.append_eq_nil_iff.mp empty).1, ?_⟩, off⟩
    refine packetsOn_connect ended fun success => ?_
    rw [sockets, if_pos success, Heap.next_alloc] at beyond
    omega
  · show connection < s'.sockets.next
    have opens : s'.session.network = some connection := held
    rw [network] at opens
    rw [sockets]
    by_cases success : o.network = SUCCESS
    · rw [if_pos success] at opens ⊢
      cases opens
      exact Nat.lt_succ_self _
    · rw [if_neg success] at opens ⊢
      exact ordered.current connection opens
  · rcases accepted_connect ended known with before | ⟨success, _⟩
    · have below := ordered.known operation.connection before
      have other := (fresh operation member).2
      omega
    · have found : operation ∈ script w.gateway.session.network w.gateway.sockets.next
        (newEvents w.gateway s') := member
      rw [(opened success).2] at found
      simp only [List.mem_cons, List.not_mem_nil, or_false] at found
      rcases found with rfl | rfl | rfl
      · rfl
      · cases opens
      · rfl

end Connect

theorem begin_send (ordered : Ordered id w) (idle : w.pending = []) {made : Call Up St} {M : Type}
    {codec : Codec M} {topicOf : String → String} {qos : QoS} {message : M} {o : SendOutcome}
    (accepted : (w.begin rc s' made).accepted = w.accepted)
    (returned : (sendMessage paho codec topicOf qos message o).run w.gateway = .ok (rc, s')) :
    Ordered id (w.begin rc s' made) := by
  have intactAfter := send_intact paho ordered.intact returned
  have events := send_events paho ordered.intact returned
  have kept : s'.sockets = w.gateway.sockets ∧
      s'.session.network = w.gateway.session.network := by
    rcases send_returned paho ordered.intact returned with ⟨_, _, rfl⟩ | ⟨_, _, _, rfl⟩
    · exact ⟨rfl, rfl⟩
    · exact ⟨rfl, rfl⟩
  refine ordered.begin_plain idle intactAfter (by rw [kept.1]) (fun connection held => ?_) accepted ?_
  · rw [← kept.2]
    exact held
  · rcases events with none | sent
    · rw [none]
      cases w.gateway.session.network <;> exact fun _ absent => nomatch absent
    · rw [sent]
      exact script_published _ _ _

/-- **A call that returned keeps the order.** -/
theorem after_call (ordered : Ordered id w) (idle : w.pending = []) {made : Call Up St}
    (returned : (made.exec protobuf paho).run w.gateway = .ok (rc, s')) :
    Ordered id (w.begin rc s' made) := by
  have intactAfter := exec_intact protobuf paho ordered.intact made returned
  cases made with
  | connect host port key o =>
    exact ordered.begin_connect idle intactAfter
      (connect_returned protobuf paho host port key o ordered.intact returned)
  | disconnect o =>
    have events := disconnect_events protobuf paho ordered.intact returned
    obtain ⟨_, _, rfl⟩ := disconnect_returned protobuf paho ordered.intact returned
    obtain ⟨closed, same⟩ := departed_connection (s := w.gateway) protobuf paho id o
    refine ordered.begin_plain idle intactAfter same (fun connection held => ?_) rfl ?_
    · have gone : (((w.gateway.departed protobuf paho id o).drop .key).drop
          .downlinkTopic).session.network = none := closed
      rw [gone] at held
      cases held
    · rw [events]
      exact script_departed _ _ _ _
  | sendUplink uplink o => exact ordered.begin_send idle rfl returned
  | sendStatus status o => exact ordered.begin_send idle rfl returned

end Ordered

/-! ### Every step -/

theorem turn_call_run {w : World Dn} {made : Call Up St} {rc : Int} {s' : State Dn}
    (free : w.pending = [] ∧ w.Answered)
    (returned : (made.exec protobuf paho).run w.gateway = .ok (rc, s')) :
    (Turn.exec protobuf paho id (.call made)).run w = .ok ((), w.begin rc s' made) := by
  show (if w.pending = [] ∧ w.Answered then _ else _) = _
  rw [if_pos free]
  exact Exec.within_ok World.gateway (fun w rc s' => w.begin rc s' made) returned

/-- A call that cannot begin yet does nothing. -/
theorem turn_call_returned {w w' : World Dn} {made : Call Up St}
    (returned : (Turn.exec protobuf paho id (.call made)).run w = .ok ((), w')) :
    w' = w ∨ w.pending = [] ∧ ∃ rc s', (made.exec protobuf paho).run w.gateway = .ok (rc, s') ∧
      w' = w.begin rc s' made := by
  have cases : (if w.pending = [] ∧ w.Answered then
      Exec.within World.gateway (fun w rc s' => w.begin rc s' made) (made.exec protobuf paho) w
    else .ok ((), w)) = .ok ((), w') := returned
  by_cases free : w.pending = [] ∧ w.Answered
  · rw [if_pos free] at cases
    exact Or.inr ⟨free.1, Exec.within_returned World.gateway _ cases⟩
  · rw [if_neg free] at cases
    cases cases
    exact Or.inl rfl

/-- **No step of any party breaks the order.** -/
theorem Ordered.exec {w w' : World Dn} (ordered : Ordered id w) (turn : Turn Up St)
    (returned : (turn.exec protobuf paho id).run w = .ok ((), w')) : Ordered id w' := by
  cases turn with
  | call made =>
    rcases turn_call_returned returned with rfl | ⟨idle, rc, s', made, rfl⟩
    · exact ordered
    · exact ordered.after_call idle made
  | issue sent =>
    cases returned
    exact ordered.issue sent
  | readGateway connection =>
    cases returned
    exact ordered.readGateway connection
  | readRouter =>
    cases returned
    exact ordered.readRouter
  | lose =>
    cases returned
    exact ordered.lose
  | receive =>
    cases returned
    exact ordered.receive
  | publish payload =>
    cases returned
    exact ordered.publish payload

end GatewayConnector
