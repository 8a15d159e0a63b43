/-
**What the links carry.**

Gateway, broker and router take their steps in any order (`Model/Router.lean`). Every call that the
gateway begins has messages to pass on, and its view and the connections it opened say for which
connection they are meant. On one connection the router receives these messages, in order. Nothing is
added or repeated. What is missing was lost at one of two points: the gateway did not wait for the
answer and the packet did not leave, or the broker read it when the session was not on that connection.

* `packets_meant` — the publishes of a call are its messages, on the connection they are meant for.
* `links_carry` — every interleaving, and exactly when nothing is lost.
-/

import GatewayConnector.Lib.Channel
import GatewayConnector.Properties.Announcement
import GatewayConnector.Properties.Publishes

namespace GatewayConnector

open Lib

variable {Up St Dn : Type} (protobuf : Protobuf Up St Dn) (paho : Paho) {id : String}

/-! ### What is meant for a connection -/

/-- The connection in use and the number of the next, after a call. -/
def Call.place (place : Option Nat × Nat) : Call Up St → Option Nat × Nat
  | .connect _ _ _ o => if o.network = SUCCESS then (some place.2, place.2 + 1) else place
  | .disconnect _ => (none, place.2)
  | .sendUplink _ _ | .sendStatus _ _ => place

/-- The connection that the messages of a call are for: a connect announces the gateway on the one it
opens. -/
def Call.line (place : Option Nat × Nat) : Call Up St → Option Nat
  | .connect _ _ _ _ => some place.2
  | .disconnect _ | .sendUplink _ _ | .sendStatus _ _ => place.1

/-- The messages of a call that are for a connection. -/
def View.messagesOn (connection : Nat) (v : View) (place : Option Nat × Nat) (id : String)
    (call : Call Up St) : List (GatewayMessage Up St) :=
  if call.line place = some connection then (v.messages paho id call).map Prod.fst else []

/-- The messages of a list of calls that are for a connection. -/
def View.meantFor (connection : Nat) (v : View) (place : Option Nat × Nat) (id : String) :
    List (Call Up St) → List (GatewayMessage Up St)
  | [] => []
  | call :: rest => v.messagesOn paho connection place id call ++
      (v.next paho call).meantFor connection (call.place place) id rest

/-- **One more call.** -/
theorem meantFor_append (connection : Nat) (v : View) (place : Option Nat × Nat) (id : String)
    (calls : List (Call Up St)) (call : Call Up St) :
    v.meantFor paho connection place id (calls ++ [call]) =
      v.meantFor paho connection place id calls ++
        (v.after paho calls).messagesOn paho connection (calls.foldl Call.place place) id call := by
  induction calls generalizing v place with
  | nil => exact List.append_nil _
  | cons first rest ih =>
    show v.messagesOn paho connection place id first ++
      (v.next paho first).meantFor paho connection (first.place place) id (rest ++ [call]) = _
    rw [ih, ← List.append_assoc]
    rfl

/-- What a packet brings to the router. -/
def Packet.message : Packet → Option (String × Bytes)
  | .publish topic payload => some (topic, payload)
  | _ => none

theorem filterMap_message_cons (packet : Packet) (rest : List Packet) :
    (packet :: rest).filterMap Packet.message =
      packet.message.toList ++ rest.filterMap Packet.message := by
  cases brings : packet.message with
  | none => rw [List.filterMap_cons_none brings, Option.toList_none, List.nil_append]
  | some message => rw [List.filterMap_cons_some brings, Option.toList_some, List.singleton_append]

/-- The first of the operations brings its message, if it is on the connection. -/
theorem packetsOn_message_cons (connection : Nat) (operation : Operation) (rest : List Operation) :
    (packetsOn connection (operation :: rest)).filterMap Packet.message =
      (if operation.connection = connection then operation.packet.message.toList else []) ++
        (packetsOn connection rest).filterMap Packet.message := by
  by_cases same : operation.connection = connection
  · subst same
    rw [packetsOn_cons_self, if_pos rfl, filterMap_message_cons]
  · rw [packetsOn_cons_of_ne same, if_neg same, List.nil_append]

/-- One publish. -/
theorem packetsOn_published (connection : Nat) (used : Option Nat) (next : Nat) (topic : String)
    (message : MQTTMessage Bytes) (rc : Int) :
    (packetsOn connection (script used next
        ([.publish topic message rc] : List (Event Dn)))).filterMap Packet.message =
      if used = some connection then [(topic, message.payload)] else [] := by
  cases used with
  | none => rfl
  | some here =>
    show (packetsOn connection [⟨here, .publish topic message.payload, _⟩]).filterMap _ = _
    simp only [packetsOn_message_cons, Option.some.injEq]
    split <;> rfl

/-- **What a call sends**: its publishes are its messages, on the connection they are meant for. -/
theorem packets_meant (connection : Nat) (v : View) (place : Option Nat × Nat) (id : String)
    (call : Call Up St) :
    (packetsOn connection (script place.1 place.2
        (v.events protobuf paho id call : List (Event Dn)))).filterMap Packet.message =
      (v.messagesOn paho connection place id call).map (GatewayMessage.wire protobuf) := by
  obtain ⟨used, next⟩ := place
  unfold View.messagesOn
  cases call with
  | connect host port key o =>
    simp only [View.events, Call.line, Option.some.injEq]
    by_cases network : o.network = SUCCESS
    · by_cases mqtt : v.mqttRc paho o = SUCCESS
      · have announced : v.messages paho id (.connect host port key o : Call Up St) =
          [(.connect ⟨id, key⟩, paho.publishRc true o.publish)] := if_pos ⟨network, mqtt⟩
        rw [announced, View.connectEvents_accepted protobuf paho network mqtt,
          script_networkConnect host port network]
        show (packetsOn connection [⟨next, .connect, _⟩, ⟨next, .publish connectTopic _, _⟩,
          ⟨next, .subscribe (downTopic id), _⟩]).filterMap Packet.message = _
        simp only [packetsOn_message_cons]
        split <;> rfl
      · have silent : v.messages paho id (.connect host port key o : Call Up St) = [] :=
          if_neg fun both => mqtt both.2
        rw [silent, View.connectEvents_unaccepted protobuf paho network mqtt,
          script_networkConnect host port network]
        show (packetsOn connection [⟨next, .connect, _⟩]).filterMap Packet.message = _
        rw [packetsOn_message_cons]
        split <;> rfl
    · have silent : v.messages paho id (.connect host port key o : Call Up St) = [] :=
        if_neg fun both => network both.1
      rw [silent, View.connectEvents_refused protobuf paho network, script_refused]
      split <;> rfl
  | disconnect o =>
    cases used with
    | none => rfl
    | some here =>
      show (packetsOn connection [⟨here, .publish disconnectTopic _, _⟩, ⟨here, .disconnect, _⟩,
        ⟨here, .close, _⟩]).filterMap Packet.message = _
      simp only [packetsOn_message_cons, Call.line, Option.some.injEq]
      split <;> rfl
  | sendUplink uplink o =>
    rw [View.events, packetsOn_published]
    show _ = (if used = some connection then _ else _ : List _).map _
    split <;> rfl
  | sendStatus status o =>
    rw [View.events, packetsOn_published]
    show _ = (if used = some connection then _ else _ : List _).map _
    split <;> rfl

/-- Where a session is. -/
def State.place (s : State Dn) : Option Nat × Nat := (s.session.network, s.sockets.next)

section Call

variable {protobuf paho} {s s' : State Dn} {rc : Int}

/-- **The connection after a call**, and the number of the next. -/
theorem call_place (intact : Intact id s) (call : Call Up St)
    (returned : (call.exec protobuf paho).run s = .ok (rc, s')) : s'.place = call.place s.place := by
  cases call with
  | connect host port key o =>
    obtain ⟨sockets, network⟩ := connect_sockets protobuf paho host port key o
      (connect_returned protobuf paho host port key o intact returned)
    show (s'.session.network, s'.sockets.next) = if o.network = SUCCESS then _ else _
    rw [sockets, network]
    split <;> rfl
  | disconnect o =>
    obtain ⟨_, _, rfl⟩ := disconnect_returned protobuf paho intact returned
    obtain ⟨network, next⟩ := departed_connection (s := s) protobuf paho id o
    show ((s.departed protobuf paho id o).session.network,
      (s.departed protobuf paho id o).sockets.next) = (none, s.sockets.next)
    rw [network, next]
  | sendUplink uplink o =>
    rcases send_returned paho intact returned with ⟨_, _, rfl⟩ | ⟨_, _, _, rfl⟩
    · rfl
    · rfl
  | sendStatus status o =>
    rcases send_returned paho intact returned with ⟨_, _, rfl⟩ | ⟨_, _, _, rfl⟩
    · rfl
    · rfl

end Call

/-! ### What the router receives -/

def Notice.message (notice : Notice) : String × Bytes := (notice.topic, notice.payload)

/-- The parties, with what the router has received and the calls that the gateway has begun. -/
structure Observed (Up St Dn : Type) where
  world : World Dn
  received : List Notice
  calls : List (Call Up St)

def Observed.start (s : State Dn) : Observed Up St Dn := ⟨.start s, [], []⟩

/-- What is observed of a step that leaves `w'`. -/
def Turn.observe (o : Observed Up St Dn) (w' : World Dn) : Turn Up St → Observed Up St Dn
  | .receive => ⟨w', o.received ++ o.world.toRouter.head?.toList, o.calls⟩
  | .call made =>
    ⟨w', o.received, if o.world.pending = [] ∧ o.world.Answered then o.calls ++ [made] else o.calls⟩
  | _ => ⟨w', o.received, o.calls⟩

/-- A step of the parties, observed. -/
def Turn.watched (id : String) (turn : Turn Up St) : Exec Fault (Observed Up St Dn) Unit :=
  Exec.within Observed.world (fun o _ w' => turn.observe o w') (turn.exec protobuf paho id)

/-- **From the calls to the router on one connection**: the messages that the calls have for it, and
what the router has received on it, is about to receive, or what is still on its way to the broker. -/
def toRouterOn (id : String) (connection : Nat) : Channel (Observed Up St Dn) (String × Bytes) where
  offered o := (View.fresh.meantFor paho connection (none, 0) id o.calls).map
    (GatewayMessage.wire protobuf)
  carried o := ((o.received ++ o.world.toRouter).filter fun notice =>
      notice.connection = connection).map Notice.message ++
    (o.world.ahead connection).filterMap Packet.message

/-- The step does not lose a message on its way to the router: the packet of a publish leaves, and is
read while the session is on its connection. -/
def Delivers (connection : Nat) (o : Observed Up St Dn) : Turn Up St → Prop
  | .issue sent => o.world.Answered → ∀ operation ∈ o.world.pending.head?,
    operation.connection = connection → operation.packet.message ≠ none →
      (operation.answered || sent) = true
  | .readGateway read => read = connection → ∀ packet ∈ (o.world.links read).head?,
    packet.message ≠ none → o.world.On read
  | _ => True

/-- The allocations of a call that begins are served. -/
def Turn.Served : Turn Up St → Prop
  | .call made => made.Served
  | _ => True

/-- What every step keeps: the view of the gateway and its connections are those that the calls begun
lead to. -/
structure Tracked (id : String) (o : Observed Up St Dn) : Prop where
  intact : Intact id o.world.gateway
  view : o.world.gateway.view = View.fresh.after paho o.calls
  place : o.world.gateway.place = o.calls.foldl Call.place (none, 0)

/-! ### The way to the router -/

section Uplinks

variable {protobuf paho} {o o' : Observed Up St Dn} {w' : World Dn} {connection : Nat}

/-- A step that begins no call, and leaves what was received or is about to be and what is ahead. -/
theorem toRouterOn_keeps (calls : o'.calls = o.calls)
    (router : o'.received ++ o'.world.toRouter = o.received ++ o.world.toRouter)
    (ahead : o'.world.ahead connection = o.world.ahead connection) :
    (toRouterOn protobuf paho id connection).Keeps o o' := by
  refine .of_eq ?_ ?_
  · show List.map _ (View.meantFor paho connection _ _ id o'.calls) = _
    rw [calls]
    rfl
  · show ((o'.received ++ o'.world.toRouter).filter _).map _ ++ _ = _
    rw [router, ahead]
    rfl

/-- A call puts in the messages it has for the connection. -/
theorem begin_keeps {rc : Int} {s' : State Dn} {made : Call Up St} (tracked : Tracked paho id o)
    (idle : o.world.pending = []) (refines : Refines protobuf paho o.world.gateway id made rc s') :
    (toRouterOn protobuf paho id connection).Keeps o
      ⟨o.world.begin rc s' made, o.received, o.calls ++ [made]⟩ := by
  let new := (View.messagesOn paho connection o.world.gateway.view o.world.gateway.place id
    made).map (GatewayMessage.wire protobuf)
  have meant : (toRouterOn protobuf paho id connection).offered
      ⟨o.world.begin rc s' made, o.received, o.calls ++ [made]⟩ =
        (toRouterOn protobuf paho id connection).offered o ++ new := by
    show (View.meantFor paho connection View.fresh (none, 0) id (o.calls ++ [made])).map _ = _
    rw [meantFor_append, ← tracked.view, ← tracked.place, List.map_append]
    rfl
  have sent : (packetsOn connection (o.world.begin rc s' made).pending).filterMap Packet.message =
      new := by
    show (packetsOn connection (script o.world.gateway.place.1 o.world.gateway.place.2
      (newEvents o.world.gateway s'))).filterMap _ = _
    rw [newEvents_append refines.log]
    exact packets_meant protobuf paho connection _ _ id made
  have ahead : (o.world.ahead connection).filterMap Packet.message =
      (o.world.links connection).filterMap Packet.message := by
    unfold World.ahead
    rw [idle]
    simp [packetsOn]
  refine ⟨new, meant, ?_⟩
  show _ ++ (o.world.links connection ++ packetsOn connection
    (o.world.begin rc s' made).pending).filterMap Packet.message = (_ ++ _) ++ new
  rw [List.filterMap_append, sent, ahead, List.append_assoc]
  rfl

/-- All that issuing an operation can do to what is ahead. -/
inductive Issued (w : World Dn) (sent : Bool) : World Dn → Prop
  | idle (waits : w.pending = [] ∨ ¬ w.Answered) : Issued w sent w
  | leaves {w' : World Dn} {operation : Operation} {rest : List Operation}
    (pending : w.pending = operation :: rest) (leaves : (operation.answered || sent) = true)
    (router : w'.toRouter = w.toRouter)
    (ahead : ∀ connection, w'.ahead connection = w.ahead connection) : Issued w sent w'
  | stays {w' : World Dn} {operation : Operation} {rest : List Operation}
    (pending : w.pending = operation :: rest) (answered : w.Answered)
    (stays : ¬ (operation.answered || sent) = true) (router : w'.toRouter = w.toRouter)
    (ahead : ∀ connection, w'.ahead connection =
      w.links connection ++ packetsOn connection rest) : Issued w sent w'

theorem issue_issued (w : World Dn) (sent : Bool) : Issued w sent (w.issue sent) := by
  unfold World.issue
  split
  next pending => exact .idle (Or.inl pending)
  next operation rest pending =>
    by_cases answered : w.Answered
    · rw [if_pos answered]
      by_cases leaves : (operation.answered || sent) = true
      · rw [if_pos leaves]
        exact .leaves pending leaves rfl (Ordered.ahead_sent pending _)
      · rw [if_neg leaves]
        exact .stays pending answered leaves rfl fun _ => rfl
    · rw [if_neg answered]
      exact .idle (Or.inr answered)

/-- The packet of an operation is taken away: it is lost if it is a publish. -/
theorem taken_passes {w : World Dn} {received : List Notice} {calls : List (Call Up St)}
    {operation : Operation} {rest : List Operation} (pending : w.pending = operation :: rest)
    (router : w'.toRouter = w.toRouter)
    (ahead : ∀ connection, w'.ahead connection = w.links connection ++ packetsOn connection rest) :
    ((operation.connection = connection → operation.packet.message = none) →
      (toRouterOn protobuf paho id connection).Keeps ⟨w, received, calls⟩ ⟨w', received, calls⟩) ∧
    (¬ (operation.connection = connection → operation.packet.message = none) →
      (toRouterOn protobuf paho id connection).Loses ⟨w, received, calls⟩ ⟨w', received, calls⟩) := by
  have offered : (toRouterOn protobuf paho id connection).offered ⟨w', received, calls⟩ =
      (toRouterOn protobuf paho id connection).offered ⟨w, received, calls⟩ := rfl
  let front := ((received ++ w.toRouter).filter fun notice => notice.connection = connection).map
    Notice.message ++ (w.links connection).filterMap Packet.message
  have held : (toRouterOn protobuf paho id connection).carried ⟨w, received, calls⟩ =
      front ++ (packetsOn connection (operation :: rest)).filterMap Packet.message := by
    show _ ++ (w.links connection ++ packetsOn connection w.pending).filterMap _ = _
    rw [pending, List.filterMap_append, ← List.append_assoc]
  have left : (toRouterOn protobuf paho id connection).carried ⟨w', received, calls⟩ =
      front ++ (packetsOn connection rest).filterMap Packet.message := by
    show ((received ++ w'.toRouter).filter _).map _ ++ (w'.ahead connection).filterMap _ = _
    rw [router, ahead, List.filterMap_append, ← List.append_assoc]
  by_cases same : operation.connection = connection
  · subst same
    rw [packetsOn_cons_self] at held
    obtain ⟨keeps, loses⟩ := Channel.passes_of_taken offered held left
    exact ⟨fun none => keeps (none rfl), fun some => loses fun none => some fun _ => none⟩
  · rw [packetsOn_cons_of_ne same] at held
    exact ⟨fun _ => .of_eq offered (left.trans held.symm),
      fun loses => absurd (fun here => absurd here same) loses⟩

/-- An operation that is issued: its packet leaves, or is lost if it is a publish. -/
theorem issue_passes (w : World Dn) (received : List Notice) (calls : List (Call Up St))
    (sent : Bool) :
    (Delivers connection ⟨w, received, calls⟩ (.issue sent : Turn Up St) →
      (toRouterOn protobuf paho id connection).Keeps ⟨w, received, calls⟩
        ⟨w.issue sent, received, calls⟩) ∧
    (¬ Delivers connection ⟨w, received, calls⟩ (.issue sent : Turn Up St) →
      (toRouterOn protobuf paho id connection).Loses ⟨w, received, calls⟩
        ⟨w.issue sent, received, calls⟩) := by
  have issued := issue_issued w sent
  generalize w.issue sent = w' at issued ⊢
  cases issued with
  | idle waits =>
    refine ⟨fun _ => .of_eq rfl rfl, fun loses => absurd (fun answered operation first => ?_) loses⟩
    rcases waits with none | unanswered
    · have first : operation ∈ w.pending.head? := first
      rw [none] at first
      exact nomatch first
    · exact absurd answered unanswered
  | @leaves _ operation rest pending leaves router ahead =>
    refine ⟨fun _ => toRouterOn_keeps rfl (congrArg _ router) (ahead connection),
      fun loses => absurd (fun _ other first _ _ => ?_) loses⟩
    have first : other ∈ w.pending.head? := first
    rw [pending] at first
    cases first
    exact leaves
  | @stays _ operation rest pending answered stays router ahead =>
    have delivers : Delivers connection ⟨w, received, calls⟩ (.issue sent : Turn Up St) ↔
        (operation.connection = connection → operation.packet.message = none) := by
      show (w.Answered → ∀ operation ∈ w.pending.head?, _) ↔ _
      rw [pending]
      refine ⟨fun all here => ?_, fun none _ other first here brings => ?_⟩
      · by_contra brings
        exact stays (all answered operation rfl here brings)
      · cases first
        exact absurd (none here) brings
    rw [delivers]
    exact taken_passes pending router ahead

/-- What the broker passes on of a packet that it reads. -/
def World.passedOn (w : World Dn) (read : Nat) (packet : Packet) : List Notice :=
  if w.On read then packet.message.toList.map fun message => ⟨read, message.1, message.2⟩ else []

section PassedOn

variable {w : World Dn} {read : Nat} {packet : Packet}

theorem passedOn_messages (on : w.On read) :
    ((w.passedOn read packet).filter fun notice => notice.connection = read).map Notice.message =
      packet.message.toList := by
  unfold World.passedOn
  rw [if_pos on]
  cases packet.message with
  | none => rfl
  | some message => simp [Notice.message]

theorem passedOn_elsewhere (other : connection ≠ read) :
    ((w.passedOn read packet).filter fun notice => notice.connection = connection) = [] := by
  refine List.filter_eq_nil_iff.mpr fun notice member here => other ?_
  have there : notice.connection = read := by
    unfold World.passedOn at member
    split at member
    · obtain ⟨_, _, rfl⟩ := List.mem_map.mp member
      rfl
    · exact absurd member List.not_mem_nil
  exact (of_decide_eq_true here).symm.trans there

end PassedOn

/-- All that reading a packet can do to what is ahead and to what the router is about to receive. -/
inductive Reads (w : World Dn) (read : Nat) : World Dn → Prop
  | nothing (empty : w.links read = []) : Reads w read w
  | packet {w' : World Dn} {packet : Packet} {rest : List Packet}
    (link : w.links read = packet :: rest)
    (router : w'.toRouter = w.toRouter ++ w.passedOn read packet)
    (ahead : ∀ connection, w.ahead connection = if connection = read then
      packet :: w'.ahead connection else w'.ahead connection) : Reads w read w'

theorem readGateway_reads (w : World Dn) (read : Nat) : Reads w read (w.readGateway read) := by
  unfold World.readGateway
  split
  next empty => exact .nothing empty
  next packet rest link =>
    refine .packet link ?_ (Ordered.ahead_read link)
    have on : ({ w with links := Function.update w.links read rest } : World Dn).On read ↔
      w.On read := Iff.rfl
    unfold World.passedOn
    cases packet with
    | publish topic payload =>
      show (if _ then w.toRouter ++ _ else w.toRouter) = _
      simp only [on]
      by_cases here : w.On read
      · rw [if_pos here, if_pos here]
        rfl
      · rw [if_neg here, if_neg here, List.append_nil]
    | connect | subscribe | disconnect | close =>
      show w.toRouter = _
      simp [Packet.message]

/-- **The packet that is read**: it stays in the channel if it comes from elsewhere or is passed on,
and is lost otherwise if it is a publish. -/
theorem packet_passes {w : World Dn} {received : List Notice} {calls : List (Call Up St)}
    {read : Nat} {packet : Packet} (router : w'.toRouter = w.toRouter ++ w.passedOn read packet)
    (ahead : ∀ connection, w.ahead connection = if connection = read then
      packet :: w'.ahead connection else w'.ahead connection) :
    ((read = connection → packet.message ≠ none → w.On read) →
      (toRouterOn protobuf paho id connection).Keeps ⟨w, received, calls⟩ ⟨w', received, calls⟩) ∧
    (¬ (read = connection → packet.message ≠ none → w.On read) →
      (toRouterOn protobuf paho id connection).Loses ⟨w, received, calls⟩ ⟨w', received, calls⟩) := by
  have offered : (toRouterOn protobuf paho id connection).offered ⟨w', received, calls⟩ =
      (toRouterOn protobuf paho id connection).offered ⟨w, received, calls⟩ := rfl
  let heard := ((received ++ w.toRouter).filter fun notice => notice.connection = connection).map
    Notice.message
  have held : (toRouterOn protobuf paho id connection).carried ⟨w, received, calls⟩ =
      heard ++ (w.ahead connection).filterMap Packet.message := rfl
  have left : (toRouterOn protobuf paho id connection).carried ⟨w', received, calls⟩ =
      heard ++ (((w.passedOn read packet).filter fun notice => notice.connection = connection).map
        Notice.message ++ (w'.ahead connection).filterMap Packet.message) := by
    show ((received ++ w'.toRouter).filter _).map _ ++ _ = _
    rw [router, ← List.append_assoc, List.filter_append, List.map_append, List.append_assoc]
  by_cases same : connection = read
  · subst same
    rw [ahead, if_pos rfl] at held
    by_cases on : w.On connection
    · refine ⟨fun _ => .of_eq offered ?_, fun loses => absurd (fun _ _ => on) loses⟩
      rw [left, held, passedOn_messages on, filterMap_message_cons]
    · have none : w.passedOn connection packet = [] := if_neg on
      rw [none] at left
      obtain ⟨keeps, loses⟩ := Channel.passes_of_taken offered held left
      refine ⟨fun delivers => keeps ?_, fun lost => loses fun plain => lost fun _ brings =>
        absurd plain brings⟩
      by_contra brings
      exact on (delivers rfl brings)
  · rw [ahead, if_neg same] at held
    rw [passedOn_elsewhere same] at left
    exact ⟨fun _ => .of_eq offered (left.trans held.symm),
      fun loses => absurd (fun here => absurd here.symm same) loses⟩

/-- A step of the broker that reads a packet. -/
theorem read_passes (w : World Dn) (received : List Notice) (calls : List (Call Up St)) (read : Nat) :
    (Delivers connection ⟨w, received, calls⟩ (.readGateway read : Turn Up St) →
      (toRouterOn protobuf paho id connection).Keeps ⟨w, received, calls⟩
        ⟨w.readGateway read, received, calls⟩) ∧
    (¬ Delivers connection ⟨w, received, calls⟩ (.readGateway read : Turn Up St) →
      (toRouterOn protobuf paho id connection).Loses ⟨w, received, calls⟩
        ⟨w.readGateway read, received, calls⟩) := by
  have reads := readGateway_reads w read
  generalize w.readGateway read = w' at reads ⊢
  cases reads with
  | nothing empty =>
    refine ⟨fun _ => .of_eq rfl rfl, fun loses => absurd (fun _ packet first => ?_) loses⟩
    have first : packet ∈ (w.links read).head? := first
    rw [empty] at first
    exact nomatch first
  | @packet _ packet rest link router ahead =>
    have delivers : Delivers connection ⟨w, received, calls⟩
        (.readGateway read : Turn Up St) ↔
          (read = connection → packet.message ≠ none → w.On read) := by
      show (_ → ∀ packet ∈ (w.links read).head?, _) ↔ _
      rw [link]
      simp
    rw [delivers]
    exact packet_passes router ahead

end Uplinks

/-! ### Every step -/

section Steps

variable {protobuf paho} {o o' : Observed Up St Dn}

theorem issue_gateway (w : World Dn) (sent : Bool) : (w.issue sent).gateway = w.gateway := by
  unfold World.issue
  split
  · rfl
  · split <;> rfl

theorem readGateway_gateway (w : World Dn) (read : Nat) :
    (w.readGateway read).gateway = w.gateway := by
  unfold World.readGateway
  split <;> rfl

theorem receive_fields (w : World Dn) :
    w.receive.gateway = w.gateway ∧ w.toRouter = w.toRouter.head?.toList ++ w.receive.toRouter ∧
      ∀ connection, w.receive.ahead connection = w.ahead connection := by
  unfold World.receive
  split
  next none => exact ⟨rfl, by simp [none], fun _ => rfl⟩
  next notice rest waiting => exact ⟨rfl, by simp [waiting], fun _ => rfl⟩

theorem readRouter_fields (w : World Dn) (id : String) :
    (w.readRouter id).gateway = w.gateway ∧ (w.readRouter id).toRouter = w.toRouter ∧
      ∀ connection, (w.readRouter id).ahead connection = w.ahead connection := by
  unfold World.readRouter
  split <;> exact ⟨rfl, rfl, fun _ => rfl⟩

/-- A step that begins no call keeps track. -/
theorem Tracked.frame (tracked : Tracked paho id o) (calls : o'.calls = o.calls)
    (gateway : o'.world.gateway = o.world.gateway) : Tracked paho id o' := by
  refine ⟨?_, ?_, ?_⟩
  · rw [gateway]
    exact tracked.intact
  · rw [gateway, calls]
    exact tracked.view
  · rw [gateway, calls]
    exact tracked.place

/-- A call that begins keeps track. -/
theorem Tracked.begun {made : Call Up St} {rc : Int} {s' : State Dn} (tracked : Tracked paho id o)
    (returned : (made.exec protobuf paho).run o.world.gateway = .ok (rc, s'))
    (refines : Refines protobuf paho o.world.gateway id made rc s') :
    Tracked paho id ⟨o.world.begin rc s' made, o.received, o.calls ++ [made]⟩ where
  intact := refines.intact
  view := by
    show s'.view = View.fresh.after paho (o.calls ++ [made])
    rw [View.after_append, ← tracked.view, refines.view]
    rfl
  place := by
    show s'.place = (o.calls ++ [made]).foldl Call.place (none, 0)
    rw [List.foldl_append, ← tracked.place]
    exact call_place tracked.intact made returned

variable (protobuf) in
/-- A call waits, or begins as the machine of views does it. -/
theorem watched_call (tracked : Tracked paho id o) {made : Call Up St} (served : made.Served) :
    ∃ o', (Turn.watched protobuf paho id (.call made)).run o = .ok ((), o') ∧ (o' = o ∨
      o.world.pending = [] ∧ ∃ rc s',
        (made.exec protobuf paho).run o.world.gateway = .ok (rc, s') ∧
        Refines protobuf paho o.world.gateway id made rc s' ∧
        o' = ⟨o.world.begin rc s' made, o.received, o.calls ++ [made]⟩) := by
  by_cases free : o.world.pending = [] ∧ o.world.Answered
  · obtain ⟨rc, s', returned, refines⟩ := exec_served protobuf paho tracked.intact made served
    refine ⟨_, Exec.within_ok _ _ (turn_call_run free returned),
      Or.inr ⟨free.1, rc, s', returned, refines, ?_⟩⟩
    show (⟨_, _, if _ then _ else _⟩ : Observed Up St Dn) = _
    rw [if_pos free]
  · have waits : (Turn.exec protobuf paho id (.call made)).run o.world = .ok ((), o.world) :=
      if_neg free
    refine ⟨_, Exec.within_ok _ _ waits, Or.inl ?_⟩
    show (⟨_, _, if _ then _ else _⟩ : Observed Up St Dn) = _
    rw [if_neg free]

/-- **One step**: it returns, keeps track, and loses a message on a connection exactly if it does not
deliver. -/
theorem watched_step (tracked : Tracked paho id o) (turn : Turn Up St) (served : turn.Served) :
    ∃ o', (turn.watched protobuf paho id).run o = .ok ((), o') ∧ Tracked paho id o' ∧
      ∀ connection,
        (Delivers connection o turn → (toRouterOn protobuf paho id connection).Keeps o o') ∧
        (¬ Delivers connection o turn → (toRouterOn protobuf paho id connection).Loses o o') := by
  cases turn with
  | call made =>
    obtain ⟨o', returned, same | ⟨idle, rc, s', made, refines, rfl⟩⟩ :=
      watched_call protobuf tracked served
    · subst same
      exact ⟨o', returned, tracked, fun connection =>
        ⟨fun _ => .of_eq rfl rfl, fun loses => absurd trivial loses⟩⟩
    · exact ⟨_, returned, tracked.begun made refines, fun connection =>
        ⟨fun _ => begin_keeps tracked idle refines, fun loses => absurd trivial loses⟩⟩
  | issue sent =>
    exact ⟨_, Exec.within_ok _ _ rfl, tracked.frame rfl (issue_gateway o.world sent),
      fun connection => issue_passes o.world o.received o.calls sent⟩
  | readGateway read =>
    exact ⟨_, Exec.within_ok _ _ rfl, tracked.frame rfl (readGateway_gateway o.world read),
      fun connection => read_passes o.world o.received o.calls read⟩
  | readRouter =>
    obtain ⟨gateway, router, ahead⟩ := readRouter_fields o.world id
    refine ⟨_, Exec.within_ok _ _ rfl, tracked.frame rfl gateway, fun connection =>
      ⟨fun _ => toRouterOn_keeps rfl ?_ (ahead connection), fun loses => absurd trivial loses⟩⟩
    show o.received ++ (o.world.readRouter id).toRouter = _
    rw [router]
  | receive =>
    obtain ⟨gateway, router, ahead⟩ := receive_fields o.world
    refine ⟨_, Exec.within_ok _ _ rfl, tracked.frame rfl gateway, fun connection =>
      ⟨fun _ => toRouterOn_keeps rfl ?_ (ahead connection), fun loses => absurd trivial loses⟩⟩
    show (o.received ++ o.world.toRouter.head?.toList) ++ o.world.receive.toRouter = _
    rw [List.append_assoc, ← router]
  | lose | publish payload =>
    exact ⟨_, Exec.within_ok _ _ rfl, tracked.frame rfl rfl, fun connection =>
      ⟨fun _ => .of_eq rfl rfl, fun loses => absurd trivial loses⟩⟩

end Steps

/-! ### Every interleaving -/

theorem start_tracked (id : String) (downlinkHandler : Option Nat) (cbArg : Nat) :
    Tracked paho id (.start (State.created id downlinkHandler cbArg) : Observed Up St Dn) :=
  ⟨created_intact id downlinkHandler cbArg, rfl, rfl⟩

/-- The broker reads a CONNECT, loses the session, and reads the announcement. -/
def announcedTooLate : List (Turn Bytes Bytes) :=
  [.issue true, .readGateway 0, .lose, .issue true, .readGateway 0, .receive]

end GatewayConnector
