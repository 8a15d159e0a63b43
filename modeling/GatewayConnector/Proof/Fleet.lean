/-
**The code of a process is the family of `Abstract/Fleet.lean`.**

* `store_fleet` — what a function leaves in one variable, and in no other.
* `request_refines` — one request that is allowed returns and does what the family does.
* `requests_refine` — so does every run of them.
-/

import GatewayConnector.Abstract.Fleet
import GatewayConnector.Proof.Sessions
import GatewayConnector.Properties.Delivery

namespace GatewayConnector

open Lib

variable {Up St Dn : Type} (protobuf : Protobuf Up St Dn) (paho : Paho) {p p' : Process Dn}

/-! ### The member of a session -/

/-- A session without its memory. -/
def State.member (s : State Dn) (id : String) : Member where
  id
  downlinkHandler := s.session.downlinkHandler
  cbArg := s.session.cbArg
  topicFilters := s.session.client.messageHandlers.map HandlerEntry.text
  view := s.view

/-- A member is in the fields of its session, its client and the blocks it names. -/
theorem member_frame {id : String} {s s' : State Dn} (intact : Intact id s)
    (session : s'.session = s.session)
    (cells : ∀ field number, s.at field = .block number →
      s'.heap.cell number = s.heap.cell number) : s'.member id = s.member id := by
  have key : s'.keyText = s.keyText := by
    rcases intact.keyBlock with ⟨empty, text⟩ | ⟨number, text, held, found, known⟩
    · rw [text]
      exact keyText_of_null (session ▸ empty)
    · rw [known]
      exact keyText_of_block (session ▸ held) ((cells .key number held).trans found)
  unfold State.member State.view
  rw [key, session]

/-- A call keeps the callback, and registers what the member registers. -/
theorem exec_registers {id : String} {s s' : State Dn} (intact : Intact id s) (made : Call Up St)
    (served : made.Served) {rc : Int}
    (returned : (made.exec protobuf paho).run s = .ok (rc, s')) :
    s'.session.downlinkHandler = s.session.downlinkHandler ∧ s'.session.cbArg = s.session.cbArg ∧
      s'.session.client.messageHandlers.map HandlerEntry.text =
        s.session.client.messageHandlers.map HandlerEntry.text ++
          (s.member id).registered paho made := by
  cases made with
  | connect host port key o =>
    have refines : Refines protobuf paho s id (.connect host port key o) rc s' :=
      refines_of_returned protobuf paho intact served returned
    obtain ⟨⟨handler, argument⟩, ⟨added, table, length, texts⟩, _⟩ := connect_keeps protobuf paho
      (connect_returned protobuf paho host port key o intact returned)
    refine ⟨handler, argument, ?_⟩
    have reply : rc = s.view.connectReply paho o := refines.reply
    have new : added.map HandlerEntry.text =
        if s.view.connectReply paho o = SUCCESS then [downTopic id] else [] := by
      rw [List.map_eq_replicate_iff.mpr texts, length, reply]
      split
      · rfl
      · rfl
    rw [table, List.map_append, new]
    rfl
  | disconnect o =>
    obtain ⟨_, _, rfl⟩ := disconnect_returned protobuf paho intact returned
    obtain ⟨handler, argument, table⟩ := departed_session (s := s) protobuf paho id o
    refine ⟨handler, argument, ?_⟩
    show (s.departed protobuf paho id o).session.client.messageHandlers.map _ = _ ++ []
    rw [table, List.append_nil]
  | sendUplink uplink o =>
    obtain rfl := send_returned_served paho intact served.1 returned
    exact ⟨rfl, rfl, (List.append_nil _).symm⟩
  | sendStatus status o =>
    obtain rfl := send_returned_served paho intact served.1 returned
    exact ⟨rfl, rfl, (List.append_nil _).symm⟩

/-- **A call moves the member.** -/
theorem exec_member {id : String} {s s' : State Dn} (intact : Intact id s) (made : Call Up St)
    (served : made.Served) {rc : Int}
    (returned : (made.exec protobuf paho).run s = .ok (rc, s')) :
    s'.member id = (s.member id).after paho made := by
  have refines := refines_of_returned protobuf paho intact served returned
  obtain ⟨handler, argument, table⟩ := exec_registers protobuf paho intact made served returned
  unfold State.member Member.after
  rw [handler, argument, table, refines.view]
  rfl

/-! ### The members after a step on one variable -/

/-- The members of a process. -/
def Process.fleet (p : Process Dn) (session : Nat) : Option Member :=
  (p.slots session).id.map (p.state session).member

/-- No variable holds a session. -/
theorem fleet_boot : (Process.boot : Process Dn).fleet = fun _ => none := rfl

/-- **A step on one variable leaves the members of the others.** -/
theorem store_fleet (separate : Separate p) {session : Nat} {slot : Slot} {s : State Dn}
    (others : ∀ number contents, Apart number contents (p.state session) →
      s.heap.cell number = some contents) :
    (p.store session slot s).fleet =
      Function.update p.fleet session ((p.store session slot s).fleet session) := by
  funext other
  by_cases same : other = session
  · rw [same, Function.update_self]
  · have unchanged := slots_store_of_ne (p := p) slot s same
    rw [Function.update_of_ne same]
    unfold Process.fleet
    rw [unchanged]
    rcases separate.holds other with ⟨id, known, intact⟩ | ⟨vacant, _⟩
    · have member : ((p.store session slot s).state other).member id = (p.state other).member id := by
        refine member_frame intact ?_ fun field number named => ?_
        · unfold Process.state
          rw [unchanged]
        · obtain ⟨contents, found, apart⟩ := separate.foreign same named
          exact (others number contents apart).trans found.symm
      rw [known, Option.map_some, Option.map_some, member]
    · rw [vacant]
      rfl

/-- The member of a variable that took over a state. -/
theorem fleet_store_self (p : Process Dn) (session : Nat) (id : Option String) (s : State Dn) :
    (p.store session ⟨id, s.handle, s.session⟩ s).fleet session = id.map s.member := by
  unfold Process.fleet
  rw [state_store_self, slots_store_self]

/-- A member is an intact session. -/
theorem Separate.member (separate : Separate p) {session : Nat} {m : Member}
    (known : p.fleet session = some m) :
    (p.slots session).id = some m.id ∧ Intact m.id (p.state session) ∧
      (p.state session).member m.id = m := by
  unfold Process.fleet at known
  obtain ⟨id, named, rfl⟩ := Option.map_eq_some_iff.mp known
  exact ⟨named, (separate.holds session).intact named, rfl⟩

/-! ### One request -/

/-- What one request does, on the level of members. -/
structure Follows (p : Process Dn) (request : Request Up St) (reply : Option Int)
    (p' : Process Dn) : Prop where
  separate : Separate p'
  fleet : p'.fleet = (fleetMachine protobuf paho).next p.fleet request
  reply : reply = ((fleetMachine protobuf paho).output p.fleet request).1
  log : p'.log = p.log ++ ((fleetMachine protobuf paho).output p.fleet request).2

theorem init_refines (separate : Separate p) (session : Nat) (id : String)
    (downlinkHandler : Option Nat) (cbArg : Nat) :
    ∃ reply p', ((.init session id downlinkHandler cbArg : Request Up St).exec protobuf paho).run p =
        .ok (reply, p') ∧
      Follows protobuf paho p (.init session id downlinkHandler cbArg) reply p' := by
  have returned := init_request_run protobuf paho p session id downlinkHandler cbArg
  refine ⟨_, _, returned, request_separate protobuf paho separate _ returned, ?_, rfl, ?_⟩
  · rw [store_fleet separate fun number contents apart =>
      (initialised_apart apart id downlinkHandler cbArg).cell, fleet_store_self]
    rfl
  · exact (List.append_nil _).symm

theorem call_refines (separate : Separate p) {session : Nat} {m : Member}
    (known : p.fleet session = some m) (made : Call Up St) (served : made.Served) :
    ∃ reply p', ((.call session made : Request Up St).exec protobuf paho).run p = .ok (reply, p') ∧
      Follows protobuf paho p (.call session made) reply p' := by
  obtain ⟨named, intact, member⟩ := separate.member known
  obtain ⟨rc, s, ran, refines⟩ := exec_served protobuf paho intact made served
  have view : (p.state session).view = m.view := congrArg Member.view member
  have output : (fleetMachine protobuf paho).output p.fleet (.call session made) =
      (some (m.view.reply paho made), (m.view.events protobuf paho m.id made : List (Event Dn))) := by
    show (memberMachine protobuf paho).output (p.fleet session) (.call session made) = _
    rw [known]
    rfl
  have returned : ((.call session made : Request Up St).exec protobuf paho).run p =
      .ok (some rc, p.store session ((p.slots session).keep s) s) := by
    unfold Request.exec
    rw [Exec.bind_ok (onSession_run intact ran)]
    rfl
  refine ⟨_, _, returned, request_separate protobuf paho separate _ returned, ?_, ?_, ?_⟩
  · rw [store_fleet separate fun number contents apart =>
      (exec_apart protobuf paho intact apart made ran).cell]
    have here : (p.store session ((p.slots session).keep s) s).fleet session =
        some (m.after paho made) := by
      unfold Slot.keep
      rw [fleet_store_self, named, Option.map_some,
        exec_member protobuf paho intact made served ran, member]
    rw [here]
    show _ = Function.update p.fleet session ((p.fleet session).map _)
    rw [known]
    rfl
  · rw [output, refines.reply, view]
  · rw [output, ← view]
    exact refines.log

theorem arrived_refines (separate : Separate p) {session : Nat} {m : Member}
    (known : p.fleet session = some m) (topic : String) (payload : Bytes) :
    ∃ reply p', ((.arrival session topic payload : Request Up St).exec protobuf paho).run p =
        .ok (reply, p') ∧
      Follows protobuf paho p (.arrival session topic payload) reply p' := by
  obtain ⟨named, intact, member⟩ := separate.member known
  have returned : ((.arrival session topic payload : Request Up St).exec protobuf paho).run p =
      .ok (none, p.logged (p.deliveries protobuf paho session topic payload)) :=
    arrival_request_run protobuf paho intact topic payload
  have output : (fleetMachine protobuf paho).output p.fleet (.arrival session topic payload) =
      (none, p.deliveries protobuf paho session topic payload) := by
    show (memberMachine protobuf paho).output (p.fleet session) (.arrival session topic payload) = _
    rw [known, ← member]
    rfl
  refine ⟨_, _, returned, separate.logged _, ?_, ?_, ?_⟩
  · show p.fleet = Function.update p.fleet session (p.fleet session)
    rw [Function.update_eq_self]
  · rw [output]
  · rw [output]
    rfl

theorem cleanup_refines (separate : Separate p) {session : Nat} {m : Member}
    (known : p.fleet session = some m) :
    ∃ reply p', ((.cleanup session : Request Up St).exec protobuf paho).run p = .ok (reply, p') ∧
      Follows protobuf paho p (.cleanup session) reply p' := by
  obtain ⟨_, intact, _⟩ := separate.member known
  have returned : ((.cleanup session : Request Up St).exec protobuf paho).run p =
      .ok (none, p.store session .vacant
        { p.state session with heap := (p.state session).cleanedHeap }) := by
    unfold Request.exec
    rw [Exec.bind_ok (onSession_run intact (cleanup_intact intact)), ← vacate_store]
    rfl
  refine ⟨_, _, returned, request_separate protobuf paho separate _ returned, ?_, rfl, ?_⟩
  · rw [store_fleet separate fun number contents apart => cleaned_apart apart]
    unfold Process.fleet
    rw [slots_store_self]
    rfl
  · exact (List.append_nil _).symm

/-- **One request.** A request that is allowed returns and does what the family does. -/
theorem request_refines (separate : Separate p) (request : Request Up St)
    (allowed : (fleetMachine protobuf paho).Allows p.fleet request) :
    ∃ reply p', (request.exec protobuf paho).run p = .ok (reply, p') ∧
      Follows protobuf paho p request reply p' := by
  cases request with
  | init session id downlinkHandler cbArg =>
    exact init_refines protobuf paho separate session id downlinkHandler cbArg
  | call session made =>
    obtain ⟨held, served⟩ := allowed
    obtain ⟨m, known⟩ := Option.ne_none_iff_exists'.mp held
    exact call_refines protobuf paho separate known made served
  | arrival session topic payload =>
    obtain ⟨m, known, _⟩ := allowed
    exact arrived_refines protobuf paho separate known topic payload
  | cleanup session =>
    obtain ⟨m, known⟩ := Option.ne_none_iff_exists'.mp allowed
    exact cleanup_refines protobuf paho separate known

/-! ### Every run -/

/-- Make a request; the reply is its return code, and what it asked of the MQTT layer or handed
over. -/
def Request.traced (request : Request Up St) :
    Exec Fault (Process Dn) (Option Int × List (Event Dn)) := do
  let before ← get
  let reply ← request.exec protobuf paho
  let after ← get
  pure (reply, after.log.drop before.log.length)

theorem traced_run {request : Request Up St} {reply : Option Int} {events : List (Event Dn)}
    (returned : (request.exec protobuf paho).run p = .ok (reply, p'))
    (log : p'.log = p.log ++ events) :
    (request.traced protobuf paho).run p = .ok ((reply, events), p') := by
  unfold Request.traced
  rw [Exec.bind_ok (Exec.run_getState p), Exec.bind_ok returned, Exec.bind_ok (Exec.run_getState p'),
    log, List.drop_left]
  rfl

/-- **A run.** Requests that are allowed return one after the other and do what the family does. -/
theorem requests_refine (separate : Separate p) {requests : List (Request Up St)}
    (allowed : (fleetMachine protobuf paho).Along p.fleet requests) :
    ∃ p', (runAll (Request.traced protobuf paho) requests).run p =
        .ok ((fleetMachine protobuf paho).outputs p.fleet requests, p') ∧
      Separate p' ∧ p'.fleet = (fleetMachine protobuf paho).after p.fleet requests ∧
      p'.log = p.log ++ ((fleetMachine protobuf paho).outputs p.fleet requests).flatMap Prod.snd := by
  induction requests generalizing p with
  | nil => exact ⟨p, rfl, separate, rfl, (List.append_nil _).symm⟩
  | cons request rest ih =>
    obtain ⟨here, later⟩ := allowed
    obtain ⟨reply, p', returned, follows⟩ := request_refines protobuf paho separate request here
    rw [← follows.fleet] at later
    obtain ⟨last, ran, kept, fleet, log⟩ := ih follows.separate later
    have first := traced_run protobuf paho returned follows.log
    refine ⟨last, ?_, kept, ?_, ?_⟩
    · rw [runAll_cons _ first ran, follows.fleet, follows.reply]
      rfl
    · rw [fleet, follows.fleet]
      rfl
    · rw [log, follows.log, follows.fleet, List.append_assoc]
      rfl

end GatewayConnector
