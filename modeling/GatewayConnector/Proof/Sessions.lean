/-
**The sessions of a process do not share memory.**

`Separate` is the invariant of a process: a variable that holds a session holds an intact one, a
variable without a session names no block, and no two variables name the same block. A step on one
variable keeps it if that variable holds what it should afterwards and the step leaves every block
that is not its own (`Separate.store`).

* `call_separate` — a call of the API on one of the sessions.
* `request_returned` — all that a request can do to a process.
* `request_separate`, `requests_separate` — one request and every run of requests.
-/

import GatewayConnector.Model.Process
import GatewayConnector.Proof.Apart
import GatewayConnector.Proof.Refinement

namespace GatewayConnector

open Lib

variable {Up St Dn : Type} (protobuf : Protobuf Up St Dn) (paho : Paho) {p p' : Process Dn}

/-! ### Storing what a call left -/

@[simp] theorem slots_store_self (p : Process Dn) (session : Nat) (slot : Slot) (s : State Dn) :
    (p.store session slot s).slots session = slot := Function.update_self ..

theorem slots_store_of_ne {session other : Nat} (slot : Slot) (s : State Dn)
    (different : other ≠ session) :
    (p.store session slot s).slots other = p.slots other := Function.update_of_ne different ..

/-- A variable that takes over the handle and the session of a state holds that state. -/
theorem state_store_self (p : Process Dn) (session : Nat) (id : Option String) (s : State Dn) :
    (p.store session ⟨id, s.handle, s.session⟩ s).state session = s := by
  unfold Process.state
  rw [slots_store_self]
  rfl

theorem at_store_of_ne {session other : Nat} (slot : Slot) (s : State Dn)
    (different : other ≠ session) (field : Field) :
    ((p.store session slot s).state other).at field = (p.state other).at field := by
  have same : (p.store session slot s).slots other = p.slots other :=
    slots_store_of_ne slot s different
  cases field <;> unfold State.at Process.state <;> rw [same]

/-- A variable that is left without a session names no block. -/
theorem vacant_empty (p : Process Dn) (session : Nat) (s : State Dn) (field : Field)
    (number : Nat) : ((p.store session .vacant s).state session).at field ≠ .block number := by
  unfold Process.state
  rw [slots_store_self]
  cases field <;> exact Ptr.noConfusion

/-- What a call stored in a variable is gone when the variable is vacated. -/
theorem vacate_store (p : Process Dn) (session : Nat) (slot : Slot) (s : State Dn) :
    (p.store session slot s).vacate session = p.store session .vacant s := by
  unfold Process.vacate Process.store
  rw [Function.update_idem]

/-! ### The invariant -/

/-- A variable holds an intact session, or it has none and names no block. -/
def Process.Holds (p : Process Dn) (session : Nat) : Prop :=
  (∃ id, (p.slots session).id = some id ∧ Intact id (p.state session)) ∨
    ((p.slots session).id = none ∧ ∀ field number, (p.state session).at field ≠ .block number)

/-- **The invariant of a process.** -/
structure Separate (p : Process Dn) : Prop where
  holds : ∀ session, p.Holds session
  disjoint : ∀ first second, first ≠ second → ∀ field number,
    (p.state first).at field = .block number → ∀ other, (p.state second).at other ≠ .block number

theorem Process.Holds.intact {session : Nat} {id : String} (holds : p.Holds session)
    (known : (p.slots session).id = some id) : Intact id (p.state session) := by
  rcases holds with ⟨other, found, intact⟩ | ⟨vacant, _⟩
  · rw [known] at found
    cases found
    exact intact
  · rw [known] at vacant
    cases vacant

/-- What a variable names is live. -/
theorem Process.Holds.live {session : Nat} (holds : p.Holds session) {field : Field} {number : Nat}
    (named : (p.state session).at field = .block number) : p.heap.Live number := by
  rcases holds with ⟨_, _, intact⟩ | ⟨_, empty⟩
  · exact intact.live named
  · exact absurd named (empty field number)

theorem boot_separate : Separate (Process.boot : Process Dn) where
  holds session := by
    refine Or.inr ⟨rfl, fun field number named => ?_⟩
    cases field <;> cases named
  disjoint first second _ field number named := by
    cases field <;> cases named

namespace Separate

/-- What one variable names is not another's. -/
theorem foreign (separate : Separate p) {session other : Nat} (different : other ≠ session)
    {field : Field} {number : Nat} (named : (p.state other).at field = .block number) :
    ∃ contents, p.heap.cell number = some contents ∧ Apart number contents (p.state session) := by
  obtain ⟨contents, found⟩ := Option.ne_none_iff_exists'.mp ((separate.holds other).live named)
  exact ⟨contents, found, found, separate.disjoint other session different field number named⟩

/-- **A step on one variable.** -/
theorem store (separate : Separate p) {session : Nat} {slot : Slot} {s : State Dn}
    (here : (p.store session slot s).Holds session)
    (others : ∀ number contents, Apart number contents (p.state session) →
      Apart number contents ((p.store session slot s).state session)) :
    Separate (p.store session slot s) where
  holds other := by
    by_cases same : other = session
    · rw [same]
      exact here
    · have fields := at_store_of_ne (p := p) slot s same
      have unchanged := slots_store_of_ne (p := p) slot s same
      rcases separate.holds other with ⟨id, known, intact⟩ | ⟨vacant, empty⟩
      · refine Or.inl ⟨id, unchanged ▸ known, intact.frame fields fun field number named => ?_⟩
        obtain ⟨contents, found, apart⟩ := separate.foreign same named
        exact (others number contents apart).cell.trans found.symm
      · refine Or.inr ⟨unchanged ▸ vacant, fun field number => ?_⟩
        rw [fields]
        exact empty field number
  disjoint first second different field number named other := by
    by_cases isFirst : first = session
    · subst isFirst
      -- the second variable is another, and a block of it is not named by the first
      have elsewhere : second ≠ first := Ne.symm different
      rw [at_store_of_ne slot s elsewhere]
      intro also
      obtain ⟨contents, _, apart⟩ := separate.foreign elsewhere also
      exact (others number contents apart).unnamed field named
    · rw [at_store_of_ne slot s isFirst] at named
      by_cases isSecond : second = session
      · subst isSecond
        obtain ⟨contents, _, apart⟩ := separate.foreign isFirst named
        exact (others number contents apart).unnamed other
      · rw [at_store_of_ne slot s isSecond]
        exact separate.disjoint first second different field number named other

end Separate

/-! ### One call -/

/-- A function on an intact session runs on its state. -/
theorem onSession_run {α : Type} {session : Nat} {id : String} {function : Code Dn α} {a : α}
    {s : State Dn} (intact : Intact id (p.state session))
    (returned : function.run (p.state session) = .ok (a, s)) :
    (onSession session function).run p =
      .ok (a, p.store session ((p.slots session).keep s) s) := by
  obtain ⟨number, contents, held, found, _⟩ := intact.required .handle fun optional => optional
  have named : (p.state session).handle = .block number := held
  refine Exec.focus_ok (fun p : Process Dn => p.state session) _ ?_
  rw [Exec.bind_ok (Exec.run_getState _), named, Exec.bind_ok (deref_block found)]
  exact returned

/-- Inversion: the variable names a block, and the function returned on its state. -/
theorem onSession_returned {α : Type} {session : Nat} {function : Code Dn α} {a : α}
    (returned : (onSession session function).run p = .ok (a, p')) :
    ∃ s, (∃ number, (p.state session).handle = .block number) ∧
      function.run (p.state session) = .ok (a, s) ∧
      p' = p.store session ((p.slots session).keep s) s := by
  obtain ⟨s, ran, after⟩ := Exec.focus_returned _ _ returned
  rw [Exec.bind_ok (Exec.run_getState _)] at ran
  obtain ⟨_, t, followed, rest⟩ := Exec.bind_returned ran
  obtain ⟨⟨number, named, _⟩, unchanged⟩ := deref_returned followed
  rw [unchanged] at rest
  exact ⟨s, ⟨number, named⟩, rest, after⟩

/-- A variable whose handle can be followed holds an intact session. -/
theorem Separate.followed (separate : Separate p) {session number : Nat}
    (named : (p.state session).handle = .block number) :
    ∃ id, (p.slots session).id = some id ∧ Intact id (p.state session) := by
  rcases separate.holds session with found | ⟨_, empty⟩
  · exact found
  · exact absurd named (empty .handle number)

/-- What a call left in its variable keeps the invariant. -/
theorem Separate.called (separate : Separate p) {session : Nat} {id : String}
    (known : (p.slots session).id = some id) (intact : Intact id (p.state session))
    {made : Call Up St} {rc : Int} {s : State Dn}
    (ran : (made.exec protobuf paho).run (p.state session) = .ok (rc, s)) :
    Separate (p.store session ((p.slots session).keep s) s) := by
  have state : (p.store session ((p.slots session).keep s) s).state session = s :=
    state_store_self p session _ s
  refine separate.store (Or.inl ⟨id, ?_, ?_⟩) fun number contents apart => ?_
  · rw [slots_store_self]
    exact known
  · rw [state]
    exact exec_intact protobuf paho intact made ran
  · rw [state]
    exact exec_apart protobuf paho intact apart made ran

/-- **A call on one of the sessions keeps the invariant.** -/
theorem call_separate (separate : Separate p) (session : Nat) (made : Call Up St) {rc : Int}
    (returned : (onSession session (made.exec protobuf paho)).run p = .ok (rc, p')) :
    Separate p' := by
  obtain ⟨s, ⟨number, named⟩, ran, rfl⟩ := onSession_returned returned
  obtain ⟨id, known, intact⟩ := separate.followed named
  exact separate.called protobuf paho known intact ran

/-- A send is a call. -/
theorem send_separate (separate : Separate p) (send : Send Up St) {rc : Int}
    (returned : (send.exec protobuf paho).run p = .ok (rc, p')) : Separate p' := by
  cases send with
  | uplink session message o =>
    exact call_separate protobuf paho separate session (.sendUplink message o) returned
  | status session message o =>
    exact call_separate protobuf paho separate session (.sendStatus message o) returned

/-! ### One request -/

/-- `ttngwc_init` stores a new session in its variable, whatever that held. -/
theorem init_request_run (p : Process Dn) (session : Nat) (id : String)
    (downlinkHandler : Option Nat) (cbArg : Nat) :
    ((.init session id downlinkHandler cbArg : Request Up St).exec protobuf paho).run p =
      .ok (none, p.store session
        ⟨some id, ((p.state session).initialised id downlinkHandler cbArg).handle,
          ((p.state session).initialised id downlinkHandler cbArg).session⟩
        ((p.state session).initialised id downlinkHandler cbArg)) := by
  have begun := Exec.focus_ok (fun p : Process Dn => p.state session)
    (fun p s => p.store session ⟨some id, s.handle, s.session⟩ s)
    (init_run id downlinkHandler cbArg (p.state session))
  unfold Request.exec
  rw [Exec.bind_ok begun]
  rfl

/-- A call whose allocations are served returns, and no variable changes its session. -/
theorem call_request_run {session : Nat} {id : String} (intact : Intact id (p.state session))
    (made : Call Up St) (served : made.Served) :
    ∃ p', ((.call session made : Request Up St).exec protobuf paho).run p =
        .ok (some ((p.state session).view.reply paho made), p') ∧
      ∀ other, (p'.slots other).id = (p.slots other).id := by
  obtain ⟨rc, s, returned, refines⟩ := exec_served protobuf paho intact made served
  refine ⟨p.store session ((p.slots session).keep s) s, ?_, fun other => ?_⟩
  · unfold Request.exec
    rw [Exec.bind_ok (onSession_run intact returned), refines.reply]
    rfl
  · by_cases same : other = session
    · rw [same, slots_store_self]
      rfl
    · rw [slots_store_of_ne _ s same]

/-- More in the log. -/
def Process.logged (p : Process Dn) (events : List (Event Dn)) : Process Dn :=
  { p with log := p.log ++ events }

/-- What the client of a session does about a message. -/
def Process.deliveries (p : Process Dn) (session : Nat) (topic : String) (payload : Bytes) :
    List (Event Dn) :=
  GatewayConnector.deliveries protobuf paho
    ((p.state session).session.client.messageHandlers.map HandlerEntry.text)
    (p.state session).session.downlinkHandler (p.state session).session.cbArg topic payload

/-- A message that arrives changes the log alone. -/
theorem arrival_request_run {session : Nat} {id : String} (intact : Intact id (p.state session))
    (topic : String) (payload : Bytes) :
    ((.arrival session topic payload : Request Up St).exec protobuf paho).run p =
      .ok (none, p.logged (p.deliveries protobuf paho session topic payload)) := by
  have kept : Function.update p.slots session (p.slots session) = p.slots :=
    Function.update_eq_self ..
  unfold Request.exec
  rw [Exec.bind_ok (onSession_run intact (deliver_effect protobuf paho _ topic payload))]
  show Except.ok (none, Process.mk _ _ _ _ (Function.update p.slots session (p.slots session))) = _
  rw [kept]
  rfl

/-- The statements about memory do not read the log. -/
theorem Separate.logged (separate : Separate p) (events : List (Event Dn)) :
    Separate (p.logged events) := by
  have fields (session : Nat) (field : Field) :
      ((p.logged events).state session).at field = (p.state session).at field := by
    cases field <;> rfl
  refine ⟨fun session => ?_, fun first second different field number named other => ?_⟩
  · rcases separate.holds session with ⟨id, known, intact⟩ | ⟨vacant, empty⟩
    · exact Or.inl ⟨id, known, intact.frame (fields session) fun _ _ _ => rfl⟩
    · refine Or.inr ⟨vacant, fun field => ?_⟩
      rw [fields]
      exact empty field
  · rw [fields] at named ⊢
    exact separate.disjoint first second different field number named other

/-- All that a request can do to a process. -/
inductive RequestEnd (p : Process Dn) : Request Up St → Process Dn → Prop
  | init (session : Nat) (id : String) (downlinkHandler : Option Nat) (cbArg : Nat) :
    RequestEnd p (.init session id downlinkHandler cbArg) (p.store session
      ⟨some id, ((p.state session).initialised id downlinkHandler cbArg).handle,
        ((p.state session).initialised id downlinkHandler cbArg).session⟩
      ((p.state session).initialised id downlinkHandler cbArg))
  | call {session : Nat} {id : String} {made : Call Up St} {rc : Int} {s : State Dn}
    (known : (p.slots session).id = some id) (intact : Intact id (p.state session))
    (ran : (made.exec protobuf paho).run (p.state session) = .ok (rc, s)) :
    RequestEnd p (.call session made) (p.store session ((p.slots session).keep s) s)
  | arrival (session : Nat) (topic : String) (payload : Bytes) (events : List (Event Dn)) :
    RequestEnd p (.arrival session topic payload) (p.logged events)
  | cleanup (session : Nat) :
    RequestEnd p (.cleanup session) (p.store session .vacant
      { p.state session with heap := (p.state session).cleanedHeap })

/-- **Inversion of a request.** -/
theorem request_returned (separate : Separate p) (request : Request Up St) {reply : Option Int}
    (returned : (request.exec protobuf paho).run p = .ok (reply, p')) :
    RequestEnd protobuf paho p request p' := by
  cases request with
  | init session id downlinkHandler cbArg =>
    rw [init_request_run] at returned
    cases returned
    exact .init session id downlinkHandler cbArg
  | call session made =>
    obtain ⟨_, t, begun, rest⟩ := Exec.bind_returned returned
    cases rest
    obtain ⟨s, ⟨number, named⟩, ran, rfl⟩ := onSession_returned begun
    obtain ⟨id, known, intact⟩ := separate.followed named
    exact .call known intact ran
  | arrival session topic payload =>
    obtain ⟨_, t, begun, _⟩ := Exec.bind_returned returned
    obtain ⟨_, ⟨number, named⟩, _, _⟩ := onSession_returned begun
    obtain ⟨id, _, intact⟩ := separate.followed named
    rw [arrival_request_run protobuf paho intact] at returned
    cases returned
    exact .arrival session topic payload _
  | cleanup session =>
    obtain ⟨_, t, begun, rest⟩ := Exec.bind_returned returned
    obtain ⟨s, ⟨number, named⟩, ran, rfl⟩ := onSession_returned begun
    obtain ⟨id, _, intact⟩ := separate.followed named
    rw [cleanup_intact intact] at ran
    cases ran
    cases rest
    show RequestEnd protobuf paho p _ (Process.vacate _ session)
    rw [vacate_store]
    exact .cleanup session

/-- **One request keeps the invariant.** -/
theorem request_separate (separate : Separate p) (request : Request Up St) {reply : Option Int}
    (returned : (request.exec protobuf paho).run p = .ok (reply, p')) : Separate p' := by
  cases request_returned protobuf paho separate request returned with
  | init session id downlinkHandler cbArg =>
    have state := state_store_self p session (some id)
      ((p.state session).initialised id downlinkHandler cbArg)
    refine separate.store (Or.inl ⟨id, ?_, ?_⟩) fun number contents apart => ?_
    · rw [slots_store_self]
    · rw [state]
      exact initialised_intact id downlinkHandler cbArg _
    · rw [state]
      exact initialised_apart apart id downlinkHandler cbArg
  | call known intact ran => exact separate.called protobuf paho known intact ran
  | arrival session topic payload events => exact separate.logged events
  | cleanup session =>
    have empty := vacant_empty p session { p.state session with
      heap := (p.state session).cleanedHeap }
    refine separate.store (Or.inr ⟨?_, empty⟩) fun number contents apart =>
      ⟨cleaned_apart apart, fun field => empty field number⟩
    rw [slots_store_self]
    rfl

/-! ### Every run -/

/-- **Every run of requests keeps the invariant.** -/
theorem requests_separate {requests : List (Request Up St)} {replies : List (Option Int)}
    (ran : (runAll (Request.exec protobuf paho) requests).run Process.boot = .ok (replies, p)) :
    Separate p :=
  runAll_invariant
    (fun _ request _ _ separate returned =>
      request_separate protobuf paho separate request returned)
    boot_separate ran

end GatewayConnector
