/-
**The code is the machine of `Abstract/View.lean`.**

`exec_served`: on an intact session, a call whose allocations are served returns; its return code,
the operations it asks of the MQTT layer and the view it leaves are those of the machine, and the
session is intact again. `run_served` carries this to whole runs, `created_view` starts them.
-/

import GatewayConnector.Abstract.View
import GatewayConnector.Proof.Lifetime
import GatewayConnector.Proof.Returned

namespace GatewayConnector

open Lib

variable {Up St Dn : Type} (protobuf : Protobuf Up St Dn) (paho : Paho) {id : String}
  {s : State Dn}

/-- The view of a state. -/
def State.view (s : State Dn) : View where
  network := s.session.network.isSome
  connected := s.session.client.isconnected
  key := s.keyText
  topic := s.session.downlinkTopic != .null
  handlers := s.session.client.messageHandlers.length

/-! ### The view after each change -/

theorem view_scratch : s.scratch.view = s.view := rfl

theorem view_keyCopied (key : Option String) :
    (s.keyCopied key true).view = { s.view with key := key.or s.view.key } := by
  apply View.ext
  · cases key <;> rfl
  · cases key <;> rfl
  · exact keyText_keyCopied s key
  · cases key <;> rfl
  · cases key <;> rfl

theorem view_networkConnected (host : Option String) (port answer : Int) :
    (s.networkConnected host port answer).view =
      if answer = SUCCESS then { s.view with network := true } else s.view := by
  unfold State.networkConnected
  split <;> rfl

theorem view_mqttConnected (data : ConnectData String Bytes) (rc : Int) :
    (s.mqttConnected data rc).view =
      if rc = SUCCESS then { s.view with connected := true } else s.view := by
  unfold State.mqttConnected
  split <;> rfl

theorem view_released : s.released.view = s.view.released := by
  apply View.ext
  · rfl
  · rfl
  · exact keyText_of_null (s := s.released) rfl
  · rfl
  · rfl

theorem Intact.view_subscribed (intact : Intact id s) (contents : Block) (entry : HandlerEntry) :
    ((s.hold .downlinkTopic contents).subscribed entry SUCCESS).view =
      { s.view with topic := true, handlers := s.view.handlers + 1 } := by
  apply View.ext
  · rfl
  · rfl
  · exact intact.keyText_hold contents
  · rfl
  · exact List.length_append

/-- A topic that was allocated in vain is gone after `exit:`. -/
theorem view_unsubscribed (contents : Block) (entry : HandlerEntry) {rc : Int}
    (failed : rc ≠ SUCCESS) :
    ((s.hold .downlinkTopic contents).subscribed entry rc).view.released = s.view.released := by
  unfold State.subscribed
  rw [if_neg failed]
  rfl

/-! ### The parts of a connect -/

section Connect

variable (host : Option String) (port : Int) (key : Option String) (o : ConnectOutcome)

theorem reached_view (copy : o.keyCopy = true) :
    (s.reached host port key o).view =
      if o.network = SUCCESS then { s.view with network := true, key := key.or s.view.key }
      else { s.view with key := key.or s.view.key } := by
  unfold State.reached
  rw [view_networkConnected, copy, view_keyCopied]

theorem afterMqtt_view (copy : o.keyCopy = true) (network : o.network = SUCCESS) :
    (s.afterMqtt protobuf paho id host port key o).view =
      if s.view.mqttRc paho o = SUCCESS then
        { s.view with network := true, connected := true, key := key.or s.view.key }
      else { s.view with network := true, key := key.or s.view.key } := by
  unfold State.afterMqtt
  rw [view_mqttConnected, view_scratch, reached_view host port key o copy, if_pos network]
  rfl

end Connect

/-! ### One call -/

/-- What one call does, on the level of views. -/
structure Refines (s : State Dn) (id : String) (call : Call Up St) (rc : Int) (s' : State Dn) :
    Prop where
  intact : Intact id s'
  view : s'.view = s.view.next paho call
  reply : rc = s.view.reply paho call
  log : s'.log = s.log ++ s.view.events protobuf paho id call

section Connect

variable {host : Option String} {port : Int} {key : Option String} {o : ConnectOutcome} {rc : Int}
  {s' : State Dn}

theorem afterAnnounce_view (copy : o.keyCopy = true) (network : o.network = SUCCESS)
    (accepted : s.view.mqttRc paho o = SUCCESS) :
    (s.afterAnnounce protobuf paho id host port key o).view =
      { s.view with network := true, connected := true, key := key.or s.view.key } := by
  show (s.afterMqtt protobuf paho id host port key o).view = _
  rw [afterMqtt_view protobuf paho host port key o copy network, if_pos accepted]

/-- However a connect ends, it leaves the view of the machine. -/
theorem ConnectEnd.view (intact : Intact id s) (copy : o.keyCopy = true)
    (ended : ConnectEnd protobuf paho s id host port key o rc s') :
    s'.view = s.view.connect paho key o := by
  cases ended with
  | network refused =>
    rw [View.connect_refused paho refused, view_released, reached_view host port key o copy,
      if_neg refused]
    rfl
  | mqtt network will refused =>
    have unaccepted : s.view.mqttRc paho o ≠ SUCCESS := refused
    rw [View.connect_unaccepted paho network unaccepted, view_released,
      afterMqtt_view protobuf paho host port key o copy network, if_neg unaccepted]
    rfl
  | subscribe network will mqtt announcement topic =>
    have accepted : s.view.mqttRc paho o = SUCCESS := mqtt
    have announced := intact.afterAnnounce protobuf paho host port key o
    have before : (s.afterAnnounce protobuf paho id host port key o).view = _ :=
      afterAnnounce_view protobuf paho copy network accepted
    by_cases subscribed : subscribeRc paho s o = SUCCESS
    · have registered : s.view.subscribeRc paho o = SUCCESS := subscribed
      rw [if_pos subscribed, View.connect_accepted paho network accepted registered]
      unfold State.afterSubscribe
      rw [subscribed, announced.view_subscribed, before]
    · have unregistered : s.view.subscribeRc paho o ≠ SUCCESS := subscribed
      rw [if_neg subscribed, View.connect_unsubscribed paho network accepted unregistered,
        view_released]
      unfold State.afterSubscribe
      rw [view_unsubscribed _ _ subscribed, before]
      rfl

/-- It returns the reply of the machine. -/
theorem ConnectEnd.reply (ended : ConnectEnd protobuf paho s id host port key o rc s') :
    rc = s.view.reply paho (.connect host port key o : Call Up St) := by
  rw [View.reply, View.connectReply]
  cases ended with
  | network refused => rw [if_pos refused]
  | mqtt network will refused =>
    have unaccepted : s.view.mqttRc paho o ≠ SUCCESS := refused
    rw [if_neg (not_not.mpr network), if_pos unaccepted]
    rfl
  | subscribe network will mqtt announcement topic =>
    have accepted : s.view.mqttRc paho o = SUCCESS := mqtt
    rw [if_neg (not_not.mpr network), if_neg (not_not.mpr accepted)]
    rfl

/-- It asks for the operations of the machine. -/
theorem ConnectEnd.events (copy : o.keyCopy = true)
    (ended : ConnectEnd protobuf paho s id host port key o rc s') :
    s'.log = s.log ++ s.view.events protobuf paho id (.connect host port key o : Call Up St) := by
  rw [View.events]
  cases ended with
  | network refused =>
    show (s.reached host port key o).log = _
    rw [reached_log, View.connectEvents_refused protobuf paho refused]
  | mqtt network will refused =>
    have unaccepted : s.view.mqttRc paho o ≠ SUCCESS := refused
    show (s.afterMqtt protobuf paho id host port key o).log = _
    rw [afterMqtt_log, copy, keyText_keyCopied,
      View.connectEvents_unaccepted protobuf paho network unaccepted]
    rfl
  | subscribe network will mqtt announcement topic =>
    have accepted : s.view.mqttRc paho o = SUCCESS := mqtt
    have log : (s.afterSubscribe protobuf paho id host port key o).log =
        s.log ++ s.view.connectEvents protobuf paho id host port key o := by
      rw [afterSubscribe_log, State.operations, copy, keyText_keyCopied,
        View.connectEvents_accepted protobuf paho network accepted]
      rfl
    split
    · exact log
    · exact log

end Connect

theorem connect_refines (intact : Intact id s) (host : Option String) (port : Int)
    (key : Option String) (o : ConnectOutcome)
    (served : (.connect host port key o : Call Up St).Served) :
    ∃ rc s', (ttngwcConnect protobuf paho host port key o).run s = .ok (rc, s') ∧
      Refines protobuf paho s id (.connect host port key o) rc s' := by
  obtain ⟨copy, will, announcement, topic⟩ := served
  obtain ⟨rc, s', returned⟩ := (connect_returns_iff protobuf paho host port key o intact).mpr
    fun _ => ⟨will, fun _ => ⟨announcement, topic⟩⟩
  have ended := connect_returned protobuf paho host port key o intact returned
  exact ⟨rc, s', returned, ended.intact protobuf paho host port key o intact,
    ended.view protobuf paho intact copy, ended.reply, ended.events protobuf paho copy⟩

theorem view_departed (o : DisconnectOutcome) :
    (((s.departed protobuf paho id o).drop .key).drop .downlinkTopic).view =
      { View.fresh with handlers := s.view.handlers } := by
  apply View.ext
  · show Option.isSome (State.closeSocket _).session.network = false
    rw [closeSocket_network]
    rfl
  · show (State.closeSocket _).session.client.isconnected = false
    rw [closeSocket_client]
    rfl
  · exact keyText_of_null (s := ((s.departed protobuf paho id o).drop .key).drop .downlinkTopic) rfl
  · rfl
  · show (State.closeSocket _).session.client.messageHandlers.length = _
    rw [closeSocket_client]
    rfl

theorem disconnect_refines (intact : Intact id s) (o : DisconnectOutcome)
    (served : (.disconnect o : Call Up St).Served) :
    ∃ rc s', (ttngwcDisconnect protobuf paho o).run s = .ok (rc, s') ∧
      Refines protobuf paho s id (.disconnect o) rc s' :=
  ⟨_, _, disconnect_served protobuf paho o intact served,
    ((intact.departed protobuf paho o).drop .key trivial).drop .downlinkTopic trivial,
    view_departed protobuf paho o, rfl, departed_log protobuf paho id o⟩

/-- **One call.** On an intact session a call whose allocations are served returns, and does what
the machine does. -/
theorem exec_served (intact : Intact id s) (call : Call Up St) (served : call.Served) :
    ∃ rc s', (call.exec protobuf paho).run s = .ok (rc, s') ∧
      Refines protobuf paho s id call rc s' := by
  cases call with
  | connect host port key o => exact connect_refines protobuf paho intact host port key o served
  | disconnect o => exact disconnect_refines protobuf paho intact o served
  | sendUplink uplink o =>
    exact ⟨_, _, send_served paho protobuf.uplinkMessage upTopic QOS_UP uplink o intact served.1
      served.2, intact.sent _ _ _, rfl, rfl, rfl⟩
  | sendStatus status o =>
    exact ⟨_, _, send_served paho protobuf.status statusTopic QOS_STATUS status o intact served.1
      served.2, intact.sent _ _ _, rfl, rfl, rfl⟩

/-- The same, for a call that is known to have returned. -/
theorem refines_of_returned (intact : Intact id s) {call : Call Up St} (served : call.Served)
    {rc : Int} {s' : State Dn} (returned : (call.exec protobuf paho).run s = .ok (rc, s')) :
    Refines protobuf paho s id call rc s' := by
  obtain ⟨rc', s'', again, refines⟩ := exec_served protobuf paho intact call served
  rw [returned] at again
  cases again
  exact refines

/-! ### Whole runs -/

/-- What a run does, on the level of views. -/
structure RunRefines (s : State Dn) (id : String) (calls : List (Call Up St)) (rcs : List Int)
    (s' : State Dn) : Prop where
  intact : Intact id s'
  view : s'.view = s.view.after paho calls
  replies : rcs = s.view.replies paho calls
  log : s'.log = s.log ++ s.view.trace protobuf paho id calls

/-- **A run.** Calls whose allocations are served return one after the other and do what the
machine does. -/
theorem run_served (intact : Intact id s) (calls : List (Call Up St))
    (served : ∀ call ∈ calls, call.Served) :
    ∃ rcs s', (runCalls protobuf paho calls).run s = .ok (rcs, s') ∧
      RunRefines protobuf paho s id calls rcs s' := by
  induction calls generalizing s with
  | nil => exact ⟨[], s, rfl, intact, rfl, rfl, (List.append_nil _).symm⟩
  | cons call rest ih =>
    obtain ⟨rc, s', returned, one⟩ :=
      exec_served protobuf paho intact call (served call List.mem_cons_self)
    obtain ⟨rcs, s'', ran, more⟩ :=
      ih one.intact fun other member => served other (List.mem_cons_of_mem _ member)
    refine ⟨rc :: rcs, s'', runAll_cons _ returned ran, more.intact, ?_, ?_, ?_⟩
    · rw [more.view, one.view]
      rfl
    · rw [more.replies, one.reply, one.view]
      rfl
    · rw [more.log, one.log, one.view, List.append_assoc]
      rfl

/-- **The exact condition of a run, on the level of views.** Where an invariant decides from the
view whether a call satisfies `Q`, and an allowed call keeps the invariant, a run satisfies `Q`
throughout exactly when all of its calls are made in views that allow them. -/
theorem throughout_iff_view {J : State Dn → Prop} {Q : State Dn → Call Up St → Int → State Dn → Prop}
    {allowed : View → Call Up St → Prop}
    (exact_call : ∀ s call rc s', Intact id s → J s → call.Served →
      (call.exec protobuf paho).run s = .ok (rc, s') →
      (Q s call rc s' ↔ allowed s.view call) ∧ (allowed s.view call → J s'))
    (intact : Intact id s) (holds : J s) (calls : List (Call Up St))
    (served : ∀ call ∈ calls, call.Served) :
    Throughout (Call.exec protobuf paho) Q calls s ↔ s.view.Along paho allowed calls := by
  induction calls generalizing s with
  | nil => exact Iff.rfl
  | cons call rest ih =>
    have servedHere := served call List.mem_cons_self
    have servedRest : ∀ other ∈ rest, other.Served :=
      fun other member => served other (List.mem_cons_of_mem _ member)
    obtain ⟨rc, s', returned, one⟩ := exec_served protobuf paho intact call servedHere
    obtain ⟨here, kept⟩ := exact_call s call rc s' intact holds servedHere returned
    constructor
    · rintro ⟨rc', s'', again, satisfied, more⟩
      rw [returned] at again
      cases again
      have permit := here.mp satisfied
      refine ⟨permit, ?_⟩
      rw [← one.view]
      exact (ih one.intact (kept permit) servedRest).mp more
    · rintro ⟨permit, more⟩
      rw [← one.view] at more
      exact ⟨rc, s', returned, here.mpr permit, (ih one.intact (kept permit) servedRest).mpr more⟩

/-- The invariant of `throughout_iff_view` holds where such a run ends. -/
theorem invariant_of_along {J : State Dn → Prop} {allowed : View → Call Up St → Prop}
    (keeps : ∀ s call rc s', Intact id s → J s → call.Served →
      (call.exec protobuf paho).run s = .ok (rc, s') → allowed s.view call → J s')
    (intact : Intact id s) (holds : J s) {calls : List (Call Up St)}
    (served : ∀ call ∈ calls, call.Served) (permits : s.view.Along paho allowed calls)
    {rcs : List Int} {last : State Dn}
    (ran : (runCalls protobuf paho calls).run s = .ok (rcs, last)) : J last := by
  induction calls generalizing s rcs with
  | nil =>
    cases ran
    exact holds
  | cons call rest ih =>
    have servedHere := served call List.mem_cons_self
    obtain ⟨rc, s', later, returned, more, _⟩ := runAll_cons_ok _ ran
    have one := refines_of_returned protobuf paho intact servedHere returned
    obtain ⟨permit, permits⟩ := permits
    rw [← one.view] at permits
    exact ih one.intact (keeps s call rc s' intact holds servedHere returned permit)
      (fun other member => served other (List.mem_cons_of_mem _ member)) permits more

theorem created_view (id : String) (downlinkHandler : Option Nat) (cbArg : Nat) :
    (State.created id downlinkHandler cbArg : State Dn).view = View.fresh := rfl

end GatewayConnector
