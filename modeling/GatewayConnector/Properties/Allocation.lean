/-
**Allocations that are refused.**

The two sends test the payload that `malloc` returned, and report. Nothing else does: a message is
packed into NULL, a topic that `asprintf` did not format is subscribed to, published on and
released, a session or a buffer there was no memory for is written to, and a key or an id that could
not be copied is missing from then on without a word.

* `init_survives_iff`, `connect_reports_iff` — `ttngwc_init`, one call.
* `allocations_survived_iff` — every run: with any allocations refused, nothing faults and every
  refusal is reported exactly when those that are not tested are served.
* `allocation_not_survived` — three refusals.
-/

import GatewayConnector.Model.Embedded
import GatewayConnector.Proof.Footprint
import GatewayConnector.Proof.Lifetime
import GatewayConnector.Proof.Returned

namespace GatewayConnector

open Lib

variable {Up St Dn : Type} (protobuf : Protobuf Up St Dn) (paho : Paho) {id : String}
  {s : State Dn}

/-! ### The property -/

/-- A connect or a send in which an allocation was refused returns a non-zero code. -/
def Reports (s : State Dn) : Call Up St → Int → State Dn → Prop
  | .disconnect _, _, _ => True
  | _, rc, s' => s'.refused ≠ s.refused → rc ≠ SUCCESS

/-- `ttngwc_init` returns, and hands out no session if an allocation was refused. -/
def InitSurvives (id : String) (downlinkHandler : Option Nat) (cbArg : Nat) (o : InitOutcome)
    (p : Ptr) (s : State Dn) : Prop :=
  (ttngwcInit id downlinkHandler cbArg o).run (State.boot : State Dn) = .ok (p, s) ∧
    (s.refused ≠ 0 → p = .null)

/-- **Refused allocations are survived and reported**: `ttngwc_init` survives, and when it hands out
a session, no call of the run faults, every connect and every send reports, and `ttngwc_cleanup`
returns at the end. -/
def AllocationsSurvived (id : String) (downlinkHandler : Option Nat) (cbArg : Nat)
    (o : InitOutcome) (calls : List (Call Up St)) : Prop :=
  ∃ p s, InitSurvives id downlinkHandler cbArg o p s ∧ (p ≠ .null →
    Throughout (Call.exec protobuf paho) Reports calls s ∧
      ∀ rcs last, (runCalls protobuf paho calls).run s = .ok (rcs, last) →
        ∃ s', ttngwcCleanup.run last = .ok ((), s'))

/-! ### The condition -/

/-- The allocations a connect depends on are served: the payload of the will if it gets past
`NetworkConnect`, those of the announcement and the topic if it gets past `MQTTConnect`, and the
copy of a key if it returns `0`. -/
def ConnectServed (s : State Dn) (key : Option String) (o : ConnectOutcome) : Prop :=
  o.network = SUCCESS → o.willPayload = true ∧ (mqttRc paho s o = SUCCESS →
    o.announcement = true ∧ o.downlinkTopic = true ∧
      (key ≠ none → o.keyCopy = false → subscribeRc paho s o ≠ SUCCESS))

/-- The condition on a call. -/
def AllocationsServed (s : State Dn) : Call Up St → Prop
  | .connect _ _ key o => ConnectServed paho s key o
  | .disconnect o => o.payload = true
  | .sendUplink _ o | .sendStatus _ o => o.payload = true → o.topic = true

/-! ### `ttngwc_init` -/

/-- **`ttngwc_init` survives exactly when all of its allocations are served.** -/
theorem init_survives_iff (id : String) (downlinkHandler : Option Nat) (cbArg : Nat)
    (o : InitOutcome) :
    (∃ p, ∃ s : State Dn, InitSurvives id downlinkHandler cbArg o p s) ↔ o = .served := by
  constructor
  · rintro ⟨p, s, returned, reported⟩
    obtain ⟨session, idCopy, readBuffer, sendBuffer⟩ := o
    cases session with
    | false =>
      rw [init_session_unserved id downlinkHandler cbArg _ rfl] at returned
      cases returned
    | true =>
      by_cases buffers : readBuffer = false ∨ sendBuffer = false
      · rw [init_buffer_unserved id downlinkHandler cbArg _ rfl buffers] at returned
        cases returned
      · rw [not_or, Bool.not_eq_false, Bool.not_eq_false] at buffers
        obtain ⟨rfl, rfl⟩ := buffers
        cases idCopy with
        | true => rfl
        | false =>
          -- the session is handed out without an id
          obtain ⟨s', handed, refused⟩ := init_id_unserved id downlinkHandler cbArg
            ⟨true, false, true, true⟩ rfl rfl rfl rfl
          rw [handed] at returned
          cases returned
          have null := reported (by rw [refused]; exact Nat.one_ne_zero)
          cases null
  · rintro rfl
    exact ⟨_, _, init_served id downlinkHandler cbArg, fun refused => absurd rfl refused⟩

/-! ### One call -/

section Connect

variable (host : Option String) (port : Int) (key : Option String) (o : ConnectOutcome)

/-- The refusals a connect counts by the time it subscribes. -/
theorem refused_after_subscribe {t : State Dn}
    (ended : t = if subscribeRc paho s o = SUCCESS
      then s.afterSubscribe protobuf paho id host port key o
      else (s.afterSubscribe protobuf paho id host port key o).released) :
    t.refused ≠ s.refused ↔ key ≠ none ∧ o.keyCopy = false := by
  have counted : t.refused = (s.keyCopied key o.keyCopy).refused := by
    rw [ended, ← afterSubscribe_refused protobuf paho id host port key o]
    split <;> rfl
  rw [counted, keyCopied_refused]
  by_cases lost : key ≠ none ∧ o.keyCopy = false
  · rw [if_pos lost]
    exact iff_of_true (Nat.succ_ne_self _) lost
  · rw [if_neg lost]
    exact iff_of_false (fun other => other rfl) lost

/-- **One connect.** -/
theorem connect_reports_iff {rc : Int} {s' : State Dn}
    (ended : ConnectEnd protobuf paho s id host port key o rc s') :
    (s'.refused ≠ s.refused → rc ≠ SUCCESS) ↔ ConnectServed paho s key o := by
  cases ended with
  | network refused => exact iff_of_true (fun _ => refused) fun success => absurd success refused
  | mqtt network will refused =>
    exact iff_of_true (fun _ => refused) fun _ => ⟨will, fun success => absurd success refused⟩
  | subscribe network will mqtt announcement topic =>
    rw [refused_after_subscribe protobuf paho host port key o rfl]
    constructor
    · intro reports _
      exact ⟨will, fun _ => ⟨announcement, topic, fun given lost => reports ⟨given, lost⟩⟩⟩
    · rintro enough ⟨given, lost⟩
      obtain ⟨_, later⟩ := enough network
      obtain ⟨_, _, copied⟩ := later mqtt
      exact copied given lost

theorem connect_survives (intact : Intact id s) (enough : ConnectServed paho s key o) :
    ∃ rc s', (ttngwcConnect protobuf paho host port key o).run s = .ok (rc, s') ∧
      (s'.refused ≠ s.refused → rc ≠ SUCCESS) := by
  have served : ConnectReturns paho s o := by
    intro network
    obtain ⟨will, later⟩ := enough network
    refine ⟨will, fun mqtt => ?_⟩
    obtain ⟨announcement, topic, _⟩ := later mqtt
    exact ⟨announcement, topic⟩
  obtain ⟨rc, s', returned⟩ :=
    (connect_returns_iff protobuf paho host port key o intact).mpr served
  have ended := connect_returned protobuf paho host port key o intact returned
  exact ⟨rc, s', returned, (connect_reports_iff protobuf paho host port key o ended).mpr enough⟩

end Connect

theorem send_survives {M : Type} (codec : Codec M) (topicOf : String → String) (qos : QoS)
    (message : M) (o : SendOutcome) (intact : Intact id s)
    (enough : o.payload = true → o.topic = true) :
    ∃ rc s', (sendMessage paho codec topicOf qos message o).run s = .ok (rc, s') ∧
      (s'.refused ≠ s.refused → rc ≠ SUCCESS) := by
  cases payload : o.payload with
  | false =>
    refine ⟨_, _, send_payload_unserved paho codec topicOf qos message o payload, fun _ => ?_⟩
    decide
  | true =>
    exact ⟨_, _, send_served paho codec topicOf qos message o intact payload (enough payload),
      fun refused => absurd rfl refused⟩

theorem send_needs {M : Type} {codec : Codec M} {topicOf : String → String} {qos : QoS}
    {message : M} {o : SendOutcome} {rc : Int} {s' : State Dn} (intact : Intact id s)
    (returned : (sendMessage paho codec topicOf qos message o).run s = .ok (rc, s')) :
    o.payload = true → o.topic = true := by
  intro payload
  rcases send_returned paho intact returned with ⟨refused, _⟩ | ⟨_, topic, _⟩
  · rw [payload] at refused
    cases refused
  · exact topic

/-- **One call survives and reports if its allocations are served.** -/
theorem exec_survives (intact : Intact id s) (call : Call Up St)
    (enough : AllocationsServed paho s call) :
    ∃ rc s', (call.exec protobuf paho).run s = .ok (rc, s') ∧ Reports s call rc s' := by
  cases call with
  | connect host port key o => exact connect_survives protobuf paho host port key o intact enough
  | disconnect o => exact ⟨_, _, disconnect_served protobuf paho o intact enough, trivial⟩
  | sendUplink uplink o => exact send_survives paho _ upTopic QOS_UP uplink o intact enough
  | sendStatus status o => exact send_survives paho _ statusTopic QOS_STATUS status o intact enough

/-- **A call that returns and reports had its allocations served.** -/
theorem exec_needs (intact : Intact id s) (call : Call Up St) {rc : Int} {s' : State Dn}
    (returned : (call.exec protobuf paho).run s = .ok (rc, s')) (reports : Reports s call rc s') :
    AllocationsServed paho s call := by
  cases call with
  | connect host port key o =>
    exact (connect_reports_iff protobuf paho host port key o
      (connect_returned protobuf paho host port key o intact returned)).mp reports
  | disconnect o => exact (disconnect_returned protobuf paho intact returned).1
  | sendUplink uplink o => exact send_needs paho intact returned
  | sendStatus status o => exact send_needs paho intact returned

/-! ### Every run -/

/-- **Allocations over runs.** Whatever allocations of `ttngwc_init` and of the calls that follow
are refused, they are survived and reported exactly when all of those of `ttngwc_init` are served
and every call is issued with the ones served that it does not test. -/
theorem allocations_survived_iff (id : String) (downlinkHandler : Option Nat) (cbArg : Nat)
    (o : InitOutcome) (calls : List (Call Up St)) :
    AllocationsSurvived protobuf paho id downlinkHandler cbArg o calls ↔
      o = .served ∧ Along (Call.exec protobuf paho) (AllocationsServed paho) calls
        (State.created id downlinkHandler cbArg : State Dn) := by
  have intact : Intact id (State.created id downlinkHandler cbArg : State Dn) := created_intact ..
  have along : Throughout (Call.exec protobuf paho) Reports calls
      (State.created id downlinkHandler cbArg : State Dn) ↔
      Along (Call.exec protobuf paho) (AllocationsServed paho) calls
        (State.created id downlinkHandler cbArg : State Dn) := by
    have every : ∀ call ∈ calls, (fun _ : Call Up St => True) call := fun _ _ => trivial
    refine throughout_iff_along (I := Intact id) (fun s call intact _ enough => ?_)
      (fun s call rc s' intact _ returned reports =>
        exec_needs protobuf paho intact call returned reports) every intact
    obtain ⟨rc, s', returned, reports⟩ := exec_survives protobuf paho intact call enough
    exact ⟨rc, s', returned, reports, exec_intact protobuf paho intact call returned⟩
  constructor
  · rintro ⟨p, s, survives, rest⟩
    have served := (init_survives_iff id downlinkHandler cbArg o).mp ⟨p, s, survives⟩
    subst served
    obtain ⟨returned, _⟩ := survives
    rw [init_served] at returned
    cases returned
    exact ⟨rfl, along.mp (rest Ptr.noConfusion).1⟩
  · rintro ⟨rfl, permits⟩
    refine ⟨_, _, ⟨init_served id downlinkHandler cbArg, fun refused => absurd rfl refused⟩,
      fun _ => ⟨along.mpr permits, fun rcs last ran => ?_⟩⟩
    exact ⟨_, cleanup_intact (run_intact protobuf paho intact ran)⟩

/-- **Three refusals.** Without memory for the session `ttngwc_init` faults; on a session just
created, a connect without memory for the will and a status without memory for the topic fault. -/
theorem allocation_not_survived :
    (ttngwcInit "gw" (some 7) 42 ⟨false, true, true, true⟩).run (State.boot : State Bytes) =
        .error .nullPointer ∧
      (ttngwcConnect wireProtobuf embeddedPaho (some "localhost") 1883 none
        ⟨true, false, true, true, SUCCESS, SUCCESS, SUCCESS, SUCCESS⟩).run
          (State.created "gw" (some 7) 42 : State Bytes) = .error .nullPointer ∧
      (ttngwcSendStatus wireProtobuf embeddedPaho [1] ⟨true, false, SUCCESS⟩).run
          (State.created "gw" (some 7) 42 : State Bytes) = .error .indeterminatePointer := by
  have intact : Intact "gw" (State.created "gw" (some 7) 42 : State Bytes) := created_intact ..
  refine ⟨init_session_unserved "gw" (some 7) 42 _ rfl, ?_, ?_⟩
  · exact connect_will_unserved wireProtobuf embeddedPaho intact rfl rfl
  · exact send_topic_unserved embeddedPaho encoded statusTopic QOS_STATUS [1] _ intact rfl rfl

end GatewayConnector
