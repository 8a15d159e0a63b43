/-
**One identity per MQTT session.**

The key travels on four ways. The credentials and the announcement read the argument `key`, the
will and the disconnect message read `session->key`. The two agree as long as a connect without a
key finds no key in the session, and as long as no connect fails in the middle of an MQTT session
that was opened with a key: the block at `exit:` releases that session's key as well.

* `speaksFor_iff`, `repeatsWill_iff` — one connect, one disconnect.
* `one_identity_iff` — every run.
* `not_one_identity` — a connect that fails on a connected session.
-/

import GatewayConnector.Model.Embedded
import GatewayConnector.Proof.Refinement

namespace GatewayConnector

open Lib

variable {Up St Dn : Type} (protobuf : Protobuf Up St Dn) (paho : Paho) {id : String}
  {s s' : State Dn}

/-! ### What the property says -/

/-- The event carries the id of the session and the key given to `ttngwc_connect`, or no key when
it was given none. -/
def Event.SpeaksFor (id : String) (key : Option String) : Event Dn → Prop
  | .mqttConnect data _ =>
    data.clientID = id ∧ data.username = (key.map fun _ => id) ∧ data.password = key ∧
      data.will.message = protobuf.disconnectMessage.pack ⟨id, key⟩
  | .publish topic message _ =>
    topic = connectTopic → message.payload = protobuf.connectMessage.pack ⟨id, key⟩
  | _ => True

/-- A message on `disconnect` is byte for byte the registered will. -/
def Event.RepeatsWill (registered : Option (WillOptions String Bytes)) : Event Dn → Prop
  | .publish topic message _ =>
    topic = disconnectTopic → ∀ will, registered = some will → message.payload = will.message
  | _ => True

/-- The will of the MQTT session the client is in: an accepted `MQTTConnect` registers one,
`MQTTDisconnect` ends the MQTT session. -/
def Event.registers : Option (WillOptions String Bytes) → Event Dn →
    Option (WillOptions String Bytes)
  | registered, .mqttConnect data rc => if rc = SUCCESS then some data.will else registered
  | _, .mqttDisconnect _ => none
  | registered, _ => registered

def registeredWill (log : List (Event Dn)) : Option (WillOptions String Bytes) :=
  log.foldl Event.registers none

/-- **One identity**: all of a connect's packets speak for its key, and a disconnect repeats the
will of the MQTT session it ends. -/
def OneIdentity (id : String) (s : State Dn) : Call Up St → Int → State Dn → Prop
  | .connect _ _ key _, _, s' => ∀ event ∈ newEvents s s', event.SpeaksFor protobuf id key
  | .disconnect _, _, s' => ∀ event ∈ newEvents s s', event.RepeatsWill (registeredWill s.log)
  | _, _, _ => True

/-! ### What the condition says -/

/-- Where the log stands: outside an MQTT session; in one opened without a key; in one opened with a
key; in one opened with a key in which a connect has failed. -/
inductive Standing
  | outside
  | keyless
  | keyed
  | forgotten
  deriving DecidableEq, Repr

/-- A connect fails. -/
def Standing.forget : Standing → Standing
  | .keyed => .forgotten
  | standing => standing

def Standing.after : Standing → Event Dn → Standing
  | standing, .networkConnect _ _ rc => if rc = SUCCESS then standing else standing.forget
  | standing, .mqttConnect data rc =>
    if rc = SUCCESS then
      match data.password with
      | some _ => .keyed
      | none => .keyless
    else standing.forget
  | standing, .subscribe _ _ rc => if rc = SUCCESS then standing else standing.forget
  | _, .mqttDisconnect _ => .outside
  | standing, _ => standing

def standing (log : List (Event Dn)) : Standing := log.foldl Standing.after .outside

/-- The condition on a call: a connect without a key that gets past `NetworkConnect` finds no key in
the session, and no disconnect is issued in an MQTT session that was opened with a key and in which
a connect has failed. -/
def KeepsIdentity (s : State Dn) : Call Up St → Prop
  | .connect _ _ key o => o.network = SUCCESS → key = none → s.session.key = .null
  | .disconnect _ => standing s.log ≠ .forgotten
  | _ => True

/-! ### The invariant -/

/-- How the registered will and the key that the session holds depend on where the log stands. -/
def Standing.Agrees (id : String) (registered : Option (WillOptions String Bytes))
    (held : Option String) : Standing → Prop
  | .outside => registered = none
  | .keyless =>
    held = none ∧ ∃ will, registered = some will ∧
      will.message = protobuf.disconnectMessage.pack ⟨id, none⟩
  | .keyed =>
    ∃ text will, held = some text ∧ registered = some will ∧
      will.message = protobuf.disconnectMessage.pack ⟨id, some text⟩
  | .forgotten =>
    ∃ text will, held = none ∧ registered = some will ∧
      will.message = protobuf.disconnectMessage.pack ⟨id, some text⟩

/-- The invariant of a run. -/
def Remembers (id : String) (s : State Dn) : Prop :=
  (standing s.log).Agrees protobuf id (registeredWill s.log) s.view.key

/-- A connect that fails before a new will is registered leaves the session without a key. -/
theorem Standing.Agrees.forget {registered : Option (WillOptions String Bytes)}
    {held : Option String} {standing : Standing}
    (agrees : standing.Agrees protobuf id registered held) :
    standing.forget.Agrees protobuf id registered none := by
  cases standing with
  | outside => exact agrees
  | keyless => exact ⟨rfl, agrees.2⟩
  | keyed =>
    obtain ⟨text, will, _, known, message⟩ := agrees
    exact ⟨text, will, rfl, known, message⟩
  | forgotten =>
    obtain ⟨text, will, _, known, message⟩ := agrees
    exact ⟨text, will, rfl, known, message⟩

theorem registeredWill_append (log events : List (Event Dn)) :
    registeredWill (log ++ events) = events.foldl Event.registers (registeredWill log) :=
  List.foldl_append

theorem standing_append (log events : List (Event Dn)) :
    standing (log ++ events) = events.foldl Standing.after (standing log) :=
  List.foldl_append

/-! ### One connect -/

section Connect

variable {v : View} {host : Option String} {port : Int} {key : Option String} {o : ConnectOutcome}

/-- The will is packed with the argument exactly when it is not packed with an older key. -/
theorem or_eq_left_iff (key held : Option String) : key.or held = key ↔ (key = none → held = none) := by
  cases key with
  | none => exact ⟨fun same _ => same, fun absent => absent rfl⟩
  | some text => exact iff_of_true rfl fun absent => absurd absent (Option.some_ne_none text)

theorem connectPacket_speaksFor (same : key.or v.key = key) (rc : Int) :
    (.mqttConnect (connectPacket protobuf id key (key.or v.key)) rc : Event Dn).SpeaksFor
      protobuf id key :=
  ⟨rfl, rfl, rfl, by rw [same]; rfl⟩

/-- **The packets of one connect.** -/
theorem speaksFor_iff (distinct : Function.Injective protobuf.disconnectMessage.pack) :
    (∀ event ∈ (v.connectEvents protobuf paho id host port key o : List (Event Dn)),
        event.SpeaksFor protobuf id key) ↔
      (o.network = SUCCESS → key = none → v.key = none) := by
  by_cases network : o.network = SUCCESS
  · have reduced : (o.network = SUCCESS → key = none → v.key = none) ↔ key.or v.key = key := by
      rw [or_eq_left_iff]
      exact ⟨fun permit => permit network, fun permit _ => permit⟩
    rw [reduced]
    have sent : (.mqttConnect (connectPacket protobuf id key (key.or v.key)) (v.mqttRc paho o) :
        Event Dn) ∈ v.connectEvents protobuf paho id host port key o := by
      by_cases mqtt : v.mqttRc paho o = SUCCESS
      · rw [View.connectEvents_accepted protobuf paho network mqtt]
        exact List.mem_cons_of_mem _ List.mem_cons_self
      · rw [View.connectEvents_unaccepted protobuf paho network mqtt]
        exact List.mem_cons_of_mem _ List.mem_cons_self
    constructor
    · intro speaks
      obtain ⟨_, _, _, message⟩ := speaks _ sent
      have packed : protobuf.disconnectMessage.pack ⟨id, key.or v.key⟩ =
          protobuf.disconnectMessage.pack ⟨id, key⟩ := message
      exact congrArg DisconnectMessage.key (distinct packed)
    · intro same event member
      have operation := (View.connectEvents_prefix protobuf paho).subset member
      simp only [List.mem_cons, List.not_mem_nil, or_false] at operation
      rcases operation with rfl | rfl | rfl | rfl
      · trivial
      · exact connectPacket_speaksFor protobuf same _
      · exact fun _ => rfl
      · trivial
  · refine iff_of_true (fun event member => ?_) fun success => absurd success network
    rw [View.connectEvents_refused protobuf paho network, List.mem_singleton] at member
    subst member
    trivial

/-- What a connect that keeps the identity leaves to be remembered. -/
theorem agrees_after_connect {standing : Standing}
    {registered : Option (WillOptions String Bytes)}
    (agrees : standing.Agrees protobuf id registered v.key)
    (permit : o.network = SUCCESS → key = none → v.key = none) :
    ((v.connectEvents protobuf paho id host port key o : List (Event Dn)).foldl Standing.after
        standing).Agrees protobuf id
      ((v.connectEvents protobuf paho id host port key o : List (Event Dn)).foldl Event.registers
        registered) (v.connect paho key o).key := by
  by_cases network : o.network = SUCCESS
  · have same : key.or v.key = key := (or_eq_left_iff key v.key).mpr (permit network)
    by_cases mqtt : v.mqttRc paho o = SUCCESS
    · rw [View.connectEvents_accepted protobuf paho network mqtt, same]
      simp only [List.foldl_cons, List.foldl_nil, Standing.after, Event.registers, network, mqtt,
        if_true]
      -- the new will is registered; what is left open is whether the subscription holds
      by_cases subscribe : v.subscribeRc paho o = SUCCESS
      · rw [View.connect_accepted paho network mqtt subscribe, if_pos subscribe, same]
        cases key with
        | none => exact ⟨rfl, _, rfl, rfl⟩
        | some text => exact ⟨text, _, rfl, rfl, rfl⟩
      · rw [View.connect_unsubscribed paho network mqtt subscribe, if_neg subscribe]
        cases key with
        | none => exact ⟨rfl, _, rfl, rfl⟩
        | some text => exact ⟨text, _, rfl, rfl, rfl⟩
    · rw [View.connectEvents_unaccepted protobuf paho network mqtt,
        View.connect_unaccepted paho network mqtt]
      simp only [List.foldl_cons, List.foldl_nil, Standing.after, Event.registers, if_neg mqtt,
        if_pos network]
      exact agrees.forget
  · rw [View.connectEvents_refused protobuf paho network, View.connect_refused paho network]
    simp only [List.foldl_cons, List.foldl_nil, Standing.after, Event.registers, if_neg network]
    exact agrees.forget

end Connect

/-! ### One disconnect -/

/-- **The message of one disconnect.** -/
theorem repeatsWill_iff (distinct : Function.Injective protobuf.disconnectMessage.pack) {v : View}
    {standing : Standing} {registered : Option (WillOptions String Bytes)}
    (agrees : standing.Agrees protobuf id registered v.key) (o : DisconnectOutcome) :
    (∀ event ∈ (v.events protobuf paho id (.disconnect o : Call Up St) : List (Event Dn)),
        event.RepeatsWill registered) ↔ standing ≠ .forgotten := by
  have only : (∀ event ∈ (v.events protobuf paho id (.disconnect o : Call Up St) :
      List (Event Dn)), event.RepeatsWill registered) ↔
      ∀ will, registered = some will →
        protobuf.disconnectMessage.pack ⟨id, v.key⟩ = will.message := by
    constructor
    · intro repeats
      exact repeats _ List.mem_cons_self rfl
    · intro same event member
      simp only [View.events, List.mem_cons, List.not_mem_nil, or_false] at member
      rcases member with rfl | rfl | rfl
      · exact fun _ => same
      · trivial
      · trivial
  rw [only]
  cases standing with
  | outside =>
    refine iff_of_true (fun will known => ?_) Standing.noConfusion
    rw [show registered = none from agrees] at known
    cases known
  | keyless =>
    obtain ⟨keyless, will, known, message⟩ := agrees
    refine iff_of_true (fun will' known' => ?_) Standing.noConfusion
    rw [known] at known'
    cases known'
    rw [keyless, message]
  | keyed =>
    obtain ⟨text, will, held, known, message⟩ := agrees
    refine iff_of_true (fun will' known' => ?_) Standing.noConfusion
    rw [known] at known'
    cases known'
    rw [held, message]
  | forgotten =>
    obtain ⟨text, will, released, known, message⟩ := agrees
    refine iff_of_false (fun same => ?_) fun other => other rfl
    have packed := (same will known).trans message
    rw [released] at packed
    have keys := congrArg DisconnectMessage.key (distinct packed)
    cases keys

/-! ### Every run -/

/-- A call keeps the identity exactly when it is allowed, and the invariant with it. -/
theorem oneIdentity_after_exec (distinct : Function.Injective protobuf.disconnectMessage.pack)
    (intact : Intact id s) (remembers : Remembers protobuf id s) (call : Call Up St) {rc : Int}
    (refined : Refines protobuf paho s id call rc s') :
    (OneIdentity protobuf id s call rc s' ↔ KeepsIdentity s call) ∧
      (KeepsIdentity s call → Remembers protobuf id s') := by
  have appended := newEvents_append refined.log
  have noKey : s.view.key = none ↔ s.session.key = .null := intact.keyText_eq_none_iff
  unfold Remembers
  rw [refined.view, refined.log, registeredWill_append, standing_append]
  cases call with
  | connect host port key o =>
    show ((∀ event ∈ newEvents s s', event.SpeaksFor protobuf id key) ↔
      (o.network = SUCCESS → key = none → s.session.key = .null)) ∧
      ((o.network = SUCCESS → key = none → s.session.key = .null) → _)
    rw [appended, ← noKey]
    exact ⟨speaksFor_iff protobuf paho distinct,
      agrees_after_connect protobuf paho remembers⟩
  | disconnect o =>
    show ((∀ event ∈ newEvents s s', event.RepeatsWill (registeredWill s.log)) ↔
      standing s.log ≠ .forgotten) ∧ (standing s.log ≠ .forgotten → _)
    rw [appended]
    exact ⟨repeatsWill_iff protobuf paho distinct remembers o, fun _ => rfl⟩
  | sendUplink uplink o => exact ⟨Iff.rfl, fun _ => remembers⟩
  | sendStatus status o => exact ⟨Iff.rfl, fun _ => remembers⟩

/-- **One identity over runs.** In a run from `ttngwc_init` whose allocations are served, with any
keys and outcomes, every connect speaks for the id and its key and every disconnect repeats the will
of its MQTT session, exactly when every call of the run is issued under `KeepsIdentity`. -/
theorem one_identity_iff (distinct : Function.Injective protobuf.disconnectMessage.pack)
    (id : String) (downlinkHandler : Option Nat) (cbArg : Nat) (calls : List (Call Up St))
    (served : ∀ call ∈ calls, call.Served) :
    Throughout (Call.exec protobuf paho) (OneIdentity protobuf id) calls
        (State.created id downlinkHandler cbArg : State Dn) ↔
      Along (Call.exec protobuf paho) KeepsIdentity calls
        (State.created id downlinkHandler cbArg : State Dn) := by
  refine throughout_iff_along (I := fun s => Intact id s ∧ Remembers protobuf id s)
    (fun s call kept served permit => ?_)
    (fun s call rc s' kept served returned satisfied => ?_) served
    ⟨created_intact id downlinkHandler cbArg, rfl⟩
  · obtain ⟨intact, remembers⟩ := kept
    obtain ⟨rc, s', returned, refined⟩ := exec_served protobuf paho intact call served
    obtain ⟨here, kept⟩ := oneIdentity_after_exec protobuf paho distinct intact remembers call refined
    exact ⟨rc, s', returned, here.mpr permit, refined.intact, kept permit⟩
  · obtain ⟨intact, remembers⟩ := kept
    have refined := refines_of_returned protobuf paho intact served returned
    exact (oneIdentity_after_exec protobuf paho distinct intact remembers call refined).1.mp satisfied

/-- A connect with a key and a disconnect. -/
theorem one_identity_departed :
    Throughout (Call.exec wireProtobuf embeddedPaho) (OneIdentity wireProtobuf "gw")
      [connectCall (some "secret") SUCCESS SUCCESS SUCCESS SUCCESS, disconnectCall SUCCESS SUCCESS]
      (State.created "gw" (some 7) 42 : State Bytes) := by
  have intact : Intact "gw" (State.created "gw" (some 7) 42 : State Bytes) := created_intact ..
  refine (one_identity_iff wireProtobuf embeddedPaho wireDisconnect_injective "gw" (some 7) 42 _
    (by decide)).mpr ⟨fun _ _ => rfl, fun rc s' returned => ⟨?_, fun _ _ _ => trivial⟩⟩
  have refined := refines_of_returned wireProtobuf embeddedPaho intact
    (connectCall_served (some "secret") SUCCESS SUCCESS SUCCESS SUCCESS) returned
  show standing s'.log ≠ .forgotten
  rw [refined.log]
  exact Standing.noConfusion

/-- **The key that is forgotten.** A session is connected with a key, and a further connect fails at
the network: the disconnect that follows publishes a message without the key, which is not the
registered will. -/
theorem not_one_identity :
    ∃ rcs s, (runCalls wireProtobuf embeddedPaho
        [connectCall (some "secret") SUCCESS SUCCESS SUCCESS SUCCESS,
          connectCall (some "secret") FAILURE SUCCESS SUCCESS SUCCESS]).run
          (State.created "gw" (some 7) 42 : State Bytes) = .ok (rcs, s) ∧
      ∃ rc s', ((disconnectCall SUCCESS SUCCESS).exec wireProtobuf embeddedPaho).run s =
        .ok (rc, s') ∧ ∃ will message rc, registeredWill s.log = some will ∧
          .publish disconnectTopic message rc ∈ newEvents s s' ∧
          message.payload ≠ will.message := by
  have intact : Intact "gw" (State.created "gw" (some 7) 42 : State Bytes) := created_intact ..
  obtain ⟨rcs, s, ran, before⟩ := run_served wireProtobuf embeddedPaho intact
    [connectCall (some "secret") SUCCESS SUCCESS SUCCESS SUCCESS,
      connectCall (some "secret") FAILURE SUCCESS SUCCESS SUCCESS] (by decide)
  obtain ⟨rc, s', returned, refined⟩ := exec_served wireProtobuf embeddedPaho before.intact
    (disconnectCall SUCCESS SUCCESS) (disconnectCall_served ..)
  have keyless : s.view.key = none := congrArg View.key before.view
  refine ⟨rcs, s, ran, rc, s', returned, (connectPacket wireProtobuf "gw" (some "secret")
    (some "secret")).will, farewell wireProtobuf "gw" none,
    s.view.publishRc embeddedPaho SUCCESS, ?_, ?_, fun same => ?_⟩
  · rw [before.log]
    rfl
  · rw [newEvents_append refined.log, ← keyless]
    exact List.mem_cons_self
  · have keys := congrArg DisconnectMessage.key (wireDisconnect_injective same)
    cases keys

end GatewayConnector
