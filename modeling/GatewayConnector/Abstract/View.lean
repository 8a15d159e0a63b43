/-
**The session as its caller sees it.**

A `View` forgets memory: it says whether the session holds a connection, whether its client is
connected, which key it holds, whether it holds a topic and how many handlers are registered. One
call moves a view (`View.next`), answers with a return code (`View.reply`) and asks some operations
of the MQTT layer (`View.events`); all three are functions of the view, the call and the id. This is
the purpose of the component: a machine that opens a session, announces itself and subscribes, says
farewell, and publishes.

`Proof/Refinement.lean` shows that the code, as long as its allocations are served, is this machine.
-/

import GatewayConnector.Proof.CallEffects

namespace GatewayConnector

/-- A session without its memory. -/
@[ext] structure View where
  network : Bool
  connected : Bool
  key : Option String
  topic : Bool
  handlers : Nat
  deriving DecidableEq, Repr

namespace View

/-- A session just created. -/
def fresh : View := ⟨false, false, none, false, 0⟩

variable {Up St Dn : Type} (protobuf : Protobuf Up St Dn) (paho : Paho)

/-- The result of `MQTTConnect`. -/
def mqttRc (v : View) (o : ConnectOutcome) : Int := paho.connectRc v.connected o.mqtt

/-- The result of `MQTTSubscribe` on a connected client. -/
def subscribeRc (v : View) (o : ConnectOutcome) : Int :=
  paho.subscribeRc true v.handlers o.subscribe

/-- The result of a publish. -/
def publishRc (v : View) (answer : Int) : Int := paho.publishRc v.connected answer

/-- The session once the block at `exit:` has run after a failure. -/
def released (v : View) : View := { v with key := none, topic := false }

/-- The view after `ttngwc_connect`. -/
def connect (v : View) (key : Option String) (o : ConnectOutcome) : View :=
  let copied := { v with key := key.or v.key }
  if o.network ≠ SUCCESS then copied.released
  else if v.mqttRc paho o ≠ SUCCESS then { copied with network := true }.released
  else if v.subscribeRc paho o ≠ SUCCESS then
    { copied with network := true, connected := true }.released
  else
    { copied with network := true, connected := true, topic := true, handlers := v.handlers + 1 }

/-- The view after a call. -/
def next (v : View) : Call Up St → View
  | .connect _ _ key o => v.connect paho key o
  | .disconnect _ => { fresh with handlers := v.handlers }
  | .sendUplink _ _ => v
  | .sendStatus _ _ => v

/-- The return code of `ttngwc_connect`: the first result that is not `SUCCESS` of the network, the
MQTT and the subscribe step. -/
def connectReply (v : View) (o : ConnectOutcome) : Int :=
  if o.network ≠ SUCCESS then o.network
  else if v.mqttRc paho o ≠ SUCCESS then v.mqttRc paho o
  else v.subscribeRc paho o

/-- The return code of a call. -/
def reply (v : View) : Call Up St → Int
  | .connect _ _ _ o => v.connectReply paho o
  | .disconnect _ => 0
  | .sendUplink _ o => v.publishRc paho o.publish
  | .sendStatus _ o => v.publishRc paho o.publish

/-- What `ttngwc_connect` asks of the MQTT layer. -/
def connectEvents (v : View) (id : String) (host : Option String) (port : Int)
    (key : Option String) (o : ConnectOutcome) : List (Event Dn) :=
  .networkConnect host port o.network ::
    if o.network ≠ SUCCESS then []
    else .mqttConnect (connectPacket protobuf id key (key.or v.key)) (v.mqttRc paho o) ::
      if v.mqttRc paho o ≠ SUCCESS then []
      else
        [.publish connectTopic (published protobuf.connectMessage QOS_CONNECT ⟨id, key⟩)
            (paho.publishRc true o.publish),
          .subscribe (downTopic id) QOS_DOWN (v.subscribeRc paho o)]

/-- What a call asks of the MQTT layer, in order and with the results reported. -/
def events (v : View) (id : String) : Call Up St → List (Event Dn)
  | .connect host port key o => v.connectEvents protobuf paho id host port key o
  | .disconnect o =>
    [.publish disconnectTopic (farewell protobuf id v.key) (v.publishRc paho o.publish),
      .mqttDisconnect o.mqtt, .networkDisconnect]
  | .sendUplink uplink o =>
    [.publish (upTopic id) (published protobuf.uplinkMessage QOS_UP uplink)
      (v.publishRc paho o.publish)]
  | .sendStatus status o =>
    [.publish (statusTopic id) (published protobuf.status QOS_STATUS status)
      (v.publishRc paho o.publish)]

/-! ### Runs -/

/-- The view after a list of calls. -/
def after (v : View) : List (Call Up St) → View
  | [] => v
  | call :: rest => (v.next paho call).after rest

/-- The return codes of a list of calls. -/
def replies (v : View) : List (Call Up St) → List Int
  | [] => []
  | call :: rest => v.reply paho call :: (v.next paho call).replies rest

/-- What a list of calls asks of the MQTT layer. -/
def trace (v : View) (id : String) : List (Call Up St) → List (Event Dn)
  | [] => []
  | call :: rest => v.events protobuf paho id call ++ (v.next paho call).trace id rest

theorem after_append (v : View) (first rest : List (Call Up St)) :
    v.after paho (first ++ rest) = (v.after paho first).after paho rest := by
  induction first generalizing v with
  | nil => rfl
  | cons call more ih => exact ih (v.next paho call)

/-- **Every call of the list is made in a view that allows it.** -/
def Along (allowed : View → Call Up St → Prop) (v : View) : List (Call Up St) → Prop
  | [] => True
  | call :: rest => allowed v call ∧ Along allowed (v.next paho call) rest

instance decidableAlong (allowed : View → Call Up St → Prop)
    [∀ v call, Decidable (allowed v call)] (v : View) (calls : List (Call Up St)) :
    Decidable (v.Along paho allowed calls) :=
  match calls with
  | [] => isTrue trivial
  | call :: rest =>
    have := decidableAlong allowed (v.next paho call) rest
    inferInstanceAs (Decidable (_ ∧ _))

/-! ### The three ways a connect ends -/

variable {v : View} {key : Option String} {o : ConnectOutcome}

theorem connect_refused (failed : o.network ≠ SUCCESS) :
    v.connect paho key o = v.released := by
  unfold connect
  rw [if_pos failed]
  rfl

theorem connect_unaccepted (network : o.network = SUCCESS) (failed : v.mqttRc paho o ≠ SUCCESS) :
    v.connect paho key o = { v.released with network := true } := by
  unfold connect
  rw [if_neg (not_not.mpr network), if_pos failed]
  rfl

theorem connect_unsubscribed (network : o.network = SUCCESS) (mqtt : v.mqttRc paho o = SUCCESS)
    (failed : v.subscribeRc paho o ≠ SUCCESS) :
    v.connect paho key o = { v.released with network := true, connected := true } := by
  unfold connect
  rw [if_neg (not_not.mpr network), if_neg (not_not.mpr mqtt), if_pos failed]
  rfl

theorem connect_accepted (network : o.network = SUCCESS) (mqtt : v.mqttRc paho o = SUCCESS)
    (subscribe : v.subscribeRc paho o = SUCCESS) :
    v.connect paho key o = ⟨true, true, key.or v.key, true, v.handlers + 1⟩ := by
  unfold connect
  rw [if_neg (not_not.mpr network), if_neg (not_not.mpr mqtt), if_neg (not_not.mpr subscribe)]

section Events

variable {id : String} {host : Option String} {port : Int}

theorem connectEvents_refused (failed : o.network ≠ SUCCESS) :
    (v.connectEvents protobuf paho id host port key o : List (Event Dn)) =
      [.networkConnect host port o.network] := by
  unfold connectEvents
  rw [if_pos failed]

theorem connectEvents_unaccepted (network : o.network = SUCCESS)
    (failed : v.mqttRc paho o ≠ SUCCESS) :
    (v.connectEvents protobuf paho id host port key o : List (Event Dn)) =
      [.networkConnect host port o.network,
        .mqttConnect (connectPacket protobuf id key (key.or v.key)) (v.mqttRc paho o)] := by
  unfold connectEvents
  rw [if_neg (not_not.mpr network), if_pos failed]

theorem connectEvents_accepted (network : o.network = SUCCESS) (mqtt : v.mqttRc paho o = SUCCESS) :
    (v.connectEvents protobuf paho id host port key o : List (Event Dn)) =
      [.networkConnect host port o.network,
        .mqttConnect (connectPacket protobuf id key (key.or v.key)) (v.mqttRc paho o),
        .publish connectTopic (published protobuf.connectMessage QOS_CONNECT ⟨id, key⟩)
          (paho.publishRc true o.publish),
        .subscribe (downTopic id) QOS_DOWN (v.subscribeRc paho o)] := by
  unfold connectEvents
  rw [if_neg (not_not.mpr network), if_neg (not_not.mpr mqtt)]

/-- A connect asks for its four operations in order, up to the one that failed. -/
theorem connectEvents_prefix :
    (v.connectEvents protobuf paho id host port key o : List (Event Dn)) <+:
      [.networkConnect host port o.network,
        .mqttConnect (connectPacket protobuf id key (key.or v.key)) (v.mqttRc paho o),
        .publish connectTopic (published protobuf.connectMessage QOS_CONNECT ⟨id, key⟩)
          (paho.publishRc true o.publish),
        .subscribe (downTopic id) QOS_DOWN (v.subscribeRc paho o)] := by
  by_cases network : o.network = SUCCESS
  · by_cases mqtt : v.mqttRc paho o = SUCCESS
    · refine ⟨[], ?_⟩
      rw [connectEvents_accepted protobuf paho network mqtt, List.append_nil]
    · rw [connectEvents_unaccepted protobuf paho network mqtt]
      exact ⟨_, rfl⟩
  · rw [connectEvents_refused protobuf paho network]
    exact ⟨_, rfl⟩

end Events

/-- **`ttngwc_connect` returns `0` exactly when its network, MQTT and subscribe steps do.** -/
theorem connectReply_iff :
    v.connectReply paho o = SUCCESS ↔
      o.network = SUCCESS ∧ v.mqttRc paho o = SUCCESS ∧ v.subscribeRc paho o = SUCCESS := by
  unfold connectReply
  by_cases network : o.network = SUCCESS
  · rw [if_neg (not_not.mpr network)]
    by_cases mqtt : v.mqttRc paho o = SUCCESS
    · rw [if_neg (not_not.mpr mqtt)]
      exact ⟨fun subscribe => ⟨network, mqtt, subscribe⟩, fun all => all.2.2⟩
    · rw [if_pos mqtt]
      exact iff_of_false mqtt fun all => mqtt all.2.1
  · rw [if_pos network]
    exact iff_of_false network fun all => network all.1

/-- A connect that returned `0`. -/
theorem connect_replied (accepted : v.connectReply paho o = SUCCESS) :
    v.connect paho key o = ⟨true, true, key.or v.key, true, v.handlers + 1⟩ := by
  obtain ⟨network, mqtt, subscribe⟩ := (connectReply_iff paho).mp accepted
  exact connect_accepted paho network mqtt subscribe

/-- A connect that did not: no key, no topic and no further entry, and a connection if there was one
or it opened one. -/
theorem connect_failed (key : Option String) (failed : v.connectReply paho o ≠ SUCCESS) :
    ∃ connected, v.connect paho key o =
      ⟨v.network || decide (o.network = SUCCESS), connected, none, false, v.handlers⟩ := by
  by_cases network : o.network = SUCCESS
  · by_cases mqtt : v.mqttRc paho o = SUCCESS
    · have unsubscribed : v.subscribeRc paho o ≠ SUCCESS := fun subscribe =>
        failed ((connectReply_iff paho).mpr ⟨network, mqtt, subscribe⟩)
      exact ⟨true, by simp [connect_unsubscribed paho network mqtt unsubscribed, network, released]⟩
    · exact ⟨v.connected, by simp [connect_unaccepted paho network mqtt, network, released]⟩
  · exact ⟨v.connected, by simp [connect_refused paho network, network, released]⟩

end View

end GatewayConnector
