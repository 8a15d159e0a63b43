/-
**What a disconnect does not forget.**

`ttngwc_disconnect` leaves a session as `ttngwc_init` left it, but for the handler table: the entries
that earlier connects registered keep their slots. `burdened n` adds `n` such entries to a view.
Two runs of the same calls, one from the burdened session, go along together until the calls ask for
a slot that only the fresh session still has.

* `burdened_same_iff` — the two runs agree exactly when there is no entry or the calls fit in.
* `handlers_after` — the entries that a list of calls leaves.
* `disconnect_forgets_iff` — for the code: after any history that ends with a disconnect.
* `disconnect_remembers` — five connects and disconnects, and a sixth connect.
-/

import GatewayConnector.Model.Embedded
import GatewayConnector.Proof.Refinement

namespace GatewayConnector

open Lib

/-- The handler table has a fixed number of slots: while one is free, a subscription that is granted
is registered; when none is, it does not return `SUCCESS`; one that is refused is reported as it was
answered. -/
structure Paho.FixedTable (paho : Paho) (slots : Nat) : Prop where
  room : ∀ handlers, handlers < slots → paho.subscribeRc true handlers SUCCESS = SUCCESS
  full : ∀ handlers, slots ≤ handlers → paho.subscribeRc true handlers SUCCESS ≠ SUCCESS
  refused : ∀ handlers answer, answer ≠ SUCCESS → paho.subscribeRc true handlers answer = answer

/-- A registered subscription was granted and found a slot. -/
theorem Paho.FixedTable.registered {paho : Paho} {slots : Nat} (table : paho.FixedTable slots)
    {handlers : Nat} {answer : Int} (success : paho.subscribeRc true handlers answer = SUCCESS) :
    answer = SUCCESS ∧ handlers < slots := by
  have granted : answer = SUCCESS := by
    by_contra refused
    rw [table.refused handlers answer refused] at success
    exact refused success
  subst granted
  refine ⟨rfl, ?_⟩
  by_contra none
  exact table.full handlers (Nat.le_of_not_lt none) success

variable {Up St Dn : Type} (protobuf : Protobuf Up St Dn) (paho : Paho) {id : String}

/-- The operation without the result it reported. -/
def Event.operation : Event Dn → Event Dn
  | .networkConnect host port _ => .networkConnect host port 0
  | .mqttConnect data _ => .mqttConnect data 0
  | .publish topic message _ => .publish topic message 0
  | .subscribe topicFilter qos _ => .subscribe topicFilter qos 0
  | .mqttDisconnect _ => .mqttDisconnect 0
  | event => event

/-! ### What a list of calls asks for -/

/-- Whether the client is connected after a call. -/
def Call.leavesConnected (connected : Bool) : Call Up St → Bool
  | .connect _ _ _ o =>
    connected || (o.network == SUCCESS && paho.connectRc connected o.mqtt == SUCCESS)
  | .disconnect _ => false
  | _ => connected

/-- The slots that a call takes, if it finds them: one for a connect whose network, MQTT and
subscribe steps are answered positively. -/
def Call.demand (connected : Bool) : Call Up St → Nat
  | .connect _ _ _ o =>
    if o.network = SUCCESS ∧ paho.connectRc connected o.mqtt = SUCCESS ∧ o.subscribe = SUCCESS then 1
    else 0
  | _ => 0

/-- The slots that a list of calls takes, if it finds them. -/
def demand (connected : Bool) : List (Call Up St) → Nat
  | [] => 0
  | call :: rest => call.demand paho connected + demand (call.leavesConnected paho connected) rest

namespace View

/-- The view with `n` more entries in the handler table. -/
def burdened (v : View) (n : Nat) : View := { v with handlers := v.handlers + n }

theorem next_connected (v : View) (call : Call Up St) :
    (v.next paho call).connected = call.leavesConnected paho v.connected := by
  cases call with
  | connect host port key o =>
    show (v.connect paho key o).connected =
      (v.connected || (o.network == SUCCESS && v.mqttRc paho o == SUCCESS))
    by_cases network : o.network = SUCCESS
    · by_cases mqtt : v.mqttRc paho o = SUCCESS
      · rw [network, mqtt, beq_self_eq_true, Bool.and_self, Bool.or_true]
        by_cases subscribe : v.subscribeRc paho o = SUCCESS
        · rw [connect_accepted paho network mqtt subscribe]
        · rw [connect_unsubscribed paho network mqtt subscribe]
      · rw [connect_unaccepted paho network mqtt, beq_false_of_ne mqtt, Bool.and_false,
          Bool.or_false]
        rfl
    · rw [connect_refused paho network, beq_false_of_ne network, Bool.false_and, Bool.or_false]
      rfl
  | disconnect o => rfl
  | sendUplink uplink o => rfl
  | sendStatus status o => rfl

/-! ### One call -/

/-- What a call answers, asks for and leaves is the same with `n` more entries. -/
structure SameStep (v : View) (n : Nat) (id : String) (call : Call Up St) : Prop where
  reply : (v.burdened n).reply paho call = v.reply paho call
  events : ((v.burdened n).events protobuf paho id call : List (Event Dn)) =
    v.events protobuf paho id call
  next : (v.burdened n).next paho call = (v.next paho call).burdened n
  handlers : (v.next paho call).handlers = v.handlers + call.demand paho v.connected

section Step

variable {v : View} {n slots : Nat}

/-- A subscription that takes no slot, or finds one all the same, is answered alike. -/
theorem burdened_subscribeRc (table : paho.FixedTable slots) {o : ConnectOutcome}
    (fits : o.subscribe = SUCCESS → v.handlers + n < slots) :
    (v.burdened n).subscribeRc paho o = v.subscribeRc paho o := by
  show paho.subscribeRc true (v.handlers + n) o.subscribe =
    paho.subscribeRc true v.handlers o.subscribe
  by_cases granted : o.subscribe = SUCCESS
  · have room := fits granted
    rw [granted, table.room _ room, table.room _ (Nat.lt_of_le_of_lt (Nat.le_add_right ..) room)]
  · rw [table.refused _ _ granted, table.refused _ _ granted]

/-- What a connect asks of the handler table. -/
theorem demand_connect (host : Option String) (port : Int) (key : Option String)
    (o : ConnectOutcome) : (.connect host port key o : Call Up St).demand paho v.connected =
      if o.network = SUCCESS ∧ v.mqttRc paho o = SUCCESS ∧ o.subscribe = SUCCESS then 1 else 0 :=
  rfl

section Connect

variable (host : Option String) (port : Int) (key : Option String) {o : ConnectOutcome}

theorem same_connect_refused (failed : o.network ≠ SUCCESS) :
    v.SameStep protobuf paho n id (.connect host port key o : Call Up St) := by
  refine ⟨?_, ?_, ?_, ?_⟩
  · show (v.burdened n).connectReply paho o = v.connectReply paho o
    unfold connectReply
    rw [if_pos failed, if_pos failed]
  · show (v.burdened n).connectEvents protobuf paho id host port key o =
      v.connectEvents protobuf paho id host port key o
    rw [connectEvents_refused protobuf paho failed, connectEvents_refused protobuf paho failed]
  · show (v.burdened n).connect paho key o = (v.connect paho key o).burdened n
    rw [connect_refused paho failed, connect_refused paho failed]
    rfl
  · show (v.connect paho key o).handlers = _
    rw [connect_refused paho failed, demand_connect, if_neg fun all => failed all.1]
    rfl

theorem same_connect_unaccepted (network : o.network = SUCCESS)
    (failed : v.mqttRc paho o ≠ SUCCESS) :
    v.SameStep protobuf paho n id (.connect host port key o : Call Up St) := by
  have failed' : (v.burdened n).mqttRc paho o ≠ SUCCESS := failed
  refine ⟨?_, ?_, ?_, ?_⟩
  · show (v.burdened n).connectReply paho o = v.connectReply paho o
    unfold connectReply
    rw [if_pos failed, if_pos failed']
    rfl
  · show (v.burdened n).connectEvents protobuf paho id host port key o =
      v.connectEvents protobuf paho id host port key o
    rw [connectEvents_unaccepted protobuf paho network failed,
      connectEvents_unaccepted protobuf paho network failed']
    rfl
  · show (v.burdened n).connect paho key o = (v.connect paho key o).burdened n
    rw [connect_unaccepted paho network failed, connect_unaccepted paho network failed']
    rfl
  · show (v.connect paho key o).handlers = _
    rw [connect_unaccepted paho network failed, demand_connect, if_neg fun all => failed all.2.1]
    rfl

/-- The subscription is where the older entries could show. -/
theorem same_connect_accepted (table : paho.FixedTable slots) (network : o.network = SUCCESS)
    (mqtt : v.mqttRc paho o = SUCCESS)
    (fits : o.subscribe = SUCCESS → v.handlers + n < slots) :
    v.SameStep protobuf paho n id (.connect host port key o : Call Up St) := by
  have mqtt' : (v.burdened n).mqttRc paho o = SUCCESS := mqtt
  have same : (v.burdened n).subscribeRc paho o = v.subscribeRc paho o :=
    burdened_subscribeRc paho table fits
  refine ⟨?_, ?_, ?_, ?_⟩
  · show (v.burdened n).connectReply paho o = v.connectReply paho o
    unfold connectReply
    rw [same]
    rfl
  · show (v.burdened n).connectEvents protobuf paho id host port key o =
      v.connectEvents protobuf paho id host port key o
    rw [connectEvents_accepted protobuf paho network mqtt,
      connectEvents_accepted protobuf paho network mqtt', same]
    rfl
  · show (v.burdened n).connect paho key o = (v.connect paho key o).burdened n
    by_cases subscribe : v.subscribeRc paho o = SUCCESS
    · rw [connect_accepted paho network mqtt subscribe,
        connect_accepted paho network mqtt' (same.trans subscribe)]
      show View.mk true true _ true (v.handlers + n + 1) = ⟨true, true, _, true, _ + n⟩
      rw [Nat.add_right_comm]
      rfl
    · have subscribe' : (v.burdened n).subscribeRc paho o ≠ SUCCESS := by rwa [same]
      rw [connect_unsubscribed paho network mqtt subscribe,
        connect_unsubscribed paho network mqtt' subscribe']
      rfl
  · show (v.connect paho key o).handlers = _
    by_cases subscribe : v.subscribeRc paho o = SUCCESS
    · rw [connect_accepted paho network mqtt subscribe, demand_connect,
        if_pos ⟨network, mqtt, (table.registered subscribe).1⟩]
    · have unanswered : ¬ (o.network = SUCCESS ∧ v.mqttRc paho o = SUCCESS ∧
          o.subscribe = SUCCESS) := by
        rintro ⟨_, _, granted⟩
        refine subscribe ?_
        unfold subscribeRc
        rw [granted]
        exact table.room _ (Nat.lt_of_le_of_lt (Nat.le_add_right ..) (fits granted))
      rw [connect_unsubscribed paho network mqtt subscribe, demand_connect, if_neg unanswered,
        Nat.add_zero]
      rfl

theorem same_connect (table : paho.FixedTable slots)
    (fits : (.connect host port key o : Call Up St).demand paho v.connected = 0 ∨
      v.handlers + n < slots) :
    v.SameStep protobuf paho n id (.connect host port key o) := by
  by_cases network : o.network = SUCCESS
  · by_cases mqtt : v.mqttRc paho o = SUCCESS
    · refine same_connect_accepted protobuf paho host port key table network mqtt fun granted =>
        fits.resolve_left ?_
      rw [demand_connect, if_pos ⟨network, mqtt, granted⟩]
      exact Nat.one_ne_zero
    · exact same_connect_unaccepted protobuf paho host port key network mqtt
  · exact same_connect_refused protobuf paho host port key network

end Connect

/-- **A call that takes no slot or finds one.** -/
theorem same_step (table : paho.FixedTable slots) (call : Call Up St)
    (fits : call.demand paho v.connected = 0 ∨ v.handlers + n < slots) :
    v.SameStep protobuf paho n id call := by
  cases call with
  | connect host port key o => exact same_connect protobuf paho host port key table fits
  | disconnect o => exact ⟨rfl, rfl, rfl, rfl⟩
  | sendUplink uplink o => exact ⟨rfl, rfl, rfl, rfl⟩
  | sendStatus status o => exact ⟨rfl, rfl, rfl, rfl⟩

/-- **A call that takes the slot that only the fresh session has** is answered differently. -/
theorem different_reply (table : paho.FixedTable slots) (call : Call Up St)
    (takes : call.demand paho v.connected ≠ 0) (room : v.handlers < slots)
    (crowded : slots ≤ v.handlers + n) :
    (v.burdened n).reply paho call ≠ v.reply paho call := by
  cases call with
  | connect host port key o =>
    have granted : o.network = SUCCESS ∧ v.mqttRc paho o = SUCCESS ∧ o.subscribe = SUCCESS := by
      by_contra denied
      exact takes (if_neg denied)
    obtain ⟨network, mqtt, subscribe⟩ := granted
    have fresh : v.connectReply paho o = SUCCESS := by
      refine (connectReply_iff paho).mpr ⟨network, mqtt, ?_⟩
      unfold subscribeRc
      rw [subscribe]
      exact table.room _ room
    have used : (v.burdened n).connectReply paho o ≠ SUCCESS := by
      intro success
      obtain ⟨_, _, registered⟩ := (connectReply_iff paho).mp success
      have free := (table.registered registered).2
      exact Nat.not_lt.mpr crowded free
    show (v.burdened n).connectReply paho o ≠ v.connectReply paho o
    rwa [fresh]
  | disconnect o => exact absurd rfl takes
  | sendUplink uplink o => exact absurd rfl takes
  | sendStatus status o => exact absurd rfl takes

end Step

/-! ### Every list of calls -/

theorem demand_le_one (connected : Bool) (call : Call Up St) : call.demand paho connected ≤ 1 := by
  cases call with
  | connect host port key o =>
    show (if _ then 1 else 0) ≤ 1
    split
    · exact Nat.le_refl _
    · exact Nat.zero_le _
  | disconnect o => exact Nat.zero_le _
  | sendUplink uplink o => exact Nat.zero_le _
  | sendStatus status o => exact Nat.zero_le _

/-- **Two runs of the same calls**, one of them with `n > 0` more entries, agree on the return codes
and on the operations exactly when everything they ask for fits in. -/
theorem burdened_same_iff {slots : Nat} (table : paho.FixedTable slots) {n : Nat} (some : n ≠ 0)
    (calls : List (Call Up St)) (v : View) (fitting : v.handlers + n ≤ slots) :
    ((v.burdened n).replies paho calls = v.replies paho calls ∧
        ((v.burdened n).trace protobuf paho id calls : List (Event Dn)).map Event.operation =
          (v.trace protobuf paho id calls).map Event.operation) ↔
      v.handlers + n + demand paho v.connected calls ≤ slots := by
  induction calls generalizing v with
  | nil => exact iff_of_true ⟨rfl, rfl⟩ fitting
  | cons call rest ih =>
    have total : demand paho v.connected (call :: rest) = call.demand paho v.connected +
        demand paho (v.next paho call).connected rest := by
      rw [next_connected]
      rfl
    rw [total]
    by_cases fits : call.demand paho v.connected = 0 ∨ v.handlers + n < slots
    · have step : v.SameStep protobuf paho n id call := same_step protobuf paho table call fits
      obtain ⟨reply, events, next, handlers⟩ := step
      have atMost := demand_le_one paho v.connected call
      have fitsNext : (v.next paho call).handlers + n ≤ slots := by
        rw [handlers]
        omega
      have later := ih (v.next paho call) fitsNext
      rw [handlers] at later
      have same : v.handlers + n + (call.demand paho v.connected +
          demand paho (v.next paho call).connected rest) = v.handlers +
            call.demand paho v.connected + n + demand paho (v.next paho call).connected rest := by
        omega
      rw [same, ← later]
      show ((_ :: _ : List Int) = _ :: _ ∧ (_ ++ _ : List (Event Dn)).map _ =
        (_ ++ _ : List (Event Dn)).map _) ↔ _
      rw [reply, events, next, List.map_append, List.map_append, List.append_right_inj,
        List.cons_inj_right]
    · have takes : call.demand paho v.connected ≠ 0 := fun spare => fits (Or.inl spare)
      have crowded : slots ≤ v.handlers + n := Nat.le_of_not_lt fun room => fits (Or.inr room)
      have room : v.handlers < slots := by omega
      refine iff_of_false (fun agree => ?_) (by omega)
      exact different_reply paho table call takes room crowded (List.cons.inj agree.1).1

/-! ### The entries that a list of calls leaves -/

/-- A connect returns `0` if its steps are answered positively and a slot is free. -/
theorem connectReply_table_iff {v : View} {slots : Nat} (table : paho.FixedTable slots)
    (o : ConnectOutcome) :
    v.connectReply paho o = SUCCESS ↔
      (o.network = SUCCESS ∧ v.mqttRc paho o = SUCCESS ∧ o.subscribe = SUCCESS) ∧
        v.handlers < slots := by
  rw [connectReply_iff]
  constructor
  · rintro ⟨network, mqtt, subscribe⟩
    obtain ⟨answer, room⟩ := table.registered subscribe
    exact ⟨⟨network, mqtt, answer⟩, room⟩
  · rintro ⟨⟨network, mqtt, answer⟩, room⟩
    refine ⟨network, mqtt, ?_⟩
    show paho.subscribeRc true v.handlers o.subscribe = SUCCESS
    rw [answer]
    exact table.room _ room

/-- A connect registers an entry exactly if it returns `0`. -/
theorem connect_handlers {v : View} (key : Option String) (o : ConnectOutcome) :
    (v.connect paho key o).handlers =
      v.handlers + if v.connectReply paho o = SUCCESS then 1 else 0 := by
  by_cases accepted : v.connectReply paho o = SUCCESS
  · rw [connect_replied paho accepted, if_pos accepted]
  · obtain ⟨_, left⟩ := connect_failed paho key accepted
    rw [left, if_neg accepted]
    rfl

/-- **One call** takes the slot that it asks for, if there is one. -/
theorem handlers_next {slots : Nat} (table : paho.FixedTable slots) (v : View)
    (call : Call Up St) :
    (v.next paho call).handlers =
      v.handlers + if v.handlers < slots then call.demand paho v.connected else 0 := by
  cases call with
  | connect host port key o =>
    show (v.connect paho key o).handlers = _
    rw [connect_handlers, demand_connect paho host port key o]
    by_cases room : v.handlers < slots
    · simp only [connectReply_table_iff paho table, room, and_true, if_pos]
    · simp only [connectReply_table_iff paho table, room, and_false, if_false]
  | disconnect o => exact congrArg (v.handlers + ·) (ite_self 0).symm
  | sendUplink uplink o => exact congrArg (v.handlers + ·) (ite_self 0).symm
  | sendStatus status o => exact congrArg (v.handlers + ·) (ite_self 0).symm

/-- **A list of calls** takes the slots that it asks for, until there is none. -/
theorem handlers_after {slots : Nat} (table : paho.FixedTable slots) (calls : List (Call Up St))
    (v : View) (within : v.handlers ≤ slots) :
    (v.after paho calls).handlers = min slots (v.handlers + demand paho v.connected calls) := by
  induction calls generalizing v with
  | nil => exact (Nat.min_eq_right within).symm
  | cons call rest ih =>
    have taken := handlers_next paho table v call
    have one := demand_le_one paho v.connected call
    have wanted : demand paho v.connected (call :: rest) =
        call.demand paho v.connected + demand paho (v.next paho call).connected rest := by
      rw [next_connected]
      rfl
    have left := ih (v.next paho call) (by rw [taken]; split <;> omega)
    rw [taken] at left
    show ((v.next paho call).after paho rest).handlers = _
    rw [left, wanted]
    by_cases room : v.handlers < slots
    · rw [if_pos room]
      omega
    · rw [if_neg room]
      omega

end View

/-! ### The code -/

/-- **Two sessions behave alike**: the calls return the same codes on both, and ask the same
operations of the MQTT layer. -/
def SameBehaviour (calls : List (Call Up St)) (s t : State Dn) : Prop :=
  ∃ rcs s' t', (runCalls protobuf paho calls).run s = .ok (rcs, s') ∧
    (runCalls protobuf paho calls).run t = .ok (rcs, t') ∧
    (newEvents s s').map Event.operation = (newEvents t t').map Event.operation

theorem sameBehaviour_iff {s t : State Dn} (intact : Intact id s) (intact' : Intact id t)
    (calls : List (Call Up St)) (served : ∀ call ∈ calls, call.Served) :
    SameBehaviour protobuf paho calls s t ↔
      s.view.replies paho calls = t.view.replies paho calls ∧
        ((s.view.trace protobuf paho id calls : List (Event Dn)).map Event.operation =
          (t.view.trace protobuf paho id calls).map Event.operation) := by
  obtain ⟨rcs, s', ran, refined⟩ := run_served protobuf paho intact calls served
  obtain ⟨rcs', t', ran', refined'⟩ := run_served protobuf paho intact' calls served
  rw [← newEvents_append refined.log, ← newEvents_append refined'.log, ← refined.replies,
    ← refined'.replies]
  constructor
  · rintro ⟨codes, _, _, first, second, operations⟩
    rw [ran] at first
    rw [ran'] at second
    cases first
    cases second
    exact ⟨rfl, operations⟩
  · rintro ⟨rfl, operations⟩
    exact ⟨rcs, s', t', ran, ran', operations⟩

/-- **What a disconnect forgets.** After any history of calls that ends with a disconnect, the
session behaves under later calls like one just created, exactly when the history took no slot of the
handler table, or the slots that it took and those that the later calls ask for fit in together. The
history takes one slot for each of its connects whose steps are all answered positively, as long as
there is one. -/
theorem disconnect_forgets_iff {slots : Nat} (table : paho.FixedTable slots) (id : String)
    (downlinkHandler : Option Nat) (cbArg : Nat) (history : List (Call Up St))
    (o : DisconnectOutcome) (later : List (Call Up St))
    (servedBefore : ∀ call ∈ history, call.Served)
    (servedThen : (.disconnect o : Call Up St).Served)
    (servedLater : ∀ call ∈ later, call.Served) :
    ∃ rcs s, (runCalls protobuf paho (history ++ [.disconnect o])).run
        (State.created id downlinkHandler cbArg : State Dn) = .ok (rcs, s) ∧
      (SameBehaviour protobuf paho later s (State.created id downlinkHandler cbArg) ↔
        min slots (demand paho false history) = 0 ∨
          min slots (demand paho false history) + demand paho false later ≤ slots) := by
  have intact : Intact id (State.created id downlinkHandler cbArg : State Dn) := created_intact ..
  have served : ∀ call ∈ history ++ [.disconnect o], call.Served := by
    intro call member
    rcases List.mem_append.mp member with before | last
    · exact servedBefore call before
    · rw [List.mem_singleton.mp last]
      exact servedThen
  obtain ⟨rcs, s, ran, refined⟩ := run_served protobuf paho intact _ served
  have fresh : View.fresh.handlers = 0 := rfl
  have taken : (View.fresh.after paho history).handlers = min slots (demand paho false history) := by
    rw [View.handlers_after paho table history View.fresh (Nat.zero_le slots), fresh, Nat.zero_add]
    rfl
  have view : s.view = View.fresh.burdened (min slots (demand paho false history)) := by
    have left : s.view = { View.fresh with
        handlers := (View.fresh.after paho history).handlers } := by
      rw [refined.view, created_view, View.after_append]
      rfl
    rw [left, taken]
    unfold View.burdened
    rw [fresh, Nat.zero_add]
  have within : min slots (demand paho false history) ≤ slots := Nat.min_le_left ..
  refine ⟨rcs, s, ran, ?_⟩
  rw [sameBehaviour_iff protobuf paho refined.intact intact later servedLater, view, created_view]
  by_cases empty : min slots (demand paho false history) = 0
  · rw [empty]
    exact iff_of_true ⟨rfl, rfl⟩ (Or.inl rfl)
  · rw [View.burdened_same_iff protobuf paho table empty later View.fresh
      (by rw [fresh, Nat.zero_add]; exact within), fresh, Nat.zero_add]
    exact (or_iff_right empty).symm

/-! ### Five cycles and a sixth connect -/

theorem embeddedPaho_table : embeddedPaho.FixedTable 5 where
  room handlers free := by
    show (if SUCCESS = SUCCESS ∧ 5 ≤ handlers then 1 else SUCCESS) = SUCCESS
    rw [if_neg (by omega)]
  full handlers none := by
    show (if SUCCESS = SUCCESS ∧ 5 ≤ handlers then 1 else SUCCESS) ≠ SUCCESS
    rw [if_pos ⟨rfl, none⟩]
    decide
  refused handlers answer failed := by
    show (if answer = SUCCESS ∧ 5 ≤ handlers then 1 else answer) = answer
    rw [if_neg fun both => failed both.1]

/-- Two connects that are answered positively, with a disconnect between them. -/
def twoCycles : List (Call Bytes Bytes) :=
  [connectCall (some "secret") SUCCESS SUCCESS SUCCESS SUCCESS, disconnectCall SUCCESS SUCCESS,
    connectCall none SUCCESS SUCCESS SUCCESS SUCCESS]

/-- Two of five slots are taken, so a third connect behaves as on a session just created. -/
theorem disconnect_forgets_twice :
    ∃ rcs s, (runCalls wireProtobuf embeddedPaho
        (twoCycles ++ [.disconnect ⟨true, SUCCESS, SUCCESS⟩])).run
          (State.created "gw" (some 7) 42 : State Bytes) = .ok (rcs, s) ∧
      SameBehaviour wireProtobuf embeddedPaho [connectCall none SUCCESS SUCCESS SUCCESS SUCCESS] s
        (State.created "gw" (some 7) 42) := by
  obtain ⟨rcs, s, ran, alike⟩ := disconnect_forgets_iff wireProtobuf embeddedPaho embeddedPaho_table
    "gw" (some 7) 42 twoCycles ⟨true, SUCCESS, SUCCESS⟩
    [connectCall none SUCCESS SUCCESS SUCCESS SUCCESS] (by decide) rfl (by decide)
  exact ⟨rcs, s, ran, alike.mpr (by decide)⟩

/-- Five times a connect that returns `0` and a disconnect. -/
def fiveCycles : List (Call Bytes Bytes) :=
  (List.replicate 5 [connectCall none SUCCESS SUCCESS SUCCESS SUCCESS,
    disconnectCall SUCCESS SUCCESS]).flatten

/-- **The sixth connect.** After five cycles a connect whose steps are all answered positively
returns `1`, where a session just created returns `0`. -/
theorem disconnect_remembers :
    ∃ rcs s, (runCalls wireProtobuf embeddedPaho fiveCycles).run
        (State.created "gw" (some 7) 42 : State Bytes) = .ok (rcs, s) ∧
      ¬ SameBehaviour wireProtobuf embeddedPaho
        [connectCall none SUCCESS SUCCESS SUCCESS SUCCESS] s (State.created "gw" (some 7) 42) := by
  have intact : Intact "gw" (State.created "gw" (some 7) 42 : State Bytes) := created_intact ..
  obtain ⟨rcs, s, ran, refined⟩ := run_served wireProtobuf embeddedPaho intact fiveCycles (by decide)
  refine ⟨rcs, s, ran, fun same => ?_⟩
  obtain ⟨replies, _⟩ := (sameBehaviour_iff wireProtobuf embeddedPaho refined.intact intact _
    (by decide)).mp same
  rw [refined.view, created_view] at replies
  revert replies
  decide

end GatewayConnector
