/-
**How often a gateway can connect.**

`ttngwc_disconnect` does not unsubscribe, so every connect that returned `0` keeps a slot of the
handler table for as long as the session lives. A session connects as often as the table has slots,
however it disconnects in between, and never again.

* `accepted_eq` — the connects that return `0`, counted by the view.
* `connects_bounded` — every run whose allocations are served.
-/

import GatewayConnector.Properties.History

namespace GatewayConnector

open Lib

variable {Up St Dn : Type} (protobuf : Protobuf Up St Dn) (paho : Paho)

/-- The call is a connect. -/
def Call.connects : Call Up St → Bool
  | .connect _ _ _ _ => true
  | _ => false

/-- How many connects of a run returned `0`. -/
def acceptedConnects (calls : List (Call Up St)) (rcs : List Int) : Nat :=
  (calls.zip rcs).countP fun pair => pair.1.connects && pair.2 == SUCCESS

namespace View

variable {paho} {v : View}

/-- A call registers an entry exactly if it is a connect that returns `0`. -/
theorem registers_next (call : Call Up St) :
    (v.next paho call).handlers =
      v.handlers + if (call.connects && v.reply paho call == SUCCESS) = true then 1 else 0 := by
  cases call with
  | connect host port key o =>
    have reply : ((Call.connect host port key o : Call Up St).connects &&
        v.reply paho (.connect host port key o : Call Up St) == SUCCESS) = true ↔
          v.connectReply paho o = SUCCESS := beq_iff_eq
    simp only [reply]
    exact connect_handlers paho key o
  | disconnect o => rfl
  | sendUplink uplink o => rfl
  | sendStatus status o => rfl

/-- **The connects that return `0`** are the entries of the table. -/
theorem accepted_eq (calls : List (Call Up St)) (v : View) :
    (v.after paho calls).handlers =
      v.handlers + acceptedConnects calls (v.replies paho calls) := by
  induction calls generalizing v with
  | nil => rfl
  | cons call rest ih =>
    have accepted : acceptedConnects (call :: rest) (v.replies paho (call :: rest)) =
        acceptedConnects rest ((v.next paho call).replies paho rest) +
          if (call.connects && v.reply paho call == SUCCESS) = true then 1 else 0 :=
      List.countP_cons
    show ((v.next paho call).after paho rest).handlers = _
    rw [ih, registers_next, accepted]
    omega

end View

/-- **How often a session connects.** In every run of calls after `ttngwc_init`, with their
allocations served and with any outcomes, with an MQTT client whose handler table has `slots` slots,
the connects that return `0` are as many as those whose steps are answered positively, but at most
`slots`; the others fail, and all slots that were taken stay taken. -/
theorem connects_bounded {slots : Nat} (table : paho.FixedTable slots) (id : String)
    (downlinkHandler : Option Nat) (cbArg : Nat) (calls : List (Call Up St))
    (served : ∀ call ∈ calls, call.Served) :
    ∃ rcs last, (runCalls protobuf paho calls).run
        (State.created id downlinkHandler cbArg : State Dn) = .ok (rcs, last) ∧
      acceptedConnects calls rcs = min slots (demand paho false calls) ∧
      last.session.client.messageHandlers.length = acceptedConnects calls rcs := by
  have intact : Intact id (State.created id downlinkHandler cbArg : State Dn) := created_intact ..
  obtain ⟨rcs, last, ran, refined⟩ := run_served protobuf paho intact calls served
  have view : (State.created id downlinkHandler cbArg : State Dn).view = View.fresh := created_view ..
  have fresh : View.fresh.handlers = 0 := rfl
  have left : (View.fresh.after paho calls).handlers =
      View.fresh.handlers + acceptedConnects calls (View.fresh.replies paho calls) :=
    View.accepted_eq calls View.fresh
  have taken := View.handlers_after paho table calls View.fresh (Nat.zero_le slots)
  rw [fresh, Nat.zero_add] at left taken
  refine ⟨rcs, last, ran, ?_, ?_⟩
  · rw [refined.replies, view, ← left]
    exact taken
  · show last.view.handlers = _
    rw [refined.view, refined.replies, view]
    exact left

/-- Five connects, each followed by a disconnect, return `0`, and a sixth does not. -/
theorem connects_bounded_sixth :
    ∃ rcs last, (runCalls wireProtobuf embeddedPaho
        (fiveCycles ++ [connectCall none SUCCESS SUCCESS SUCCESS SUCCESS])).run
        (State.created "gw" (some 7) 42 : State Bytes) = .ok (rcs, last) ∧
      acceptedConnects (fiveCycles ++ [connectCall none SUCCESS SUCCESS SUCCESS SUCCESS]) rcs = 5 ∧
      last.session.client.messageHandlers.length = 5 := by
  obtain ⟨rcs, last, ran, counted, left⟩ := connects_bounded wireProtobuf embeddedPaho
    embeddedPaho_table "gw" (some 7) 42
    (fiveCycles ++ [connectCall none SUCCESS SUCCESS SUCCESS SUCCESS]) (by decide)
  have five : acceptedConnects _ rcs = 5 := counted
  exact ⟨rcs, last, ran, five, left.trans five⟩

end GatewayConnector
