/-
**No string is released twice, and none is used after its release.**

The strings of a session are released in three places (the block at `exit:`, `ttngwc_disconnect`,
`ttngwc_cleanup`) and replaced in a fourth, and the payloads and topics of the other functions come
and go within a call. A block number is never handed out again, and every access in the model is to
a live block or a fault (`live_of_free`, `live_of_loadStr`, `live_of_loadBytes`,
`live_of_packInto`). So a life of the session that returns is one in which every block passed to
`free` and every string read, packed or passed on was live at that moment.

* `use_intact` — one call or delivery returns and keeps the memory invariant.
* `strings_live` — every life of a session.
-/

import GatewayConnector.Model.Embedded
import GatewayConnector.Proof.Lifetime
import GatewayConnector.Proof.Refinement

namespace GatewayConnector

open Lib

/-! ### The life of a session -/

/-- What can be done with a session between `ttngwc_init` and `ttngwc_cleanup`: a call of the API,
or a delivery to `ttngwc_downlink_cb`. -/
inductive Use (Up St : Type)
  | call (made : Call Up St)
  | delivery (payload : Bytes)
  deriving DecidableEq, Repr

section Life

variable {Up St Dn : Type} (protobuf : Protobuf Up St Dn) (paho : Paho) {id : String}
  {s : State Dn}

def Use.exec : Use Up St → Code Dn Unit
  | .call made => do
    let _ ← made.exec protobuf paho
    pure ()
  | .delivery payload => ttngwcDownlinkCb protobuf payload

/-- `ttngwc_init` with its allocations served, any uses, `ttngwc_cleanup`. -/
def life (id : String) (downlinkHandler : Option Nat) (cbArg : Nat) (uses : List (Use Up St)) :
    Code Dn Unit := do
  let _ ← ttngwcInit id downlinkHandler cbArg .served
  let _ ← runAll (Use.exec protobuf paho) uses
  ttngwcCleanup

/-- The allocations of a use are served. -/
def Use.Served : Use Up St → Prop
  | .call made => made.Served
  | .delivery _ => True

instance Use.decidableServed : (use : Use Up St) → Decidable use.Served
  | .call made => inferInstanceAs (Decidable made.Served)
  | .delivery _ => inferInstanceAs (Decidable True)

/-! ### One use -/

/-- A delivery passes the decoded message to the handler, if there is one, and touches no memory of
the session. -/
theorem delivery_intact (intact : Intact id s) (payload : Bytes) :
    ∃ s', (ttngwcDownlinkCb protobuf payload).run s = .ok ((), s') ∧ Intact id s' := by
  unfold ttngwcDownlinkCb
  cases protobuf.unpackDownlink payload with
  | none => exact ⟨s, rfl, intact⟩
  | some downlink =>
    show ∃ s', (get >>= fun t : State Dn => _ : Code Dn Unit).run s = _ ∧ _
    rw [Exec.bind_ok (Exec.run_getState s)]
    cases s.session.downlinkHandler with
    | none => exact ⟨_, rfl, intact.emit _⟩
    | some function => exact ⟨_, rfl, (intact.emit _).emit _⟩

/-- **One use** of an intact session returns and leaves it intact. -/
theorem use_intact (intact : Intact id s) (use : Use Up St) (served : use.Served) :
    ∃ s', (use.exec protobuf paho).run s = .ok ((), s') ∧ Intact id s' := by
  cases use with
  | call made =>
    obtain ⟨rc, s', returned, refined⟩ := exec_served protobuf paho intact made served
    refine ⟨s', ?_, refined.intact⟩
    show (made.exec protobuf paho >>= fun _ => pure ()).run s = _
    rw [Exec.bind_ok returned]
    rfl
  | delivery payload => exact delivery_intact protobuf intact payload

/-! ### Every life -/

/-- **Every access is to a live block.** A session that is created, used by any calls and deliveries
in any order, with any outcomes but that of an allocation that is refused, and then cleaned up,
never passes a released block to `free`, nor reads, packs or passes on a released string. -/
theorem strings_live (id : String) (downlinkHandler : Option Nat) (cbArg : Nat)
    (uses : List (Use Up St)) (served : ∀ use ∈ uses, use.Served) :
    ∃ s, (life protobuf paho id downlinkHandler cbArg uses).run (State.boot : State Dn) =
      .ok ((), s) := by
  have returns : ∀ (s : State Dn) (use : Use Up St), Intact id s → use.Served →
      ∃ reply s', (use.exec protobuf paho).run s = .ok (reply, s') ∧ Intact id s' :=
    fun s use intact allowed => ⟨(), use_intact protobuf paho intact use allowed⟩
  obtain ⟨replies, last, ran, intact⟩ :=
    runAll_returns returns served (created_intact id downlinkHandler cbArg)
  refine ⟨{ last with heap := last.cleanedHeap }, ?_⟩
  unfold life
  rw [Exec.bind_ok (init_served id downlinkHandler cbArg), Exec.bind_ok ran]
  exact cleanup_intact intact

end Life

/-- A disconnect before any connect, a connect while connected, a connect that fails, a downlink,
and two disconnects in a row. -/
theorem strings_live_misused :
    ∃ s, (life wireProtobuf embeddedPaho "gw" (some 7) 42
      [.call (disconnectCall FAILURE FAILURE),
        .call (connectCall (some "secret") SUCCESS SUCCESS SUCCESS SUCCESS), .delivery [],
        .call (connectCall (some "other") SUCCESS SUCCESS SUCCESS SUCCESS),
        .call (connectCall none FAILURE SUCCESS SUCCESS SUCCESS),
        .call (disconnectCall SUCCESS SUCCESS), .call (disconnectCall SUCCESS SUCCESS)]).run
      (State.boot : State Bytes) = .ok ((), s) :=
  strings_live wireProtobuf embeddedPaho "gw" (some 7) 42 _ (by decide)

end GatewayConnector
