/-
**Which messages are lost on a platform where `malloc(0)` returns NULL.**

Both sends take a NULL payload for exhausted memory. So on such a platform they drop the messages
whose encoding is empty, and pass on all others.

* `send_null_at_zero` — one send.
* `empty_lost` — any sequence of sends on the sessions of a process.
-/

import GatewayConnector.Properties.Sends

namespace GatewayConnector

open Lib

variable {Up St Dn : Type} (protobuf : Protobuf Up St Dn) (paho : Paho) {p : Process Dn}

/-- Every allocation is served but `malloc(0)`. -/
def Send.NullAtZero (send : Send Up St) : Prop :=
  send.outcome.topic = true ∧ (send.outcome.payload = true ↔ send.packedSize protobuf ≠ 0)

instance (send : Send Up St) : Decidable (send.NullAtZero protobuf) :=
  inferInstanceAs (Decidable (_ ∧ (_ ↔ _)))

/-- What one send logs when it returns `rc`. -/
def Send.logs (ids : Nat → String) (send : Send Up St) (rc : Int) : List (Event Dn) :=
  if send.packedSize protobuf = 0 then [] else [send.event protobuf (ids send.session) rc]

/-- **One send**: a message with an empty encoding is dropped with `FAILURE`, any other is
published. -/
theorem send_null_at_zero (send : Send Up St) (ids : Nat → String)
    (intact : Intact (ids send.session) (p.state send.session))
    (platform : send.NullAtZero protobuf) :
    ∃ rc p', (send.exec protobuf paho).run p = .ok (rc, p') ∧ p'.slots = p.slots ∧
      p'.heap.cell = p.heap.cell ∧ (send.packedSize protobuf = 0 → rc = FAILURE) ∧
      p'.log = p.log ++ send.logs protobuf ids rc := by
  obtain ⟨topic, payload⟩ := platform
  unfold Send.logs
  by_cases empty : send.packedSize protobuf = 0
  · have refused : send.outcome.payload = false :=
      Bool.eq_false_iff.mpr fun got => payload.mp got empty
    obtain ⟨p', returned, log, sessions, memory⟩ := send_dropped protobuf paho send intact refused
    refine ⟨FAILURE, p', returned, sessions, memory, fun _ => rfl, ?_⟩
    rw [log, if_pos empty, List.append_nil]
  · obtain ⟨rc, p', returned, log, sessions, memory⟩ :=
      send_published protobuf paho send intact topic (payload.mpr empty)
    refine ⟨rc, p', returned, sessions, memory, fun also => absurd also empty, ?_⟩
    rw [log, if_neg empty]

/-- **The messages that are lost.** In a process reached by any requests, on a platform whose
`malloc(0)` returns NULL and that is never short of memory, any sequence of sends returns; those
whose message has an empty encoding return `FAILURE`, and the calls of `MQTTPublish` are those of the
others, in order and with the results that these return. -/
theorem empty_lost (requests : List (Request Up St)) (replies : List (Option Int))
    (reached : (runAll (Request.exec protobuf paho) requests).run Process.boot = .ok (replies, p))
    (ids : Nat → String) (sends : List (Send Up St))
    (named : ∀ send ∈ sends, (p.slots send.session).id = some (ids send.session))
    (platform : ∀ send ∈ sends, send.NullAtZero protobuf) :
    ∃ rcs last, (runAll (Send.exec protobuf paho) sends).run p = .ok (rcs, last) ∧
      (∀ pair ∈ sends.zip rcs, pair.1.packedSize protobuf = 0 → pair.2 = FAILURE) ∧
      last.log = p.log ++ (List.zipWith (Send.logs protobuf ids) sends rcs).flatten ∧
      last.slots = p.slots ∧ last.heap.cell = p.heap.cell := by
  have separate := requests_separate protobuf paho reached
  clear reached
  induction sends generalizing p with
  | nil => exact ⟨[], p, rfl, List.forall_mem_nil _, (List.append_nil _).symm, rfl, rfl⟩
  | cons send rest ih =>
    have intact := (separate.holds send.session).intact (named send List.mem_cons_self)
    obtain ⟨rc, q, returned, sessions, memory, failed, log⟩ :=
      send_null_at_zero protobuf paho send ids intact (platform send List.mem_cons_self)
    have namedThen : ∀ other ∈ rest, (q.slots other.session).id = some (ids other.session) := by
      rw [sessions]
      exact fun other member => named other (List.mem_cons_of_mem _ member)
    obtain ⟨rcs, last, ran, later, grown, sessionsThen, memoryThen⟩ := ih namedThen
      (fun other member => platform other (List.mem_cons_of_mem _ member))
      (send_separate protobuf paho separate send returned)
    refine ⟨rc :: rcs, last, runAll_cons _ returned ran, ?_, ?_, sessionsThen.trans sessions,
      memoryThen.trans memory⟩
    · rw [List.zip_cons_cons, List.forall_mem_cons]
      exact ⟨failed, later⟩
    · rw [grown, log, List.append_assoc]
      rfl

/-- An empty uplink on one session and an empty status on the other are lost, and what is sent between
them is not. -/
def partlyEmpty : List (Send Bytes Bytes) :=
  [.uplink 0 [] ⟨false, true, SUCCESS⟩, .status 1 [8, 1] ⟨true, true, SUCCESS⟩,
    .uplink 0 [1, 2] ⟨true, true, SUCCESS⟩, .status 1 [] ⟨false, true, SUCCESS⟩]

theorem empty_lost_partly :
    ∃ p : Process Bytes, (runAll (Request.exec wireProtobuf embeddedPaho) twoGateways).run
        Process.boot = .ok ([none, none, some SUCCESS], p) ∧
      ∃ rcs last, (runAll (Send.exec wireProtobuf embeddedPaho) partlyEmpty).run p =
          .ok (rcs, last) ∧
        last.log = p.log ++ (List.zipWith (Send.logs wireProtobuf
          fun session => if session = 0 then "gw" else "other") partlyEmpty rcs).flatten := by
  obtain ⟨p, ran, first, second⟩ := twoGateways_run
  obtain ⟨rcs, last, sent, _, log, _⟩ := empty_lost wireProtobuf embeddedPaho twoGateways _ ran
    (fun session => if session = 0 then "gw" else "other") partlyEmpty
    (by simp [partlyEmpty, Send.session, first, second]) (by decide)
  exact ⟨p, ran, rcs, last, sent, log⟩

end GatewayConnector
