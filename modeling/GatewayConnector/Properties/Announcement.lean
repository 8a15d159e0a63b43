/-
**Downlinks for a gateway that announced itself.**

`ttngwc_connect` publishes the announcement first and subscribes to `<id>/down` after it. The broker
keeps nothing for a session that has no matching subscription, so a downlink that answers the
announcement reaches the gateway only if the broker reads the SUBSCRIBE before it.

* `subscribed_iff` — an accepted session has its subscription exactly when the SUBSCRIBE of its
  connection is no longer ahead.
* `announced_forwarded_iff` — every interleaving of gateway, broker and router.
* `announced_not_forwarded` — the router answers at once.
-/

import GatewayConnector.Model.Embedded
import GatewayConnector.Proof.Stages

namespace GatewayConnector

open Lib

variable {Up St Dn : Type} (protobuf : Protobuf Up St Dn) (paho : Paho) {id : String}

/-! ### The property and the condition -/

/-- The router had received the announcement of the current session when it published the downlink,
and the connect of the session returns `0`. -/
def Announced (w : World Dn) (downlink : Downlink) : Prop :=
  ∃ connection, w.On connection ∧ connection ∈ downlink.heard ∧ connection ∈ w.accepted

/-- **No downlink is lost**: the broker forwards each one that it reads for an announced session. -/
def Forwards (w : World Dn) : Turn Up St → Unit → World Dn → Prop
  | .readRouter, _, w' => ∀ downlink ∈ w.fromRouter.head?, Announced w downlink →
    w'.toGateway = w.toGateway ++ [downlink.payload]
  | _, _, _ => True

/-- The condition on a step: when the broker reads a downlink for an announced session, the gateway
has issued its SUBSCRIBE and the broker has read it. -/
def InTime (id : String) (w : World Dn) : Turn Up St → Prop
  | .readRouter => ∀ downlink ∈ w.fromRouter.head?, ∀ connection, w.On connection →
    connection ∈ downlink.heard → connection ∈ w.accepted →
      .subscribe (downTopic id) ∉ w.ahead connection
  | _ => True

/-! ### One downlink -/

section Step

variable {w : World Dn}

/-- **The subscription of an accepted session.** -/
theorem subscribed_iff (ordered : Ordered id w) {connection : Nat} (on : w.On connection)
    (accepted : connection ∈ w.accepted) :
    w.Subscribed (downTopic id) ↔ .subscribe (downTopic id) ∉ w.ahead connection := by
  have opening : .subscribe (downTopic id) ∈ w.ahead connection ↔
      .subscribe (downTopic id) ∈ (w.ahead connection).filter Packet.opens := by
    rw [List.mem_filter]
    exact ⟨fun ahead => ⟨ahead, rfl⟩, And.left⟩
  have stage := ordered.stage connection accepted
  obtain ⟨subscriber, found, held⟩ := World.filters_of_on on
  rw [held] at stage
  rw [opening]
  unfold World.Subscribed
  rw [found]
  show downTopic id ∈ subscriber.topicFilters ↔ _
  generalize (w.ahead connection).filter Packet.opens = packets at stage ⊢
  cases stage with
  | connected empty =>
    rw [empty subscriber.topicFilters rfl]
    exact iff_of_false List.not_mem_nil fun passed => passed List.mem_cons_self
  | subscribed own =>
    rw [own subscriber.topicFilters rfl]
    exact iff_of_true List.mem_cons_self List.not_mem_nil

/-- **One downlink** is forwarded exactly when it does not overtake the SUBSCRIBE. -/
theorem forwards_iff (ordered : Ordered id w) :
    Forwards w (.readRouter : Turn Up St) () (w.readRouter id) ↔
      InTime id w (.readRouter : Turn Up St) := by
  show (∀ downlink ∈ w.fromRouter.head?, Announced w downlink →
    (w.readRouter id).toGateway = w.toGateway ++ [downlink.payload]) ↔
      ∀ downlink ∈ w.fromRouter.head?, ∀ connection, w.On connection →
        connection ∈ downlink.heard → connection ∈ w.accepted →
          .subscribe (downTopic id) ∉ w.ahead connection
  refine forall₂_congr fun downlink first => ?_
  obtain ⟨rest, waiting⟩ := List.head?_eq_some_iff.mp first
  have read : (w.readRouter id).toGateway =
      if w.Subscribed (downTopic id) then w.toGateway ++ [downlink.payload] else w.toGateway := by
    unfold World.readRouter
    rw [waiting]
  have forwarded : (w.readRouter id).toGateway = w.toGateway ++ [downlink.payload] ↔
      w.Subscribed (downTopic id) := by
    rw [read]
    by_cases subscribed : w.Subscribed (downTopic id)
    · rw [if_pos subscribed]
      exact iff_of_true rfl subscribed
    · rw [if_neg subscribed]
      refine iff_of_false (fun same => ?_) subscribed
      exact List.cons_ne_nil _ _ (List.self_eq_append_right.mp same)
  rw [forwarded]
  constructor
  · intro forwards connection on heard accepted
    exact (subscribed_iff ordered on accepted).mp (forwards ⟨connection, on, heard, accepted⟩)
  · rintro passed ⟨connection, on, heard, accepted⟩
    exact (subscribed_iff ordered on accepted).mpr (passed connection on heard accepted)

end Step

/-! ### Every interleaving -/

/-- **No downlink lost, over runs.** In a run of calls, with any outcomes, and of steps of the three
parties in any order, every downlink that the broker reads for an announced session, whose connect
returns `0`, is forwarded to the gateway exactly when the SUBSCRIBE of that connect is no longer ahead
of the broker whenever it reads such a downlink. -/
theorem announced_forwarded_iff (id : String) (downlinkHandler : Option Nat) (cbArg : Nat)
    (turns : List (Turn Up St)) (replies : List Unit) (last : World Dn)
    (ran : (runAll (Turn.exec protobuf paho id) turns).run
      (World.start (State.created id downlinkHandler cbArg)) = .ok (replies, last)) :
    Throughout (Turn.exec protobuf paho id) Forwards turns
        (World.start (State.created id downlinkHandler cbArg) : World Dn) ↔
      Along (Turn.exec protobuf paho id) (InTime id) turns
        (World.start (State.created id downlinkHandler cbArg) : World Dn) := by
  refine throughout_iff_along_of_returned (I := Ordered id)
    (fun w turn _ w' ordered returned _ => ordered.exec turn returned)
    (fun w turn _ w' ordered returned => ?_)
    (Ordered.start (created_intact id downlinkHandler cbArg) fun _ absent => nomatch absent) ran
  cases turn with
  | readRouter =>
    cases returned
    exact forwards_iff ordered
  | call made => exact Iff.rfl
  | issue sent => exact Iff.rfl
  | readGateway connection => exact Iff.rfl
  | lose => exact Iff.rfl
  | receive => exact Iff.rfl
  | publish payload => exact Iff.rfl

/-! ### Two schedules -/

/-- A connect up to its announcement, which the router receives and answers. -/
def answeredAtOnce : List (Turn Bytes Bytes) :=
  [.issue true, .readGateway 0, .issue true, .readGateway 0, .receive, .publish []]

/-- The rest of the connect. -/
def subscribing : List (Turn Bytes Bytes) := [.issue true, .readGateway 0]

/-- The parties when the gateway begins a connect in which all steps succeed. -/
def connecting (s : State Bytes) : World Bytes :=
  { World.start s with
    pending := [⟨0, .connect, true⟩,
      ⟨0, .publish connectTopic (wireConnect.pack ⟨"gw", none⟩), true⟩,
      ⟨0, .subscribe (downTopic "gw"), true⟩]
    accepted := [0] }

/-- The connect of both schedules begins. -/
theorem connecting_run :
    ∃ s, (Turn.exec wireProtobuf embeddedPaho "gw"
        (.call (connectCall none SUCCESS SUCCESS SUCCESS SUCCESS))).run
        (World.start (State.created "gw" (some 7) 42)) = .ok ((), connecting s) ∧
      Ordered "gw" (connecting s) := by
  have intact : Intact "gw" (State.created "gw" (some 7) 42 : State Bytes) := created_intact ..
  have ordered : Ordered "gw" (World.start (State.created "gw" (some 7) 42 : State Bytes)) :=
    Ordered.start intact fun _ absent => nomatch absent
  obtain ⟨rc, s, made, one⟩ := exec_served wireProtobuf embeddedPaho intact
    (connectCall none SUCCESS SUCCESS SUCCESS SUCCESS) (connectCall_served ..)
  have ran : (Turn.exec wireProtobuf embeddedPaho "gw" (.call _)).run
      (World.start (State.created "gw" (some 7) 42)) = .ok ((), World.begin _ rc s _) :=
    turn_call_run ⟨rfl, trivial⟩ made
  have accepted : rc = SUCCESS := one.reply
  have events : newEvents (State.created "gw" (some 7) 42) s = _ := newEvents_append one.log
  have held : s.session.network = some 0 := (connect_sockets wireProtobuf embeddedPaho _ _ _ _
    (connect_returned wireProtobuf embeddedPaho _ _ _ _ intact made)).2
  have begun : (World.start (State.created "gw" (some 7) 42)).begin rc s
      (connectCall none SUCCESS SUCCESS SUCCESS SUCCESS) = connecting s := by
    show ({ World.start s with
      pending := script none 0 (newEvents (State.created "gw" (some 7) 42) s)
      accepted := if rc = SUCCESS then [] ++ s.session.network.toList else [] } : World Bytes) = _
    rw [events, if_pos accepted, held]
    rfl
  rw [begun] at ran
  exact ⟨s, ran, ordered.exec _ ran⟩

/-- The broker reads the SUBSCRIBE before the downlink. -/
theorem announced_forwarded_late :
    Throughout (Turn.exec wireProtobuf embeddedPaho "gw") Forwards
      (.call (connectCall none SUCCESS SUCCESS SUCCESS SUCCESS) ::
        (answeredAtOnce ++ subscribing ++ [.readRouter]))
      (World.start (State.created "gw" (some 7) 42)) := by
  obtain ⟨s, begun, _⟩ := connecting_run
  refine (announced_forwarded_iff wireProtobuf embeddedPaho "gw" (some 7) 42 _ _ _
    (runAll_cons _ begun rfl)).mpr ⟨trivial, fun _ w returned => ?_⟩
  rw [begun] at returned
  cases returned
  have ran : (runAll (Turn.exec wireProtobuf embeddedPaho "gw")
      (answeredAtOnce ++ subscribing)).run (connecting s) = .ok (_, _) := rfl
  refine along_append ran (fun turn member w => ?_) ⟨?_, fun _ _ _ => trivial⟩
  · simp only [answeredAtOnce, subscribing, List.cons_append, List.nil_append, List.mem_cons,
      List.not_mem_nil, or_false] at member
    rcases member with rfl | rfl | rfl | rfl | rfl | rfl | rfl | rfl <;> trivial
  · intro downlink first connection on
    obtain rfl : 0 = connection := Option.some.inj on
    intro _ _
    exact List.not_mem_nil

/-- **The lost downlink.** The router receives the announcement and answers, and the broker reads
the answer before the gateway, whose connect returns `0`, has sent its SUBSCRIBE. -/
theorem announced_not_forwarded :
    ¬ Throughout (Turn.exec wireProtobuf embeddedPaho "gw") Forwards
      (.call (connectCall none SUCCESS SUCCESS SUCCESS SUCCESS) ::
        (answeredAtOnce ++ .readRouter :: subscribing))
      (World.start (State.created "gw" (some 7) 42)) := by
  obtain ⟨s, begun, ordered⟩ := connecting_run
  rintro ⟨_, w, returned, _, holds⟩
  rw [begun] at returned
  cases returned
  have ran : (runAll (Turn.exec wireProtobuf embeddedPaho "gw") answeredAtOnce).run
      (connecting s) = .ok (_, _) := rfl
  have orderedThen : Ordered "gw" _ :=
    runAll_invariant (fun _ turn _ _ kept returned => kept.exec turn returned) ordered ran
  obtain ⟨_, _, read, forwards, _⟩ := throughout_rest ran holds
  cases read
  exact (forwards_iff orderedThen).mp forwards ⟨[], [0]⟩ rfl 0 rfl List.mem_cons_self
    List.mem_cons_self List.mem_cons_self

end GatewayConnector
