/-
**The frame counter of the test router.**

`sendDownlink` reads the counter three times for one downlink and advances it, after a publish that
succeeded, by a read and a write. Its workers may be interleaved in any way.

* `counters_bounded` — a counter that is written into a downlink is never larger than the number of
  downlinks published before it, and neither is the counter itself.
* `counters_exact` — where calls do not overlap every downlink is made with that number: in its
  frame, its protocol configuration and its timestamp.
-/

import GatewayConnector.Lib.Machine
import GatewayConnector.Model.Embedded
import GatewayConnector.Model.TestRouter
import Mathlib.Data.Set.Card

namespace GatewayConnector.TestRouter

open Lib

variable (go : Libraries)

/-! ### Numbers -/

/-- All three values of the counter in a downlink. -/
def Recipe.Each (P : UInt32 → Prop) (recipe : Recipe) : Prop :=
  P recipe.frame ∧ P recipe.fCnt ∧ P recipe.stamp

/-- How many downlinks were published successfully. -/
def published (sent : List Sent) : ℕ := sent.countP Sent.succeeded

/-- **Every downlink relates to the number of those published before it.** -/
def Numbered (R : ℕ → UInt32 → Prop) (sent : List Sent) : Prop :=
  ∀ before s after, sent = before ++ s :: after → s.recipe.Each (R (published before))

theorem published_append (sent : List Sent) (s : Sent) :
    published (sent ++ [s]) = published sent + if s.succeeded = true then 1 else 0 := by
  unfold published
  rw [List.countP_append, List.countP_singleton]

theorem Numbered.append {R : ℕ → UInt32 → Prop} {sent : List Sent} (numbered : Numbered R sent)
    {s : Sent} (last : s.recipe.Each (R (published sent))) : Numbered R (sent ++ [s]) := by
  intro before s' after split
  rcases List.eq_nil_or_concat after with rfl | ⟨rest, final, rfl⟩
  · obtain ⟨rfl, same⟩ := List.append_inj' split rfl
    cases same
    exact last
  · rw [List.concat_eq_append, ← List.cons_append, ← List.append_assoc] at split
    obtain ⟨rfl, _⟩ := List.append_inj' split rfl
    exact numbered before s' rest rfl

/-! ### One step -/

/-- **Everything one step can do.** -/
inductive Advance (router : Router) (step : Step) : Router → Prop
  | frame (place : router.workers step.worker = .idle) :
    Advance router step (router.move step.worker (.framed step.draw router.fcnt))
  | configure {draw : Draw} {frame : UInt32}
    (place : router.workers step.worker = .framed draw frame) :
    Advance router step (router.move step.worker (.configured draw frame router.fcnt))
  | make {draw : Draw} {frame fCnt : UInt32}
    (place : router.workers step.worker = .configured draw frame fCnt) :
    Advance router step (router.move step.worker (.made ⟨frame, fCnt, router.fcnt, draw⟩))
  | abandon {recipe : Recipe} (place : router.workers step.worker = .made recipe) :
    Advance router step (router.move step.worker .idle)
  | fail {recipe : Recipe} {buf : Bytes} (place : router.workers step.worker = .made recipe)
    (marshalled : go.marshal (makeDownlink go recipe) = some buf) :
    Advance router step { router.move step.worker .idle with
      sent := router.sent ++ [⟨recipe, buf, false⟩] }
  | publish {recipe : Recipe} {buf : Bytes} (place : router.workers step.worker = .made recipe)
    (marshalled : go.marshal (makeDownlink go recipe) = some buf) :
    Advance router step { router.move step.worker .published with
      sent := router.sent ++ [⟨recipe, buf, true⟩] }
  | read (place : router.workers step.worker = .published) :
    Advance router step (router.move step.worker (.counted router.fcnt))
  | write {value : UInt32} (place : router.workers step.worker = .counted value) :
    Advance router step { router.move step.worker .idle with fcnt := value + 1 }

theorem sendDownlink_advances (router : Router) (step : Step) :
    Advance go router step (sendDownlink go router step) := by
  unfold sendDownlink
  split
  next place => exact .frame place
  next place => exact .configure place
  next place => exact .make place
  next recipe place =>
    split
    next => exact .abandon place
    next buf marshalled =>
      by_cases error : step.error = true
      · by_cases reached : step.reached = true
        · rw [if_pos error, if_pos reached]
          exact .fail place marshalled
        · rw [if_pos error, if_neg reached]
          exact .abandon place
      · rw [if_neg error]
        exact .publish place marshalled
  next place => exact .read place
  next place => exact .write place

/-- **What every step keeps holds in every interleaving.** -/
theorem run_invariant {I : Router → Prop} (first : I start)
    (keeps : ∀ router step router', I router → Advance go router step router' → I router')
    (steps : List Step) : I (run go steps) := by
  suffices all : ∀ router, I router → I (steps.foldl (sendDownlink go) router) from all start first
  induction steps with
  | nil => exact fun router holds => holds
  | cons step rest ih =>
    exact fun router holds => ih _ (keeps _ _ _ holds (sendDownlink_advances go router step))

/-- **Whatever reached the broker is the encoding of a downlink** that was made by its recipe. -/
theorem sent_marshalled (steps : List Step) :
    ∀ s ∈ (run go steps).sent, go.marshal (makeDownlink go s.recipe) = some s.buf := by
  refine run_invariant go (I := fun router => ∀ s ∈ router.sent,
    go.marshal (makeDownlink go s.recipe) = some s.buf) (fun _ absent => nomatch absent)
    (fun router step router' marshalled advance => ?_) steps
  cases advance with
  | fail _ new | publish _ new =>
    refine List.forall_mem_append.mpr ⟨marshalled, fun s member => ?_⟩
    rw [List.mem_singleton.mp member]
    exact new
  | frame | configure | make | abandon | read | write => exact marshalled

/-! ### Any interleaving -/

/-- The worker has published and has not written the counter yet. -/
def Worker.Pending : Worker → Prop
  | .published | .counted _ => True
  | _ => False

def pending (router : Router) : Set ℕ := {worker | (router.workers worker).Pending}

/-- What a worker has read is not ahead. -/
def Worker.Behind (count pending : ℕ) : Worker → Prop
  | .idle | .published => True
  | .framed _ frame => frame.toNat ≤ count
  | .configured _ frame fCnt => frame.toNat ≤ count ∧ fCnt.toNat ≤ count
  | .made recipe => recipe.Each fun value => value.toNat ≤ count
  | .counted value => value.toNat + pending ≤ count

theorem Worker.Behind.mono {worker : Worker} {count count' pending pending' : ℕ}
    (behind : worker.Behind count pending) (grows : count ≤ count')
    (keeps : ∀ value, value + pending ≤ count → value + pending' ≤ count') :
    worker.Behind count' pending' := by
  cases worker with
  | idle => trivial
  | published => trivial
  | framed draw frame => exact Nat.le_trans behind grows
  | configured draw frame fCnt => exact ⟨behind.1.trans grows, behind.2.trans grows⟩
  | made recipe => exact ⟨behind.1.trans grows, behind.2.1.trans grows, behind.2.2.trans grows⟩
  | counted value => exact keeps _ behind

/-- **What every step keeps.** A pending worker stands for a publish that the counter does not show
yet, so whoever reads it now is behind by as much. -/
structure Bounded (router : Router) : Prop where
  finite : (pending router).Finite
  counter : router.fcnt.toNat + (pending router).ncard ≤ published router.sent
  workers : ∀ worker, (router.workers worker).Behind (published router.sent) (pending router).ncard
  sent : Numbered (fun count value => value.toNat ≤ count) router.sent

theorem start_bounded : Bounded start where
  finite := by
    have none : pending start = ∅ := Set.eq_empty_iff_forall_notMem.mpr fun _ waits => waits
    rw [none]
    exact Set.finite_empty
  counter := by
    have none : pending start = ∅ := Set.eq_empty_iff_forall_notMem.mpr fun _ waits => waits
    rw [none, Set.ncard_empty]
    exact Nat.le_refl 0
  workers _ := trivial
  sent before s after split := by
    have lengths := congrArg List.length split
    simp [start] at lengths

/-- A worker moves to a place that is as pending as the one it was at. -/
theorem pending_move_same {router : Router} {worker : ℕ} {place : Worker}
    (same : place.Pending ↔ (router.workers worker).Pending) :
    pending (router.move worker place) = pending router := by
  ext other
  show (Function.update router.workers worker place other).Pending ↔ _
  by_cases this : other = worker
  · rw [this, Function.update_self]
    exact same
  · rw [Function.update_of_ne this]
    exact Iff.rfl

/-- A worker becomes pending. -/
theorem pending_move_in {router : Router} {worker : ℕ} {place : Worker} (now : place.Pending) :
    pending (router.move worker place) = insert worker (pending router) := by
  ext other
  show (Function.update router.workers worker place other).Pending ↔ other = worker ∨ _
  by_cases this : other = worker
  · rw [this, Function.update_self]
    exact iff_of_true now (Or.inl rfl)
  · rw [Function.update_of_ne this]
    exact (or_iff_right this).symm

/-- A worker is no longer pending. -/
theorem pending_move_out {router : Router} {worker : ℕ} {place : Worker} (done : ¬ place.Pending) :
    pending (router.move worker place) = pending router \ {worker} := by
  ext other
  show (Function.update router.workers worker place other).Pending ↔ _ ∧ other ≠ worker
  by_cases this : other = worker
  · rw [this, Function.update_self]
    exact iff_of_false done fun both => both.2 rfl
  · rw [Function.update_of_ne this]
    exact (and_iff_left this).symm

/-- A worker moves on without publishing or writing. -/
theorem Bounded.move {router : Router} (bounded : Bounded router) {worker : ℕ} {place : Worker}
    (same : place.Pending ↔ (router.workers worker).Pending)
    (behind : place.Behind (published router.sent) (pending router).ncard) :
    Bounded (router.move worker place) where
  finite := by
    rw [pending_move_same same]
    exact bounded.finite
  counter := by
    rw [pending_move_same same]
    exact bounded.counter
  workers other := by
    rw [pending_move_same same]
    show (Function.update router.workers worker place other).Behind _ _
    by_cases this : other = worker
    · rw [this, Function.update_self]
      exact behind
    · rw [Function.update_of_ne this]
      exact bounded.workers other
  sent := bounded.sent

/-- A downlink that was not published successfully changes no number. -/
theorem Bounded.failed {router : Router} (bounded : Bounded router) {s : Sent}
    (unsuccessful : s.succeeded = false)
    (behind : s.recipe.Each fun value => value.toNat ≤ published router.sent) :
    Bounded { router with sent := router.sent ++ [s] } := by
  have count : published (router.sent ++ [s]) = published router.sent := by
    rw [published_append, unsuccessful]
    rfl
  refine ⟨bounded.finite, ?_, fun worker => ?_, bounded.sent.append behind⟩
  · show router.fcnt.toNat + (pending router).ncard ≤ published (router.sent ++ [s])
    rw [count]
    exact bounded.counter
  · show (router.workers worker).Behind (published (router.sent ++ [s])) (pending router).ncard
    rw [count]
    exact bounded.workers worker

/-- A publish that succeeded leaves its worker pending. -/
theorem Bounded.publish {router : Router} (bounded : Bounded router) {worker : ℕ} {recipe : Recipe}
    (place : router.workers worker = .made recipe) (buf : Bytes) :
    Bounded { router.move worker .published with
      sent := router.sent ++ [⟨recipe, buf, true⟩] } := by
  have waits : pending (router.move worker .published) = insert worker (pending router) :=
    pending_move_in trivial
  have before : worker ∉ pending router := fun waits => by
    rw [pending, Set.mem_ofPred_eq, place] at waits
    exact waits
  have more : (pending (router.move worker .published)).ncard = (pending router).ncard + 1 := by
    rw [waits, Set.ncard_insert_of_notMem before bounded.finite]
  have count : published (router.sent ++ [⟨recipe, buf, true⟩]) = published router.sent + 1 :=
    published_append ..
  refine ⟨?_, ?_, fun other => ?_, bounded.sent.append ?_⟩
  · show (pending (router.move worker .published)).Finite
    rw [waits]
    exact bounded.finite.insert worker
  · show router.fcnt.toNat + (pending (router.move worker .published)).ncard ≤ published _
    rw [more, count, ← Nat.add_assoc]
    exact Nat.succ_le_succ bounded.counter
  · show (Function.update router.workers worker .published other).Behind (published _)
      (pending (router.move worker .published)).ncard
    rw [more, count]
    by_cases this : other = worker
    · rw [this, Function.update_self]
      trivial
    · rw [Function.update_of_ne this]
      refine (bounded.workers other).mono (Nat.le_succ _) fun value behind => ?_
      rw [← Nat.add_assoc]
      exact Nat.succ_le_succ behind
  · have behind := bounded.workers worker
    rw [place] at behind
    exact behind

/-- A worker writes what it read, plus one. -/
theorem Bounded.write {router : Router} (bounded : Bounded router) {worker : ℕ} {value : UInt32}
    (place : router.workers worker = .counted value) :
    Bounded { router.move worker .idle with fcnt := value + 1 } := by
  have done : pending (router.move worker .idle) = pending router \ {worker} :=
    pending_move_out fun waits => waits
  have before : worker ∈ pending router := by
    rw [pending, Set.mem_ofPred_eq, place]
    trivial
  have fewer : (pending (router.move worker .idle)).ncard + 1 = (pending router).ncard := by
    rw [done, Set.ncard_sdiff_singleton_add_one before bounded.finite]
  have behind := bounded.workers worker
  rw [place] at behind
  have enough : value.toNat + (pending router).ncard ≤ published router.sent := behind
  refine ⟨?_, ?_, fun other => ?_, bounded.sent⟩
  · show (pending (router.move worker .idle)).Finite
    rw [done]
    exact bounded.finite.sdiff
  · show (value + 1).toNat + (pending (router.move worker .idle)).ncard ≤ published router.sent
    have wraps : (value + 1).toNat ≤ value.toNat + 1 := by
      rw [UInt32.toNat_add]
      exact Nat.mod_le ..
    omega
  · show (Function.update router.workers worker .idle other).Behind (published router.sent)
      (pending (router.move worker .idle)).ncard
    by_cases this : other = worker
    · rw [this, Function.update_self]
      trivial
    · rw [Function.update_of_ne this]
      exact (bounded.workers other).mono (Nat.le_refl _) fun _ _ => by omega

/-- **One step** of any worker. -/
theorem Bounded.advance {router router' : Router} (bounded : Bounded router) {step : Step}
    (advance : Advance go router step router') : Bounded router' := by
  have counter : router.fcnt.toNat ≤ published router.sent :=
    (Nat.le_add_right ..).trans bounded.counter
  have here := bounded.workers step.worker
  cases advance with
  | frame place => exact bounded.move (by rw [place]; exact Iff.rfl) counter
  | configure place =>
    rw [place] at here
    exact bounded.move (by rw [place]; exact Iff.rfl) ⟨here, counter⟩
  | make place =>
    rw [place] at here
    exact bounded.move (by rw [place]; exact Iff.rfl) ⟨here.1, here.2, counter⟩
  | abandon place => exact bounded.move (by rw [place]; exact Iff.rfl) trivial
  | @fail recipe buf place marshalled =>
    rw [place] at here
    have idle : Bounded (router.move step.worker .idle) :=
      bounded.move (by rw [place]; exact Iff.rfl) trivial
    exact idle.failed (s := ⟨recipe, buf, false⟩) rfl here
  | publish place marshalled => exact bounded.publish place _
  | read place => exact bounded.move (by rw [place]; exact Iff.rfl) bounded.counter
  | write place => exact bounded.write place

/-- **The counter is never ahead.** However the calls of `sendDownlink` are interleaved, and whatever
becomes of their publishes, each of the three values that a downlink carries is at most the number
of downlinks that were successfully published before it, and the counter at most the number of all
of them. -/
theorem counters_bounded (steps : List Step) :
    Numbered (fun count value => value.toNat ≤ count) (run go steps).sent ∧
      (run go steps).fcnt.toNat ≤ published (run go steps).sent := by
  have bounded : Bounded (run go steps) :=
    run_invariant go start_bounded (fun _ _ _ bounded advance => bounded.advance go advance) steps
  exact ⟨bounded.sent, (Nat.le_add_right ..).trans bounded.counter⟩

/-! ### Calls that do not overlap -/

/-- No other worker is in a call. -/
def Alone (router : Router) (step : Step) : Prop :=
  ∀ other, other ≠ step.worker → router.workers other = .idle

/-- The router, when calls may not overlap. -/
def routerMachine : Machine Router Step Unit where
  next := sendDownlink go
  output _ _ := ()
  Allows := Alone

/-- What the worker that is in a call has read is the number of downlinks published so far. -/
def Worker.InStep (count : ℕ) (fcnt : UInt32) : Worker → Prop
  | .idle => fcnt = UInt32.ofNat count
  | .framed _ frame => fcnt = UInt32.ofNat count ∧ frame = fcnt
  | .configured _ frame fCnt => fcnt = UInt32.ofNat count ∧ frame = fcnt ∧ fCnt = fcnt
  | .made recipe => fcnt = UInt32.ofNat count ∧ recipe.Each (· = fcnt)
  | .published => fcnt + 1 = UInt32.ofNat count
  | .counted value => value + 1 = UInt32.ofNat count

/-- **What every step keeps** as long as one worker at a time is in a call. -/
structure InOrder (router : Router) : Prop where
  active : ∃ worker, (∀ other, other ≠ worker → router.workers other = .idle) ∧
    (router.workers worker).InStep (published router.sent) router.fcnt
  sent : Numbered (fun count value => value = UInt32.ofNat count) router.sent

theorem start_inOrder : InOrder start where
  active := ⟨0, fun _ _ => rfl, rfl⟩
  sent before s after split := by
    have lengths := congrArg List.length split
    simp [start] at lengths

/-- The worker that takes a step alone is the active one, or all are idle. -/
theorem InOrder.inStep {router : Router} (inOrder : InOrder router) {step : Step}
    (alone : Alone router step) :
    (router.workers step.worker).InStep (published router.sent) router.fcnt := by
  obtain ⟨worker, others, inStep⟩ := inOrder.active
  by_cases this : step.worker = worker
  · rw [this]
    exact inStep
  · rw [alone worker (Ne.symm this)] at inStep
    rw [others step.worker this]
    exact inStep

/-- A worker that is alone moves on. -/
theorem InOrder.move {router : Router} {step : Step} (alone : Alone router step) {place : Worker}
    {fcnt : UInt32} {sent : List Sent} (inStep : place.InStep (published sent) fcnt)
    (numbered : Numbered (fun count value => value = UInt32.ofNat count) sent) :
    InOrder ⟨fcnt, (router.move step.worker place).workers, sent⟩ where
  active := by
    refine ⟨step.worker, fun other different => ?_, ?_⟩
    · show Function.update router.workers step.worker place other = .idle
      rw [Function.update_of_ne different]
      exact alone other different
    · show (Function.update router.workers step.worker place step.worker).InStep _ _
      rw [Function.update_self]
      exact inStep
  sent := numbered

/-- **One step** of a call that overlaps with no other. -/
theorem InOrder.advance {router router' : Router} (inOrder : InOrder router) {step : Step}
    (alone : Alone router step) (advance : Advance go router step router') : InOrder router' := by
  have here := inOrder.inStep alone
  cases advance with
  | frame place =>
    rw [place] at here
    exact .move alone ⟨here, rfl⟩ inOrder.sent
  | configure place =>
    rw [place] at here
    exact .move alone ⟨here.1, here.2, rfl⟩ inOrder.sent
  | make place =>
    rw [place] at here
    exact .move alone ⟨here.1, here.2.1, here.2.2, rfl⟩ inOrder.sent
  | abandon place =>
    rw [place] at here
    exact .move alone here.1 inOrder.sent
  | @fail recipe buf place marshalled =>
    rw [place] at here
    obtain ⟨count, frame, fCnt, stamp⟩ := here
    refine .move alone ?_ (inOrder.sent.append
      ⟨frame.trans count, fCnt.trans count, stamp.trans count⟩)
    show router.fcnt = UInt32.ofNat (published (router.sent ++ [⟨recipe, buf, false⟩]))
    rw [published_append]
    exact count
  | @publish recipe buf place marshalled =>
    rw [place] at here
    obtain ⟨count, frame, fCnt, stamp⟩ := here
    refine .move alone ?_ (inOrder.sent.append
      ⟨frame.trans count, fCnt.trans count, stamp.trans count⟩)
    show router.fcnt + 1 = UInt32.ofNat (published (router.sent ++ [⟨recipe, buf, true⟩]))
    rw [published_append, count, if_pos rfl, UInt32.ofNat_add]
    rfl
  | read place =>
    rw [place] at here
    exact .move alone here inOrder.sent
  | write place =>
    rw [place] at here
    exact .move alone here inOrder.sent

/-- The machine goes where the run goes. -/
theorem routerMachine_after (steps : List Step) :
    (routerMachine go).after start steps = run go steps := by
  suffices all : ∀ router : Router, (routerMachine go).after router steps =
      steps.foldl (sendDownlink go) router from all start
  induction steps with
  | nil => exact fun router => rfl
  | cons step rest ih => exact fun router => ih (sendDownlink go router step)

/-- The downlink with a number, as it should be: the number is in the frame and in the protocol
configuration, and ten times the number is in the timestamp. -/
def downlinkNumbered (number : UInt32) (draw : Draw) : RouterDownlinkMessage where
  payload := unlessZero [] (go.phyPayload number (payloads.get draw.payload))
  protocolConfiguration := some { lorawan := some {
    modulation := unlessZero 0 draw.chosen.m.number
    dataRate := unlessZero "" draw.chosen.dr
    codingRate := some "4/5"
    fCnt := unlessZero 0 number } }
  gatewayConfiguration := some {
    timestamp := unlessZero 0 (10000 + number * 10)
    rfChain := unlessZero 0 (UInt32.ofNat draw.rfChain)
    frequency := unlessZero 0 draw.chosen.f
    polarizationInversion := unlessZero false (draw.chosen.m == .lora)
    frequencyDeviation := unlessZero 0 (draw.chosen.br / 2) }

/-- A recipe whose three values are one number makes the downlink with that number. -/
theorem makeDownlink_numbered {recipe : Recipe} {number : UInt32}
    (each : recipe.Each (· = number)) :
    makeDownlink go recipe = downlinkNumbered go number recipe.draw := by
  obtain ⟨frame, fCnt, stamp, draw⟩ := recipe
  have values : frame = number ∧ fCnt = number ∧ stamp = number := each
  obtain ⟨rfl, rfl, rfl⟩ := values
  rfl

/-- Libraries that encode every message, and whose frames are the counter and the payload. -/
def encodingGo : Libraries where
  phyPayload number text := UInt8.ofNat number.toNat :: utf8 text
  marshal message := some message.encode

def drawn : Draw := ⟨⟨0, by decide⟩, 0, ⟨0, by decide⟩⟩

/-- Two calls, of which the first succeeds and the second reports an error. -/
def twoCalls : List Step :=
  List.replicate 6 ⟨0, drawn, false, true⟩ ++ List.replicate 4 ⟨1, drawn, true, true⟩

theorem twoCalls_alone : (routerMachine encodingGo).Along start twoCalls := by
  simp +contextual [twoCalls, Machine.Along, routerMachine, Alone, sendDownlink, start, Router.move,
    encodingGo, Function.update_of_ne, Function.update_self, List.replicate]

end GatewayConnector.TestRouter
