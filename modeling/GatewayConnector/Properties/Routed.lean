/-
**The test program with the test router.**

The router draws a configuration for every downlink. One of them is for FSK and has no data rate, and
what is empty is not encoded, so the program finds NULL where it prints the data rate.

* `downlink_printable_iff` — the downlinks of the router that the program can print.
* `routed_exact` — any run of the two, with any interleaving of the router's calls.
-/

import GatewayConnector.Properties.Counting
import GatewayConnector.Properties.TestRun

namespace GatewayConnector

open Lib

namespace TestRouter

variable (go : Libraries)

/-- The configurations without a data rate are those for FSK. -/
theorem chosen_dr_iff (draw : Draw) : draw.chosen.dr = "" ↔ draw.chosen.m = .fsk := by
  have all : ∀ config ∈ configs, config.dr = "" ↔ config.m = .fsk := by decide
  exact all _ (List.get_mem ..)

/-- The program can read the downlink: it is for LoRa, or its frame is empty. -/
def Recipe.Readable (recipe : Recipe) : Prop :=
  recipe.draw.chosen.m = .lora ∨ go.phyPayload recipe.frame (payloads.get recipe.draw.payload) = []

instance (recipe : Recipe) : Decidable (recipe.Readable go) := inferInstanceAs (Decidable (_ ∨ _))

theorem unlessZero_eq_none {α : Type} [DecidableEq α] {zero value : α} :
    unlessZero zero value = none ↔ value = zero := by
  unfold unlessZero
  split <;> simp_all

/-- **The downlinks of the router that can be printed.** -/
theorem downlink_printable_iff (recipe : Recipe) :
    Printable (makeDownlink go recipe) ↔ recipe.Readable go := by
  have rate : unlessZero "" recipe.draw.chosen.dr ≠ none ↔ recipe.draw.chosen.m = .lora := by
    rw [Ne, unlessZero_eq_none, chosen_dr_iff]
    cases recipe.draw.chosen.m <;> simp
  have frame : unlessZero [] (go.phyPayload recipe.frame (payloads.get recipe.draw.payload)) ≠ none ↔
      go.phyPayload recipe.frame (payloads.get recipe.draw.payload) ≠ [] :=
    not_congr unlessZero_eq_none
  constructor
  · intro printable
    by_cases empty : go.phyPayload recipe.frame (payloads.get recipe.draw.payload) = []
    · exact Or.inr empty
    · obtain ⟨_, same, conditions⟩ := printable (frame.mpr empty)
      cases same
      exact Or.inl (rate.mp (conditions _ rfl).1)
  · rintro readable payload
    refine ⟨_, rfl, fun lora found => ?_⟩
    cases found
    exact ⟨rate.mpr (readable.resolve_right (frame.mp payload)), Option.some_ne_none _,
      Option.some_ne_none _⟩

/-- **The connector reads what the router wrote**: each of these downlinks is decoded to the message
that it is the encoding of. -/
def Decodes (protobuf : RouterProtobuf) (sent : List Sent) : Prop :=
  ∀ s ∈ sent, protobuf.unpackDownlink s.buf = some (makeDownlink go s.recipe)

end TestRouter

namespace TestProgram

open TestRouter

variable (protobuf : RouterProtobuf) (paho : Paho) (go : Libraries)

/-- A downlink of the router is safe exactly when it can be read. -/
theorem sent_safe_iff (reflexive : paho.MatchesItself) {sent : List Sent}
    (decodes : Decodes go protobuf sent) {s : Sent} (member : s ∈ sent) :
    Arrival.Safe protobuf paho ⟨"test/down", s.buf⟩ ↔ s.recipe.Readable go := by
  have handed : Arrival.downlink protobuf paho ⟨"test/down", s.buf⟩ =
      some (makeDownlink go s.recipe) :=
    (if_pos (reflexive (downTopic "test"))).trans (decodes s member)
  unfold Arrival.Safe
  rw [handed, ← downlink_printable_iff]
  exact ⟨fun safe => safe _ rfl, fun printable _ same => Option.some.inj same ▸ printable⟩

/-- What the FSK configuration makes of the first downlink. -/
def fskRecipe : Recipe := ⟨0, 0, 0, { drawn with config := ⟨6, by decide⟩ }⟩

def fskDownlink : RouterDownlinkMessage := makeDownlink encodingGo fskRecipe

/-- A call of the router, up to its publish. -/
def fskCall : List Step := List.replicate 4 ⟨0, fskRecipe.draw, false, true⟩

theorem fskCall_sent :
    (run encodingGo fskCall).sent = [⟨fskRecipe, fskDownlink.encode, true⟩] := by
  simp [fskCall, run, sendDownlink, TestRouter.start, Router.move, encodingGo, List.replicate,
    fskDownlink, fskRecipe]

/-- A run of the program in which that downlink arrives at once. -/
def fskCourse : Course where
  init := .served
  connect := ⟨true, true, true, true, SUCCESS, SUCCESS, SUCCESS, SUCCESS⟩
  connected := [⟨"test/down", fskDownlink.encode⟩]
  rounds := []
  inRange := by decide
  disconnect := ⟨true, SUCCESS, SUCCESS⟩

end TestProgram

end GatewayConnector
