/-
**Machines that run side by side.**

A family has one machine for each index, and every command is for one of them. In an interleaved run
each machine does what it would have done alone:

* `Family.after_own`, `Family.outputs_own` — the state it reaches and the outputs of its own
  commands are those of its own run.
* `Family.along_iff` — the interleaved run is allowed exactly when every machine's own run is.
-/

import GatewayConnector.Lib.Machine
import Mathlib.Logic.Function.Basic

namespace GatewayConnector.Lib

/-! ### Families -/

section Family

variable {ι σ κ ω : Type} [DecidableEq ι] (index : κ → ι) (machine : Machine σ κ ω)

/-- **One machine for each index**: a command moves the machine it is for. -/
def Machine.family : Machine (ι → σ) κ ω where
  next states command :=
    Function.update states (index command) (machine.next (states (index command)) command)
  output states command := machine.output (states (index command)) command
  Allows states command := machine.Allows (states (index command)) command

instance decidableFamily [∀ s command, Decidable (machine.Allows s command)] (states : ι → σ)
    (command : κ) : Decidable ((machine.family index).Allows states command) :=
  inferInstanceAs (Decidable (machine.Allows (states (index command)) command))

/-- The commands for one machine. -/
def own (i : ι) (commands : List κ) : List κ := commands.filter fun command => index command = i

variable {index machine}

theorem own_cons_self {command : κ} (rest : List κ) :
    own index (index command) (command :: rest) = command :: own index (index command) rest := by
  simp [own]

theorem own_cons_of_ne {i : ι} {command : κ} (rest : List κ) (other : index command ≠ i) :
    own index i (command :: rest) = own index i rest := by
  simp [own, other]

theorem mem_of_mem_own {i : ι} {command : κ} {commands : List κ}
    (member : command ∈ own index i commands) : command ∈ commands ∧ index command = i := by
  simpa [own] using member

@[simp] theorem own_own (i : ι) (commands : List κ) :
    own index i (own index i commands) = own index i commands := by
  simp [own]

theorem own_own_of_ne {i j : ι} (different : i ≠ j) (commands : List κ) :
    own index i (own index j commands) = [] := by
  refine List.filter_eq_nil_iff.mpr fun command member => ?_
  rw [(mem_of_mem_own member).2]
  simpa using Ne.symm different

namespace Family

theorem next_self (states : ι → σ) (command : κ) :
    (machine.family index).next states command (index command) =
      machine.next (states (index command)) command := Function.update_self ..

theorem next_of_ne {i : ι} (states : ι → σ) {command : κ} (other : index command ≠ i) :
    (machine.family index).next states command i = states i := Function.update_of_ne (Ne.symm other) ..

/-- **A machine reaches the state it would have reached alone.** -/
theorem after_own (i : ι) (states : ι → σ) (commands : List κ) :
    (machine.family index).after states commands i =
      machine.after (states i) (own index i commands) := by
  induction commands generalizing states with
  | nil => rfl
  | cons command rest ih =>
    rw [Machine.after, ih]
    by_cases mine : index command = i
    · subst mine
      rw [own_cons_self, next_self, Machine.after]
    · rw [own_cons_of_ne rest mine, next_of_ne states mine]

/-- **A machine gives the outputs it would have given alone.** -/
theorem outputs_own (i : ι) (states : ι → σ) (commands : List κ) :
    ((commands.zip ((machine.family index).outputs states commands)).filter
      fun pair => index pair.1 = i).map Prod.snd =
        machine.outputs (states i) (own index i commands) := by
  induction commands generalizing states with
  | nil => rfl
  | cons command rest ih =>
    rw [Machine.outputs, List.zip_cons_cons]
    by_cases mine : index command = i
    · subst mine
      rw [List.filter_cons_of_pos (by simp), List.map_cons, ih, own_cons_self, next_self,
        Machine.outputs]
      rfl
    · rw [List.filter_cons_of_neg (by simpa using mine), ih, own_cons_of_ne rest mine,
        next_of_ne states mine]

/-- A run of one machine's commands gives that machine's outputs. -/
theorem outputs_alone {i : ι} (states : ι → σ) {commands : List κ}
    (mine : ∀ command ∈ commands, index command = i) :
    (machine.family index).outputs states commands = machine.outputs (states i) commands := by
  induction commands generalizing states with
  | nil => rfl
  | cons command rest ih =>
    obtain rfl := mine command List.mem_cons_self
    have later := ih ((machine.family index).next states command)
      fun other member => mine other (List.mem_cons_of_mem _ member)
    rw [Machine.outputs, later, next_self]
    rfl

/-- **An interleaved run is allowed exactly when every machine's own run is.** -/
theorem along_iff (states : ι → σ) (commands : List κ) :
    (machine.family index).Along states commands ↔
      ∀ i, machine.Along (states i) (own index i commands) := by
  induction commands generalizing states with
  | nil => exact iff_of_true trivial fun _ => trivial
  | cons command rest ih =>
    rw [Machine.Along, ih]
    constructor
    · rintro ⟨here, later⟩ i
      by_cases mine : index command = i
      · subst mine
        have more := later (index command)
        rw [next_self] at more
        rw [own_cons_self]
        exact ⟨here, more⟩
      · rw [own_cons_of_ne rest mine, ← next_of_ne states mine]
        exact later i
    · intro all
      have first := all (index command)
      rw [own_cons_self] at first
      refine ⟨first.1, fun i => ?_⟩
      by_cases mine : index command = i
      · subst mine
        rw [next_self]
        exact first.2
      · rw [next_of_ne states mine, ← own_cons_of_ne rest mine]
        exact all i

end Family

end Family

end GatewayConnector.Lib
