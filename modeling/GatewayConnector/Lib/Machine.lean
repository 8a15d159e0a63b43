/-
**Machines, and programs that are one.**

A `Machine` moves from state to state by commands; each command gives an output and may be refused.
A program that keeps a log is a machine if every command that is allowed returns, moves the state as
the machine moves and appends the machine's output to the log; then so does every run of them
(`Machine.run_refines`).
-/

import GatewayConnector.Lib.Exec
import Mathlib.Data.List.Basic

namespace GatewayConnector.Lib

/-- States, commands and outputs. -/
structure Machine (σ κ ω : Type) where
  next : σ → κ → σ
  output : σ → κ → ω
  Allows : σ → κ → Prop

namespace Machine

variable {σ κ ω : Type} (machine : Machine σ κ ω)

/-- The state after a list of commands. -/
def after (s : σ) : List κ → σ
  | [] => s
  | command :: rest => after (machine.next s command) rest

/-- The output of each command. -/
def outputs (s : σ) : List κ → List ω
  | [] => []
  | command :: rest => machine.output s command :: outputs (machine.next s command) rest

/-- **Every command is given in a state that allows it.** -/
def Along (s : σ) : List κ → Prop
  | [] => True
  | command :: rest => machine.Allows s command ∧ Along (machine.next s command) rest

instance decidableAlong [∀ s command, Decidable (machine.Allows s command)] (s : σ)
    (commands : List κ) : Decidable (machine.Along s commands) :=
  match commands with
  | [] => isTrue trivial
  | command :: rest =>
    have := decidableAlong (machine.next s command) rest
    inferInstanceAs (Decidable (_ ∧ _))

/-- **What every allowed command keeps** holds where the commands lead. -/
theorem invariant {I : σ → Prop}
    (keeps : ∀ s command, I s → machine.Allows s command → I (machine.next s command)) {s : σ}
    (holds : I s) {commands : List κ} (along : machine.Along s commands) :
    I (machine.after s commands) := by
  induction commands generalizing s with
  | nil => exact holds
  | cons command rest ih => exact ih (keeps s command holds along.1) along.2

end Machine

/-! ### Programs that are a machine -/

section Refinement

variable {ε σ τ κ ρ ω : Type} {step : κ → Exec ε σ ρ} {machine : Machine τ κ (List ω)}
  {I : σ → Prop} {abstraction : σ → τ} {log : σ → List ω}

/-- What one command does, on the level of the machine. -/
structure Machine.Step (machine : Machine τ κ (List ω)) (I : σ → Prop) (abstraction : σ → τ)
    (log : σ → List ω) (s : σ) (command : κ) (s' : σ) : Prop where
  kept : I s'
  next : abstraction s' = machine.next (abstraction s) command
  appended : log s' = log s ++ machine.output (abstraction s) command

/-- **A program whose commands are a machine's runs as the machine does.** -/
theorem Machine.run_refines
    (one : ∀ s command, I s → machine.Allows (abstraction s) command →
      ∃ reply s', (step command).run s = .ok (reply, s') ∧ machine.Step I abstraction log s command s')
    {commands : List κ} {s : σ} (holds : I s) (allowed : machine.Along (abstraction s) commands) :
    ∃ replies last, (runAll step commands).run s = .ok (replies, last) ∧ I last ∧
      abstraction last = machine.after (abstraction s) commands ∧
      log last = log s ++ (machine.outputs (abstraction s) commands).flatten := by
  induction commands generalizing s with
  | nil => exact ⟨[], s, rfl, holds, rfl, (List.append_nil _).symm⟩
  | cons command rest ih =>
    obtain ⟨here, later⟩ := allowed
    obtain ⟨reply, s', returned, first⟩ := one s command holds here
    rw [← first.next] at later
    obtain ⟨replies, last, ran, kept, reached, appended⟩ := ih first.kept later
    refine ⟨reply :: replies, last, runAll_cons step returned ran, kept, ?_, ?_⟩
    · rw [reached, first.next]
      rfl
    · rw [appended, first.appended, first.next, List.append_assoc]
      rfl

end Refinement

end GatewayConnector.Lib
