/-
**Programs with a state that can stop with a fault.**

`Exec ε σ α` is a program over a state `σ` that returns an `α` or stops with a fault `ε`. Two rules
run such a program step by step: `Exec.bind_ok` enters the rest of a program whose first step
returned, `Exec.bind_error` stops with the first step's fault; `Exec.bind_returned` inverts a
sequence that returned. A command language is run by `runAll`, which stops at the first fault.

* `Throughout step Q` — no command of the run faults and every one of them satisfies `Q`, a property
  of the state before, the command, its reply and the state after.
* `Along step ok` — every command of the run is issued in a state in which `ok` allows it.
* `throughout_iff_along` — where one command keeps the invariant and satisfies `Q` exactly when it
  is allowed, a whole run satisfies `Q` exactly when every command in it is allowed.
* `Exec.within`, `Exec.focus` — a program on a part of a larger state.
-/

import Mathlib.Logic.Basic

namespace GatewayConnector.Lib

/-- A program over a state `σ` that returns an `α` or stops with a fault `ε`. -/
abbrev Exec (ε σ α : Type) := StateT σ (Except ε) α

namespace Exec

variable {ε σ α β : Type}

/-- The program that stops with a fault. -/
def fault (cause : ε) : Exec ε σ α := fun _ => .error cause

@[simp] theorem run_getState (s : σ) : (get : Exec ε σ σ).run s = .ok (s, s) := rfl

@[simp] theorem run_modifyState (f : σ → σ) (s : σ) :
    (modify f : Exec ε σ PUnit).run s = .ok (⟨⟩, f s) := rfl

/-- A program whose first step returned goes on with the rest. -/
theorem bind_ok {first : Exec ε σ α} {rest : α → Exec ε σ β} {s s' : σ} {a : α}
    (returned : first.run s = .ok (a, s')) : (first >>= rest).run s = (rest a).run s' := by
  rw [StateT.run_bind, returned]
  rfl

/-- A program whose first step stopped stops with the same fault. -/
theorem bind_error {first : Exec ε σ α} {rest : α → Exec ε σ β} {s : σ} {cause : ε}
    (stopped : first.run s = .error cause) : (first >>= rest).run s = .error cause := by
  rw [StateT.run_bind, stopped]
  rfl

/-- **Inversion of a sequence**: both parts returned. -/
theorem bind_returned {first : Exec ε σ α} {rest : α → Exec ε σ β} {s s' : σ} {b : β}
    (returned : (first >>= rest).run s = .ok (b, s')) :
    ∃ a t, first.run s = .ok (a, t) ∧ (rest a).run t = .ok (b, s') := by
  cases begun : first.run s with
  | error cause =>
    rw [bind_error begun] at returned
    cases returned
  | ok result =>
    obtain ⟨a, t⟩ := result
    rw [bind_ok begun] at returned
    exact ⟨a, t, rfl, returned⟩

/-! ### A program within a larger state -/

section Within

variable {τ : Type} (view : τ → σ) (update : τ → α → σ → τ) {program : Exec ε σ α} {t t' : τ}

/-- Run a program on a part of a larger state; what it returned goes into the update. -/
def within (program : Exec ε σ α) : Exec ε τ Unit := fun t =>
  match program.run (view t) with
  | .ok (a, s') => .ok ((), update t a s')
  | .error cause => .error cause

theorem within_ok {a : α} {s' : σ} (returned : program.run (view t) = .ok (a, s')) :
    (within view update program).run t = .ok ((), update t a s') := by
  show (match program.run (view t) with
    | .ok (a, s') => Except.ok ((), update t a s')
    | .error cause => .error cause) = _
  rw [returned]

/-- Inversion: the program returned. -/
theorem within_returned (returned : (within view update program).run t = .ok ((), t')) :
    ∃ a s', program.run (view t) = .ok (a, s') ∧ t' = update t a s' := by
  cases inner : program.run (view t) with
  | error cause =>
    have stopped : (within view update program).run t = .error cause := by
      show (match program.run (view t) with
        | .ok (a, s') => Except.ok ((), update t a s')
        | .error cause => .error cause) = _
      rw [inner]
    rw [stopped] at returned
    cases returned
  | ok result =>
    obtain ⟨a, s'⟩ := result
    rw [within_ok view update inner] at returned
    cases returned
    exact ⟨a, s', rfl, rfl⟩

end Within

section Focus

variable {τ : Type} (view : τ → σ) (update : τ → σ → τ) {program : Exec ε σ α} {t t' : τ} {a : α}

/-- Run a program on a part of a larger state and put the part back; the result is the program's. -/
def focus (program : Exec ε σ α) : Exec ε τ α := fun t =>
  match program.run (view t) with
  | .ok (a, s') => .ok (a, update t s')
  | .error cause => .error cause

theorem focus_ok {s' : σ} (returned : program.run (view t) = .ok (a, s')) :
    (focus view update program).run t = .ok (a, update t s') := by
  show (match program.run (view t) with
    | .ok (a, s') => Except.ok (a, update t s')
    | .error cause => .error cause) = _
  rw [returned]

/-- Inversion: the program returned. -/
theorem focus_returned (returned : (focus view update program).run t = .ok (a, t')) :
    ∃ s', program.run (view t) = .ok (a, s') ∧ t' = update t s' := by
  cases inner : program.run (view t) with
  | error cause =>
    have stopped : (focus view update program).run t = .error cause := by
      show (match program.run (view t) with
        | .ok (a, s') => Except.ok (a, update t s')
        | .error cause => .error cause) = _
      rw [inner]
    rw [stopped] at returned
    cases returned
  | ok result =>
    obtain ⟨b, s'⟩ := result
    rw [focus_ok view update inner] at returned
    cases returned
    exact ⟨s', rfl, rfl⟩

end Focus

end Exec

/-! ### Runs of commands -/

section Runs

variable {ε σ κ ρ : Type} (step : κ → Exec ε σ ρ)

/-- Issue the commands one after the other and collect the replies. -/
def runAll : List κ → Exec ε σ (List ρ)
  | [] => pure []
  | command :: rest => do
    let reply ← step command
    let replies ← runAll rest
    pure (reply :: replies)

@[simp] theorem runAll_nil (s : σ) : (runAll step []).run s = .ok ([], s) := rfl

theorem runAll_cons {command : κ} {rest : List κ} {s s' : σ} {reply : ρ}
    (stepped : (step command).run s = .ok (reply, s')) {replies : List ρ} {s'' : σ}
    (ran : (runAll step rest).run s' = .ok (replies, s'')) :
    (runAll step (command :: rest)).run s = .ok (reply :: replies, s'') := by
  rw [runAll, Exec.bind_ok stepped, Exec.bind_ok ran]
  rfl

/-- **Inversion of a run**: the first command returned, and so did the rest of the run. -/
theorem runAll_cons_ok {command : κ} {rest : List κ} {s last : σ} {replies : List ρ}
    (ran : (runAll step (command :: rest)).run s = .ok (replies, last)) :
    ∃ reply s' later, (step command).run s = .ok (reply, s') ∧
      (runAll step rest).run s' = .ok (later, last) ∧ replies = reply :: later := by
  rw [runAll] at ran
  obtain ⟨reply, s', stepped, rest⟩ := Exec.bind_returned ran
  obtain ⟨later, s'', tail, collected⟩ := Exec.bind_returned rest
  cases collected
  exact ⟨reply, s', later, stepped, tail, rfl⟩

/-- **Every command of the run returns and satisfies `Q`.** -/
def Throughout (Q : σ → κ → ρ → σ → Prop) : List κ → σ → Prop
  | [], _ => True
  | command :: rest, s =>
    ∃ reply s', (step command).run s = .ok (reply, s') ∧ Q s command reply s' ∧
      Throughout Q rest s'

/-- **Every command of the run is issued in a state that allows it.** -/
def Along (allowed : σ → κ → Prop) : List κ → σ → Prop
  | [], _ => True
  | command :: rest, s =>
    allowed s command ∧
      ∀ reply s', (step command).run s = .ok (reply, s') → Along allowed rest s'

variable {step}

/-- **A run of valid commands returns**, where an invariant makes every valid command return and is
kept by it; the invariant holds where the run ends. -/
theorem runAll_returns {I : σ → Prop} {valid : κ → Prop}
    (returns : ∀ s command, I s → valid command →
      ∃ reply s', (step command).run s = .ok (reply, s') ∧ I s')
    {commands : List κ} (valids : ∀ command ∈ commands, valid command) {s : σ} (holds : I s) :
    ∃ replies last, (runAll step commands).run s = .ok (replies, last) ∧ I last := by
  induction commands generalizing s with
  | nil => exact ⟨[], s, rfl, holds⟩
  | cons command rest ih =>
    obtain ⟨reply, s', stepped, kept⟩ := returns s command holds (valids command List.mem_cons_self)
    obtain ⟨replies, last, ran, after⟩ :=
      ih (fun other member => valids other (List.mem_cons_of_mem _ member)) kept
    exact ⟨reply :: replies, last, runAll_cons step stepped ran, after⟩

/-- An invariant that every returning command keeps holds after every returning run. -/
theorem runAll_invariant {I : σ → Prop}
    (keeps : ∀ s command reply s', I s → (step command).run s = .ok (reply, s') → I s')
    {commands : List κ} {s last : σ} {replies : List ρ} (holds : I s)
    (ran : (runAll step commands).run s = .ok (replies, last)) : I last := by
  induction commands generalizing s replies with
  | nil =>
    cases ran
    exact holds
  | cons command rest ih =>
    obtain ⟨reply, s', later, stepped, tail, _⟩ := runAll_cons_ok step ran
    exact ih (keeps s command reply s' holds stepped) tail

/-- **The exact condition of a run.** Where a valid command returns with `Q` and keeps the
invariant if it is allowed, and can return with `Q` only if it is allowed, the runs that satisfy
`Q` throughout are those in which every command is allowed. -/
theorem throughout_iff_along {I : σ → Prop} {valid : κ → Prop} {Q : σ → κ → ρ → σ → Prop}
    {allowed : σ → κ → Prop}
    (enough : ∀ s command, I s → valid command → allowed s command →
      ∃ reply s', (step command).run s = .ok (reply, s') ∧ Q s command reply s' ∧ I s')
    (needed : ∀ s command reply s', I s → valid command →
      (step command).run s = .ok (reply, s') → Q s command reply s' → allowed s command)
    {commands : List κ} (valids : ∀ command ∈ commands, valid command) {s : σ} (holds : I s) :
    Throughout step Q commands s ↔ Along step allowed commands s := by
  induction commands generalizing s with
  | nil => exact Iff.rfl
  | cons command rest ih =>
    have validHere := valids command List.mem_cons_self
    have validRest : ∀ other ∈ rest, valid other :=
      fun other member => valids other (List.mem_cons_of_mem _ member)
    constructor
    · rintro ⟨reply, s', stepped, satisfied, later⟩
      have permit := needed s command reply s' holds validHere stepped satisfied
      obtain ⟨reply', s'', stepped', _, kept⟩ := enough s command holds validHere permit
      rw [stepped] at stepped'
      cases stepped'
      refine ⟨permit, fun reply' s'' again => ?_⟩
      rw [stepped] at again
      cases again
      exact (ih validRest kept).mp later
    · rintro ⟨permit, later⟩
      obtain ⟨reply, s', stepped, satisfied, kept⟩ := enough s command holds validHere permit
      exact ⟨reply, s', stepped, satisfied, (ih validRest kept).mpr (later reply s' stepped)⟩

/-- Where every valid command returns and keeps the invariant, a run of valid commands reaches all
of them, so what is asked of a command in any state is asked of every command. -/
theorem along_iff_forall {I : σ → Prop} {valid allowed : κ → Prop}
    (returns : ∀ s command, I s → valid command →
      ∃ reply s', (step command).run s = .ok (reply, s') ∧ I s')
    {commands : List κ} (valids : ∀ command ∈ commands, valid command) {s : σ} (holds : I s) :
    Along step (fun _ command => allowed command) commands s ↔
      ∀ command ∈ commands, allowed command := by
  induction commands generalizing s with
  | nil => exact iff_of_true trivial fun _ absent => nomatch absent
  | cons command rest ih =>
    obtain ⟨reply, s', stepped, kept⟩ := returns s command holds (valids command List.mem_cons_self)
    have later := ih (fun other member => valids other (List.mem_cons_of_mem _ member)) kept
    rw [List.forall_mem_cons, ← later]
    constructor
    · rintro ⟨permit, more⟩
      exact ⟨permit, more reply s' stepped⟩
    · rintro ⟨permit, more⟩
      refine ⟨permit, fun reply' s'' again => ?_⟩
      rw [stepped] at again
      cases again
      exact more

/-- **The exact condition of a run whose commands all return.** Where every valid command returns,
keeps the invariant, and satisfies `Q` exactly when it is allowed, a run of valid commands satisfies
`Q` throughout exactly when all of its commands are allowed. -/
theorem throughout_iff_forall {I : σ → Prop} {valid allowed : κ → Prop}
    {Q : σ → κ → ρ → σ → Prop}
    (returns : ∀ s command, I s → valid command → ∃ reply s',
      (step command).run s = .ok (reply, s') ∧ I s' ∧ (Q s command reply s' ↔ allowed command))
    {commands : List κ} (valids : ∀ command ∈ commands, valid command) {s : σ} (holds : I s) :
    Throughout step Q commands s ↔ ∀ command ∈ commands, allowed command := by
  have reached : Along step (fun _ command => allowed command) commands s ↔
      ∀ command ∈ commands, allowed command := by
    refine along_iff_forall (fun s command kept fits => ?_) valids holds
    obtain ⟨reply, s', stepped, after, _⟩ := returns s command kept fits
    exact ⟨reply, s', stepped, after⟩
  rw [← reached]
  refine throughout_iff_along (fun s command kept fits permit => ?_)
    (fun s command reply s' kept fits stepped satisfied => ?_) valids holds
  · obtain ⟨reply, s', stepped, after, exact_step⟩ := returns s command kept fits
    exact ⟨reply, s', stepped, exact_step.mpr permit, after⟩
  · obtain ⟨reply', s'', again, _, exact_step⟩ := returns s command kept fits
    rw [stepped] at again
    cases again
    exact exact_step.mp satisfied

/-- **The exact condition of a run that returned**, where what a returning command does satisfies
`Q` exactly when the command is allowed, and an allowed command keeps the invariant. -/
theorem throughout_iff_along_of_returned {I : σ → Prop} {Q : σ → κ → ρ → σ → Prop}
    {allowed : σ → κ → Prop}
    (keeps : ∀ s command reply s', I s → (step command).run s = .ok (reply, s') →
      allowed s command → I s')
    (exact_step : ∀ s command reply s', I s → (step command).run s = .ok (reply, s') →
      (Q s command reply s' ↔ allowed s command))
    {commands : List κ} {s last : σ} {replies : List ρ} (holds : I s)
    (ran : (runAll step commands).run s = .ok (replies, last)) :
    Throughout step Q commands s ↔ Along step allowed commands s := by
  induction commands generalizing s replies with
  | nil => exact Iff.rfl
  | cons command rest ih =>
    obtain ⟨reply, s', later, stepped, tail, _⟩ := runAll_cons_ok step ran
    have here := exact_step s command reply s' holds stepped
    have rest (permit : allowed s command) := ih (keeps s command reply s' holds stepped permit) tail
    constructor
    · rintro ⟨reply', s'', again, satisfied, more⟩
      rw [stepped] at again
      cases again
      have permit := here.mp satisfied
      refine ⟨permit, fun reply' s'' again => ?_⟩
      rw [stepped] at again
      cases again
      exact (rest permit).mp more
    · rintro ⟨permit, more⟩
      exact ⟨reply, s', stepped, here.mpr permit, (rest permit).mpr (more reply s' stepped)⟩

/-! ### Runs in two parts -/

/-- What holds throughout a run holds throughout its second part. -/
theorem throughout_rest {Q : σ → κ → ρ → σ → Prop} {first rest : List κ} {s s' : σ}
    {replies : List ρ} (ran : (runAll step first).run s = .ok (replies, s'))
    (holds : Throughout step Q (first ++ rest) s) : Throughout step Q rest s' := by
  induction first generalizing s replies with
  | nil =>
    cases ran
    exact holds
  | cons command more ih =>
    obtain ⟨reply, t, later, stepped, tail, _⟩ := runAll_cons_ok step ran
    obtain ⟨reply', t', stepped', _, after⟩ := holds
    rw [stepped] at stepped'
    cases stepped'
    exact ih tail after

/-- A run whose first part is always allowed. -/
theorem along_append {allowed : σ → κ → Prop} {first rest : List κ} {s s' : σ} {replies : List ρ}
    (ran : (runAll step first).run s = .ok (replies, s'))
    (before : ∀ command ∈ first, ∀ t, allowed t command) (after : Along step allowed rest s') :
    Along step allowed (first ++ rest) s := by
  induction first generalizing s replies with
  | nil =>
    cases ran
    exact after
  | cons command more ih =>
    obtain ⟨reply, t, later, stepped, tail, _⟩ := runAll_cons_ok step ran
    refine ⟨before command List.mem_cons_self s, fun reply' t' stepped' => ?_⟩
    rw [stepped] at stepped'
    cases stepped'
    exact ih tail fun other member => before other (List.mem_cons_of_mem _ member)

end Runs

end GatewayConnector.Lib
