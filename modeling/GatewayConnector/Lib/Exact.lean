/-
**Programs that stop exactly when.**

`Exact program s cause safe post` says all there is about a program with one possible fault: where
`safe` it returns with `post`, and otherwise it stops with `cause`. Both halves go through a sequence
together (`Exact.bind`), so the condition of a long program is the conjunction of those of its steps.

* `Exact.of_returned`, `Exact.of_stopped` — a step that never stops, and one that always does.
* `Exact.bind`, `Exact.follow` — a step and the rest, where the step may stop or never does.
* `Exact.imp`, `Exact.congr` — a weaker postcondition, an equivalent condition.
-/

import GatewayConnector.Lib.Exec

namespace GatewayConnector.Lib

variable {ε σ α β : Type}

/-- **The program returns with `post` if it is `safe`, and stops with `cause` if not.** -/
structure Exact (program : Exec ε σ α) (s : σ) (cause : ε) (safe : Prop) (post : α → σ → Prop) :
    Prop where
  returns : safe → ∃ a s', program.run s = .ok (a, s') ∧ post a s'
  stops : ¬ safe → program.run s = .error cause

namespace Exact

variable {program first : Exec ε σ α} {rest : α → Exec ε σ β} {s s' : σ} {cause : ε} {a : α}
  {safe safe' : Prop} {post post' : α → σ → Prop} {last : β → σ → Prop}

theorem of_returned (returned : program.run s = .ok (a, s')) (holds : post a s') :
    Exact program s cause True post where
  returns _ := ⟨a, s', returned, holds⟩
  stops never := absurd trivial never

theorem of_stopped (stopped : program.run s = .error cause) : Exact program s cause False post where
  returns := False.elim
  stops _ := stopped

/-- **A step and the rest.** -/
theorem bind (one : Exact first s cause safe post)
    (later : ∀ a s', post a s' → Exact (rest a) s' cause safe' last) :
    Exact (first >>= rest) s cause (safe ∧ safe') last where
  returns both := by
    obtain ⟨a, s', returned, holds⟩ := one.returns both.1
    obtain ⟨b, s'', ran, holds'⟩ := (later a s' holds).returns both.2
    exact ⟨b, s'', (Exec.bind_ok returned).trans ran, holds'⟩
  stops either := by
    by_cases here : safe
    · obtain ⟨a, s', returned, holds⟩ := one.returns here
      rw [Exec.bind_ok returned]
      exact (later a s' holds).stops fun there => either ⟨here, there⟩
    · exact Exec.bind_error (one.stops here)

/-- A step that returned, and the rest. -/
theorem follow (returned : first.run s = .ok (a, s')) (later : Exact (rest a) s' cause safe last) :
    Exact (first >>= rest) s cause safe last where
  returns := by
    rw [Exec.bind_ok returned]
    exact later.returns
  stops := by
    rw [Exec.bind_ok returned]
    exact later.stops

theorem imp (known : Exact program s cause safe post) (weaker : ∀ a s', post a s' → post' a s') :
    Exact program s cause safe post' where
  returns safe := by
    obtain ⟨a, s', returned, holds⟩ := known.returns safe
    exact ⟨a, s', returned, weaker a s' holds⟩
  stops := known.stops

theorem congr (same : safe ↔ safe') (known : Exact program s cause safe post) :
    Exact program s cause safe' post := by
  rw [← propext same]
  exact known

end Exact

end GatewayConnector.Lib
