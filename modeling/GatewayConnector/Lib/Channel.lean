/-
**Channels that may lose messages.**

What is put into a channel comes through in order or is lost on the way. A `Channel` on the states of
a system says what was put in so far, and what of it has come through or is still under way.

* `Channel.run_of_complete` — where every step either keeps all messages or loses one, the channel
  never invents, repeats or reorders a message, and has lost none exactly if no step of the run lost
  one.
-/

import GatewayConnector.Lib.Exec

namespace GatewayConnector.Lib

/-- What was put into a channel, and what of it was not lost. -/
structure Channel (σ α : Type) where
  offered : σ → List α
  carried : σ → List α

namespace Channel

variable {ε σ κ ρ α : Type} (channel : Channel σ α)

/-- The step puts messages in and loses none. -/
def Keeps (s s' : σ) : Prop :=
  ∃ new, channel.offered s' = channel.offered s ++ new ∧ channel.carried s' = channel.carried s ++ new

/-- The step loses a message. -/
def Loses (s s' : σ) : Prop :=
  channel.offered s' = channel.offered s ∧
    ∃ before message after, channel.carried s = before ++ message :: after ∧
      channel.carried s' = before ++ after

/-- Nothing but what was put in, in that order. -/
def Sound (s : σ) : Prop := List.Sublist (channel.carried s) (channel.offered s)

/-- Nothing was lost. -/
def Complete (s : σ) : Prop := channel.carried s = channel.offered s

variable {channel}

theorem Keeps.of_eq {s s' : σ} (offered : channel.offered s' = channel.offered s)
    (carried : channel.carried s' = channel.carried s) : channel.Keeps s s' :=
  ⟨[], by rw [offered, List.append_nil], by rw [carried, List.append_nil]⟩

theorem Keeps.sound {s s' : σ} (keeps : channel.Keeps s s') (sound : channel.Sound s) :
    channel.Sound s' := by
  obtain ⟨new, offered, carried⟩ := keeps
  unfold Sound
  rw [offered, carried]
  exact sound.append (List.Sublist.refl new)

theorem Keeps.complete_iff {s s' : σ} (keeps : channel.Keeps s s') :
    channel.Complete s' ↔ channel.Complete s := by
  obtain ⟨new, offered, carried⟩ := keeps
  unfold Complete
  rw [offered, carried, List.append_left_inj]

theorem Loses.shorter {s s' : σ} (loses : channel.Loses s s') :
    List.Sublist (channel.carried s') (channel.carried s) ∧
      (channel.carried s').length < (channel.carried s).length := by
  obtain ⟨_, before, message, after, held, left⟩ := loses
  rw [held, left]
  refine ⟨(List.Sublist.refl before).append (List.sublist_cons_self message after), ?_⟩
  simp

theorem Loses.sound {s s' : σ} (loses : channel.Loses s s') (sound : channel.Sound s) :
    channel.Sound s' := by
  unfold Sound
  rw [loses.1]
  exact loses.shorter.1.trans sound

theorem Loses.not_complete {s s' : σ} (loses : channel.Loses s s') (sound : channel.Sound s) :
    ¬ channel.Complete s' := by
  intro complete
  have length : (channel.carried s').length = (channel.offered s).length := by
    rw [complete, loses.1]
  have atMost := sound.length_le
  have fewer := loses.shorter.2
  omega

/-- **An item is taken out**: that loses what it stands for, if it stands for a message. -/
theorem passes_of_taken {β : Type} {message : β → Option α} {s s' : σ} {front : List α} {item : β}
    {rest : List β} (offered : channel.offered s' = channel.offered s)
    (held : channel.carried s = front ++ (item :: rest).filterMap message)
    (left : channel.carried s' = front ++ rest.filterMap message) :
    (message item = none → channel.Keeps s s') ∧ (message item ≠ none → channel.Loses s s') := by
  constructor
  · intro none
    rw [List.filterMap_cons_none none] at held
    exact .of_eq offered (left.trans held.symm)
  · intro some
    obtain ⟨lost, brings⟩ := Option.ne_none_iff_exists'.mp some
    rw [List.filterMap_cons_some brings] at held
    exact ⟨offered, front, lost, rest.filterMap message, held, left⟩

variable {step : κ → Exec ε σ ρ}

/-- What a run makes of a channel. -/
theorem run {I : σ → Prop} {valid : κ → Prop} {careful : σ → κ → Prop}
    (steps : ∀ s command reply s', I s → valid command → (step command).run s = .ok (reply, s') →
      I s' ∧ (careful s command → channel.Keeps s s') ∧ (¬ careful s command → channel.Loses s s'))
    {commands : List κ} (valids : ∀ command ∈ commands, valid command) {s last : σ}
    {replies : List ρ} (holds : I s) (sound : channel.Sound s)
    (ran : (runAll step commands).run s = .ok (replies, last)) :
    channel.Sound last ∧
      (channel.Complete last ↔ channel.Complete s ∧ Along step careful commands s) := by
  induction commands generalizing s replies with
  | nil =>
    cases ran
    exact ⟨sound, (and_iff_left trivial).symm⟩
  | cons command rest ih =>
    obtain ⟨reply, s', later, stepped, tail, _⟩ := runAll_cons_ok step ran
    obtain ⟨kept, keeps, loses⟩ :=
      steps s command reply s' holds (valids command List.mem_cons_self) stepped
    have along : Along step careful (command :: rest) s ↔
        careful s command ∧ Along step careful rest s' := by
      refine and_congr_right fun _ => ⟨fun all => all reply s' stepped, fun one _ _ again => ?_⟩
      rw [stepped] at again
      cases again
      exact one
    have validsRest : ∀ other ∈ rest, valid other :=
      fun other member => valids other (List.mem_cons_of_mem _ member)
    rw [along]
    by_cases here : careful s command
    · obtain ⟨soundThen, complete⟩ := ih validsRest kept ((keeps here).sound sound) tail
      rw [(keeps here).complete_iff] at complete
      exact ⟨soundThen, complete.trans (and_congr_right fun _ => (and_iff_right here).symm)⟩
    · obtain ⟨soundThen, complete⟩ := ih validsRest kept ((loses here).sound sound) tail
      refine ⟨soundThen, iff_of_false (fun whole => ?_) fun both => here both.2.1⟩
      exact (loses here).not_complete sound (complete.mp whole).1

/-- **What a run makes of a channel that has lost nothing.** -/
theorem run_of_complete {I : σ → Prop} {valid : κ → Prop} {careful : σ → κ → Prop}
    (steps : ∀ s command reply s', I s → valid command → (step command).run s = .ok (reply, s') →
      I s' ∧ (careful s command → channel.Keeps s s') ∧ (¬ careful s command → channel.Loses s s'))
    {commands : List κ} (valids : ∀ command ∈ commands, valid command) {s last : σ}
    {replies : List ρ} (holds : I s) (complete : channel.Complete s)
    (ran : (runAll step commands).run s = .ok (replies, last)) :
    channel.Sound last ∧ (channel.Complete last ↔ Along step careful commands s) := by
  have all : channel.carried s = channel.offered s := complete
  have sound : List.Sublist (channel.carried s) (channel.offered s) := by simp [all]
  obtain ⟨soundThen, whole⟩ := run steps valids holds sound ran
  exact ⟨soundThen, whole.trans (and_iff_right complete)⟩

end Channel

end GatewayConnector.Lib
