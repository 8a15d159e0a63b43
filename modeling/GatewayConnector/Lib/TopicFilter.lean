/-
**Filters over hierarchical names.**

A name is split at a separator into levels. A filter is a name in which two symbols are wildcards:
one stands for any single level and must be a level by itself, the other for all levels from there
on and must be the last level. A filter that breaks this matches nothing, and nothing matches a name
with a wildcard in it. A filter that starts with a wildcard does not match a name that starts with
the hiding symbol. The alphabet and its four symbols are parameters.

* `matches_plain_iff` — a filter without wildcards matches itself alone.
* `matches_append_iff` — a literal last level decides by itself.
* `not_matches_single` — a filter of several levels does not match a name of one.
-/

import Mathlib.Data.List.Basic

namespace GatewayConnector.Lib

/-- The separator of levels, the symbols that stand for one level and for the rest, and the symbol at
the start of names that are hidden from wildcards. -/
structure Wildcards (α : Type) where
  separator : α
  one : α
  rest : α
  hidden : α
  distinct : [separator, one, rest, hidden].Nodup

namespace Wildcards

variable {α : Type} (w : Wildcards α)

/-- No wildcard occurs. -/
def Plain (name : List α) : Prop := w.one ∉ name ∧ w.rest ∉ name

/-- A level of a filter: without a wildcard, or the symbol for one level by itself. -/
def ValidLevel (level : List α) : Prop := w.Plain level ∨ level = [w.one]

/-- The levels of a filter: the last one may stand for the rest. -/
def ValidLevels : List (List α) → Prop
  | [] => True
  | [last] => w.ValidLevel last ∨ last = [w.rest]
  | level :: next :: more => w.ValidLevel level ∧ ValidLevels (next :: more)

/-- A filter against a name, both by levels. -/
def MatchLevels : List (List α) → List (List α) → Prop
  | [], name => name = []
  | filter :: filters, [] => filter = [w.rest] ∧ filters = []
  | filter :: filters, level :: levels =>
    (filter = [w.rest] ∧ filters = []) ∨
      (filter = [w.one] ∨ filter = level) ∧ MatchLevels filters levels

/-- A filter that starts with a wildcard. -/
def StartsWild (filter : List α) : Prop :=
  filter.head? = some w.one ∨ filter.head? = some w.rest

section Decidable

variable [DecidableEq α]

instance (name : List α) : Decidable (w.Plain name) := inferInstanceAs (Decidable (_ ∧ _))

instance (level : List α) : Decidable (w.ValidLevel level) := inferInstanceAs (Decidable (_ ∨ _))

instance decidableValidLevels : ∀ levels : List (List α), Decidable (w.ValidLevels levels)
  | [] => isTrue trivial
  | [_] => inferInstanceAs (Decidable (_ ∨ _))
  | _ :: next :: more =>
    have := decidableValidLevels (next :: more)
    inferInstanceAs (Decidable (_ ∧ _))

instance decidableMatchLevels : ∀ filters levels : List (List α),
    Decidable (w.MatchLevels filters levels)
  | [], _ => inferInstanceAs (Decidable (_ = _))
  | _ :: _, [] => inferInstanceAs (Decidable (_ ∧ _))
  | _ :: filters, _ :: levels =>
    have := decidableMatchLevels filters levels
    inferInstanceAs (Decidable (_ ∨ _ ∧ _))

instance (filter : List α) : Decidable (w.StartsWild filter) :=
  inferInstanceAs (Decidable (_ ∨ _))

/-- The levels of a name. -/
def levels (name : List α) : List (List α) := name.splitOn w.separator

/-- **A filter is well formed.** -/
def WellFormed (filter : List α) : Prop := w.ValidLevels (w.levels filter)

instance (filter : List α) : Decidable (w.WellFormed filter) :=
  w.decidableValidLevels (w.levels filter)

/-- **A filter matches a name.** -/
def Matches (filter name : List α) : Prop :=
  (w.WellFormed filter ∧ w.Plain name) ∧ w.MatchLevels (w.levels filter) (w.levels name) ∧
    (w.StartsWild filter → name.head? ≠ some w.hidden)

instance (filter name : List α) : Decidable (w.Matches filter name) :=
  inferInstanceAs (Decidable ((_ ∧ _) ∧ _ ∧ (_ → _)))

end Decidable

variable {w}

/-! ### By levels -/

/-- Levels without wildcards match themselves alone. -/
theorem matchLevels_plain_iff {filters : List (List α)} (plain : ∀ filter ∈ filters, w.Plain filter)
    (names : List (List α)) : w.MatchLevels filters names ↔ filters = names := by
  induction filters generalizing names with
  | nil => exact eq_comm
  | cons filter more ih =>
    have here := plain filter List.mem_cons_self
    have notRest : filter ≠ [w.rest] := fun same => here.2 (same ▸ List.mem_singleton_self _)
    have notOne : filter ≠ [w.one] := fun same => here.1 (same ▸ List.mem_singleton_self _)
    cases names with
    | nil => exact iff_of_false (fun stands => notRest stands.1) (List.cons_ne_nil _ _)
    | cons level rest =>
      show (filter = [w.rest] ∧ more = []) ∨
        (filter = [w.one] ∨ filter = level) ∧ w.MatchLevels more rest ↔ _
      rw [or_iff_right fun stands => notRest stands.1, or_iff_right notOne,
        ih fun other member => plain other (List.mem_cons_of_mem _ member), List.cons.injEq]

theorem validLevels_of_plain {names : List (List α)} (plain : ∀ level ∈ names, w.Plain level) :
    w.ValidLevels names := by
  induction names with
  | nil => trivial
  | cons level rest ih =>
    have here := plain level List.mem_cons_self
    cases rest with
    | nil => exact Or.inl (Or.inl here)
    | cons next more =>
      exact ⟨Or.inl here, ih fun other member => plain other (List.mem_cons_of_mem _ member)⟩

/-- Only the last level may stand for the rest. -/
theorem validLevels_append_iff (front : List (List α)) (last : List α) :
    w.ValidLevels (front ++ [last]) ↔
      (∀ level ∈ front, w.ValidLevel level) ∧ (w.ValidLevel last ∨ last = [w.rest]) := by
  induction front with
  | nil => exact (and_iff_right fun _ absent => nomatch absent).symm
  | cons level more ih =>
    rw [List.forall_mem_cons, and_assoc, ← ih]
    cases more with
    | nil => exact Iff.rfl
    | cons next rest => exact Iff.rfl

/-- A filter with more than the rest to come does not match no level. -/
theorem not_matchLevels_nil {filters : List (List α)} {last : List α} (notRest : last ≠ [w.rest]) :
    ¬ w.MatchLevels (filters ++ [last]) [] := by
  cases filters with
  | nil => exact fun stands => notRest stands.1
  | cons filter more =>
    exact fun stands => List.append_ne_nil_of_right_ne_nil _ (List.cons_ne_nil _ _) stands.2

/-- A literal filter of one level matches that level alone. -/
theorem matchLevels_singleton_iff {last : List α} (notRest : last ≠ [w.rest])
    (notOne : last ≠ [w.one]) (names : List (List α)) (level : List α) :
    w.MatchLevels [last] (names ++ [level]) ↔ names = [] ∧ last = level := by
  have literal (other : List α) (more : List (List α)) :
      w.MatchLevels [last] (other :: more) ↔ last = other ∧ more = [] := by
    show (last = [w.rest] ∧ ([] : List (List α)) = []) ∨
      (last = [w.one] ∨ last = other) ∧ more = [] ↔ _
    rw [or_iff_right fun stands => notRest stands.1, or_iff_right notOne]
  cases names with
  | nil =>
    rw [List.nil_append, literal]
    exact and_comm
  | cons other more =>
    rw [List.cons_append, literal]
    refine iff_of_false (fun both => ?_) fun both => List.cons_ne_nil _ _ both.1
    exact List.append_ne_nil_of_right_ne_nil _ (List.cons_ne_nil _ _) both.2

/-- **A literal last level decides by itself**: the levels before it are matched alone. -/
theorem matchLevels_append_iff {front : List (List α)} (closed : [w.rest] ∉ front)
    {last : List α} (notRest : last ≠ [w.rest]) (notOne : last ≠ [w.one])
    (names : List (List α)) (level : List α) :
    w.MatchLevels (front ++ [last]) (names ++ [level]) ↔
      w.MatchLevels front names ∧ last = level := by
  induction front generalizing names with
  | nil => exact matchLevels_singleton_iff notRest notOne names level
  | cons filter front ih =>
    have notHere : filter ≠ [w.rest] := fun stands =>
      closed (List.mem_cons.mpr (Or.inl stands.symm))
    have notLater : [w.rest] ∉ front := fun later => closed (List.mem_cons_of_mem _ later)
    have notLast (filters : List (List α)) : ¬ (filter = [w.rest] ∧ filters = []) :=
      fun stands => notHere stands.1
    cases names with
    | nil =>
      refine iff_of_false ?_ fun both => notLast front both.1
      rintro (stands | ⟨_, matched⟩)
      · exact notLast _ stands
      · exact not_matchLevels_nil notRest matched
    | cons other more =>
      show (filter = [w.rest] ∧ front ++ [last] = []) ∨ (filter = [w.one] ∨ filter = other) ∧
          w.MatchLevels (front ++ [last]) (more ++ [level]) ↔
        ((filter = [w.rest] ∧ front = []) ∨
          (filter = [w.one] ∨ filter = other) ∧ w.MatchLevels front more) ∧ last = level
      rw [or_iff_right (notLast _), or_iff_right (notLast _), ih notLater more, and_assoc]

/-! ### By names -/

theorem head_append_iff {symbol : α} (inside : symbol ≠ w.separator) (name level : List α) :
    (name ++ w.separator :: level).head? = some symbol ↔ name.head? = some symbol := by
  cases name with
  | nil =>
    refine iff_of_false (fun same => ?_) fun absent => nomatch absent
    exact inside (Option.some.inj same).symm
  | cons first more => exact Iff.rfl

variable [DecidableEq α]

/-- The levels of two names with a separator between them. -/
theorem levels_append (first rest : List α) :
    w.levels (first ++ w.separator :: rest) = w.levels first ++ w.levels rest := by
  unfold levels
  rw [List.splitOn_eq_splitOnP, List.splitOn_eq_splitOnP, List.splitOn_eq_splitOnP]
  exact List.splitOnP_append_cons first rest (beq_self_eq_true _)

/-- A name without a separator is one level. -/
theorem levels_singleton {name : List α} (single : w.separator ∉ name) : w.levels name = [name] :=
  List.splitOn_eq_singleton single

/-- The symbols of a name other than the separator are those of its levels. -/
theorem mem_iff_mem_levels {name : List α} {symbol : α} (inside : symbol ≠ w.separator) :
    symbol ∈ name ↔ ∃ level ∈ w.levels name, symbol ∈ level := by
  unfold levels
  induction name with
  | nil => simp
  | cons first more ih =>
    rw [List.mem_cons, ih, List.splitOn_cons_eq_if_modifyHead]
    by_cases separates : first = w.separator
    · have other : symbol ≠ first := fun same => inside (same.trans separates)
      rw [if_pos (beq_iff_eq.mpr separates), or_iff_right other, List.exists_mem_cons_iff,
        or_iff_right List.not_mem_nil]
    · rw [if_neg fun same => separates (beq_iff_eq.mp same)]
      obtain ⟨level, rest, split⟩ := List.exists_cons_of_ne_nil
        (List.splitOn_ne_nil w.separator more)
      rw [split, List.modifyHead_cons, List.exists_mem_cons_iff, List.exists_mem_cons_iff,
        List.mem_cons, or_assoc]

theorem plain_iff_levels (name : List α) : w.Plain name ↔ ∀ level ∈ w.levels name, w.Plain level := by
  have distinct := w.distinct
  simp only [List.nodup_cons, List.mem_cons, not_or] at distinct
  have one : w.one ≠ w.separator := Ne.symm distinct.1.1
  have rest : w.rest ≠ w.separator := Ne.symm distinct.1.2.1
  unfold Plain
  rw [mem_iff_mem_levels one, mem_iff_mem_levels rest]
  constructor
  · rintro ⟨none, none'⟩ level member
    exact ⟨fun here => none ⟨level, member, here⟩, fun here => none' ⟨level, member, here⟩⟩
  · intro all
    exact ⟨fun ⟨level, member, here⟩ => (all level member).1 here,
      fun ⟨level, member, here⟩ => (all level member).2 here⟩

theorem plain_append_iff (name level : List α) :
    w.Plain (name ++ w.separator :: level) ↔ w.Plain name ∧ w.Plain level := by
  rw [plain_iff_levels, levels_append, List.forall_mem_append, ← plain_iff_levels,
    ← plain_iff_levels]

/-- A filter whose levels are all for single levels is one that never stands for the rest. -/
theorem validLevel_iff (filter : List α) :
    (∀ level ∈ w.levels filter, w.ValidLevel level) ↔ w.rest ∉ filter ∧ w.WellFormed filter := by
  have distinct := w.distinct
  simp only [List.nodup_cons, List.mem_cons, not_or] at distinct
  have rest : w.rest ≠ w.separator := Ne.symm distinct.1.2.1
  have other : w.rest ≠ w.one := Ne.symm distinct.2.1.1
  obtain ⟨front, last, split⟩ := (List.eq_nil_or_concat (w.levels filter)).resolve_left
    (List.splitOn_ne_nil w.separator filter)
  unfold WellFormed
  rw [mem_iff_mem_levels rest, split, List.concat_eq_append, validLevels_append_iff,
    List.forall_mem_append, List.forall_mem_singleton]
  constructor
  · rintro ⟨before, valid⟩
    refine ⟨?_, before, Or.inl valid⟩
    rintro ⟨level, member, inside⟩
    have single : w.ValidLevel level := by
      rcases List.mem_append.mp member with early | final
      · exact before level early
      · rw [List.mem_singleton.mp final]
        exact valid
    rcases single with plain | one
    · exact plain.2 inside
    · rw [one, List.mem_singleton] at inside
      exact other inside
  · rintro ⟨closed, before, valid | stands⟩
    · exact ⟨before, valid⟩
    · refine absurd ⟨last, List.mem_append_right _ (List.mem_singleton_self _), ?_⟩ closed
      rw [stands]
      exact List.mem_singleton_self _

/-- A filter with a literal last level. -/
theorem wellFormed_append_iff {last : List α} (single : w.separator ∉ last) (plain : w.Plain last)
    (front : List α) :
    w.WellFormed (front ++ w.separator :: last) ↔ w.rest ∉ front ∧ w.WellFormed front := by
  rw [← validLevel_iff]
  unfold WellFormed
  rw [levels_append, levels_singleton single, validLevels_append_iff]
  exact and_iff_left (Or.inl (Or.inl plain))

/-- A name is known from its levels. -/
theorem levels_injective : Function.Injective w.levels := by
  intro first second same
  have joined : [w.separator].intercalate (w.levels first) =
      [w.separator].intercalate (w.levels second) := by rw [same]
  unfold levels at joined
  rw [List.intercalate_splitOn, List.intercalate_splitOn] at joined
  exact joined

/-- **A filter without wildcards matches itself alone.** -/
theorem matches_plain_iff {filter : List α} (plain : w.Plain filter) (name : List α) :
    w.Matches filter name ↔ filter = name := by
  have all := (plain_iff_levels filter).mp plain
  have tame : ¬ w.StartsWild filter := by
    rintro (starts | starts)
    · exact plain.1 (List.mem_of_head? starts)
    · exact plain.2 (List.mem_of_head? starts)
  constructor
  · rintro ⟨_, matched, _⟩
    exact levels_injective ((matchLevels_plain_iff all _).mp matched)
  · rintro rfl
    exact ⟨⟨validLevels_of_plain all, plain⟩, (matchLevels_plain_iff all _).mpr rfl,
      fun wild => absurd wild tame⟩

/-- **A filter matches itself, read as a name, exactly if it has no wildcard.** -/
theorem matches_self_iff (name : List α) : w.Matches name name ↔ w.Plain name :=
  ⟨fun matched => matched.1.2, fun plain => (matches_plain_iff plain name).mpr rfl⟩

/-- **A literal last level decides by itself.** -/
theorem matches_append_iff {last : List α} (single : w.separator ∉ last) (plain : w.Plain last)
    {level : List α} (singleLevel : w.separator ∉ level) (plainLevel : w.Plain level)
    (front name : List α) :
    w.Matches (front ++ w.separator :: last) (name ++ w.separator :: level) ↔
      (w.rest ∉ front ∧ w.Matches front name) ∧ last = level := by
  have distinct := w.distinct
  simp only [List.nodup_cons, List.mem_cons, List.not_mem_nil, not_or] at distinct
  have notRest : last ≠ [w.rest] := fun same => plain.2 (same ▸ List.mem_singleton_self _)
  have notOne : last ≠ [w.one] := fun same => plain.1 (same ▸ List.mem_singleton_self _)
  have wild : w.StartsWild (front ++ w.separator :: last) ↔ w.StartsWild front :=
    or_congr (head_append_iff (Ne.symm distinct.1.1) front last)
      (head_append_iff (Ne.symm distinct.1.2.1) front last)
  have shown : (name ++ w.separator :: level).head? ≠ some w.hidden ↔ name.head? ≠ some w.hidden :=
    not_congr (head_append_iff (Ne.symm distinct.1.2.2.1) name level)
  have free (closed : w.rest ∉ front) : [w.rest] ∉ w.levels front := fun stands =>
    closed ((mem_iff_mem_levels (Ne.symm distinct.1.2.1)).mpr
      ⟨_, stands, List.mem_singleton_self _⟩)
  have levels (closed : w.rest ∉ front) :=
    matchLevels_append_iff (free closed) notRest notOne (w.levels name) level
  unfold Matches
  rw [wellFormed_append_iff single plain, plain_append_iff, and_iff_left plainLevel, wild, shown,
    levels_append, levels_append, levels_singleton single, levels_singleton singleLevel]
  constructor
  · rintro ⟨⟨⟨closed, wellFormed⟩, plainName⟩, matched, visible⟩
    obtain ⟨before, same⟩ := (levels closed).mp matched
    exact ⟨⟨closed, ⟨wellFormed, plainName⟩, before, visible⟩, same⟩
  · rintro ⟨⟨closed, ⟨wellFormed, plainName⟩, before, visible⟩, same⟩
    exact ⟨⟨⟨closed, wellFormed⟩, plainName⟩, (levels closed).mpr ⟨before, same⟩, visible⟩

/-- A filter of several levels with a literal last one does not match a single level. -/
theorem not_matches_single {last : List α} (single : w.separator ∉ last) (plain : w.Plain last)
    {level : List α} (singleLevel : w.separator ∉ level) (front : List α) :
    ¬ w.Matches (front ++ w.separator :: last) level := by
  have notRest : last ≠ [w.rest] := fun same => plain.2 (same ▸ List.mem_singleton_self _)
  rintro ⟨_, matched, _⟩
  rw [levels_append, levels_singleton single, levels_singleton singleLevel] at matched
  obtain ⟨first, more, split⟩ := List.exists_cons_of_ne_nil (List.splitOn_ne_nil w.separator front)
  have whole : w.levels front = first :: more := split
  rw [whole] at matched
  rcases matched with ⟨_, none⟩ | ⟨_, later⟩
  · exact List.append_ne_nil_of_right_ne_nil _ (List.cons_ne_nil _ _) none
  · exact not_matchLevels_nil notRest later

end Wildcards

end GatewayConnector.Lib
