import Mathlib

/-!
Precedence. Stages stand in an order, and each of them may have a result. The first one that has a
result decides, whatever the stages after it would say.
-/

namespace StakeLottery

/-- The result is that of the first stage in the order that has one. The stages that are reached are
those up to it. -/
inductive FirstOf {Stage Result : Type} (yields : Stage → Result → Prop) :
    (order reached : List Stage) → Result → Prop
  | decides {stage : Stage} {rest : List Stage} {result : Result} (yielded : yields stage result) :
      FirstOf yields (stage :: rest) [stage] result
  | passes {stage : Stage} {rest reached : List Stage} {result : Result}
      (silent : ∀ other, ¬yields stage other) (later : FirstOf yields rest reached result) :
      FirstOf yields (stage :: rest) (stage :: reached) result

namespace FirstOf

variable {Stage Result : Type} {yields : Stage → Result → Prop} {order reached : List Stage}
  {result : Result}

theorem iff_exists :
    FirstOf yields order reached result ↔ ∃ before stage after,
      order = before ++ stage :: after ∧ reached = before ++ [stage] ∧
        (∀ earlier ∈ before, ∀ other, ¬yields earlier other) ∧ yields stage result := by
  constructor
  · intro first
    induction first with
    | decides yielded => exact ⟨[], _, _, rfl, rfl, by simp, yielded⟩
    | passes silent later ih =>
        obtain ⟨before, stage, after, rfl, rfl, silentBefore, yielded⟩ := ih
        refine ⟨_ :: before, stage, after, rfl, rfl, ?_, yielded⟩
        exact List.forall_mem_cons.mpr ⟨silent, silentBefore⟩
  · rintro ⟨before, stage, after, rfl, rfl, silent, yielded⟩
    induction before with
    | nil => exact .decides yielded
    | cons earlier before ih =>
        obtain ⟨silentFirst, silentRest⟩ := List.forall_mem_cons.mp silent
        exact .passes silentFirst (ih silentRest)

theorem yields_of_firstOf (first : FirstOf yields order reached result) :
    ∃ stage ∈ order, yields stage result := by
  obtain ⟨before, stage, after, rfl, -, -, yielded⟩ := iff_exists.mp first
  exact ⟨stage, by simp, yielded⟩

theorem unique (first : FirstOf yields order reached result)
    (functional : ∀ {stage result other}, yields stage result → yields stage other → result = other)
    {otherReached : List Stage} {other : Result}
    (firstToo : FirstOf yields order otherReached other) : result = other := by
  induction first generalizing otherReached with
  | decides yielded =>
      cases firstToo with
      | decides yieldedToo => exact functional yielded yieldedToo
      | passes silent _ => exact absurd yielded (silent _)
  | passes silent _ ih =>
      cases firstToo with
      | decides yieldedToo => exact absurd yieldedToo (silent _)
      | passes _ later => exact ih later

theorem append_right (first : FirstOf yields order reached result) (rest : List Stage) :
    FirstOf yields (order ++ rest) reached result := by
  induction first with
  | decides yielded => exact .decides yielded
  | passes silent _ ih => exact .passes silent ih

theorem append_left {front : List Stage}
    (silent : ∀ stage ∈ front, ∀ other, ¬yields stage other)
    (later : FirstOf yields order reached result) :
    FirstOf yields (front ++ order) (front ++ reached) result := by
  induction front with
  | nil => exact later
  | cons stage front ih =>
      obtain ⟨silentFirst, silentRest⟩ := List.forall_mem_cons.mp silent
      exact .passes silentFirst (ih silentRest)

theorem of_append {front back : List Stage}
    (first : FirstOf yields (front ++ back) reached result) :
    FirstOf yields front reached result ∨
      (∀ stage ∈ front, ∀ other, ¬yields stage other) ∧
        ∃ later, reached = front ++ later ∧ FirstOf yields back later result := by
  induction front generalizing reached with
  | nil => exact .inr ⟨by simp, reached, rfl, first⟩
  | cons stage front ih =>
      rw [List.cons_append] at first
      cases first with
      | decides yielded => exact .inl (.decides yielded)
      | passes silent rest =>
          rcases ih rest with decided | ⟨silentRest, later, rfl, decides⟩
          · exact .inl (.passes silent decided)
          · exact .inr ⟨List.forall_mem_cons.mpr ⟨silent, silentRest⟩, later, rfl, decides⟩

theorem silent_of_not_yields {front : List Stage} {last : Stage}
    (first : FirstOf yields (front ++ [last]) reached result)
    (others : ∀ stage ∈ front, ¬yields stage result) :
    ∀ stage ∈ front, ∀ other, ¬yields stage other := by
  rcases first.of_append with decided | ⟨silent, -⟩
  · obtain ⟨stage, member, yielded⟩ := decided.yields_of_firstOf
    exact absurd yielded (others stage member)
  · exact silent

theorem map {OtherStage OtherResult : Type} {yieldsOther : OtherStage → OtherResult → Prop}
    (first : FirstOf yields order reached result) (stageOf : Stage → OtherStage)
    (wrap : Result → OtherResult)
    (agree : ∀ stage other,
      yieldsOther (stageOf stage) other ↔ ∃ result, yields stage result ∧ wrap result = other) :
    FirstOf yieldsOther (order.map stageOf) (reached.map stageOf) (wrap result) := by
  induction first with
  | decides yielded => exact .decides ((agree _ _).mpr ⟨_, yielded, rfl⟩)
  | passes silent later ih =>
      refine .passes (fun other yielded => ?_) ih
      obtain ⟨result, yieldedHere, -⟩ := (agree _ _).mp yielded
      exact silent result yieldedHere

end FirstOf

end StakeLottery
