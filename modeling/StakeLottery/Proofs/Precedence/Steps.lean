import StakeLottery.Proofs.Outcome
import StakeLottery.Proofs.Precedence

/-!
Steps that go through items. A step fails with the first bad one of its items and succeeds only if
none of them is bad, and a chain of such steps goes through the items of all of them.
-/

namespace StakeLottery

variable {Item Kind Error Value Result : Type}

/-- How a step goes through its items. Of a failure only the kind is seen. -/
structure GoesThrough (bad : Item → Kind → Prop) (kindOf : Error → Kind) (items : List Item)
    (outcome : Except Error Value) : Prop where
  fails : ∀ error, outcome = .error error → ∃ reached, FirstOf bad items reached (kindOf error)
  passes : ∀ value, outcome = .ok value → ∀ item ∈ items, ∀ kind, ¬bad item kind

namespace GoesThrough

variable {bad : Item → Kind → Prop} {kindOf : Error → Kind} {items rest : List Item}

theorem ok (value : Value) : GoesThrough bad kindOf [] (.ok value : Except Error Value) where
  fails _ failed := nomatch failed
  passes _ _ := by simp

theorem single {item : Item} {outcome : Except Error Value}
    (fails : ∀ error, outcome = .error error → bad item (kindOf error))
    (passes : ∀ value, outcome = .ok value → ∀ kind, ¬bad item kind) :
    GoesThrough bad kindOf [item] outcome where
  fails error failed := ⟨[item], .decides (fails error failed)⟩
  passes value succeeded := by simpa using passes value succeeded

theorem of_error {item : Item} {error : Error} (isBad : bad item (kindOf error)) :
    GoesThrough bad kindOf (item :: rest) (.error error : Except Error Value) where
  fails other failed := by
    cases failed
    exact ⟨[item], .decides isBad⟩
  passes value succeeded := by cases succeeded

theorem after {item : Item} {outcome : Except Error Value}
    (goes : GoesThrough bad kindOf items outcome) (silent : ∀ kind, ¬bad item kind) :
    GoesThrough bad kindOf (item :: items) outcome where
  fails error failed := by
    obtain ⟨reached, isFirst⟩ := goes.fails error failed
    exact ⟨item :: reached, .passes silent isFirst⟩
  passes value succeeded :=
    List.forall_mem_cons.mpr ⟨silent, goes.passes value succeeded⟩

theorem bind {first : Except Error Value} {next : Value → Except Error Result}
    (goes : GoesThrough bad kindOf items first)
    (goesOn : ∀ value, first = .ok value → GoesThrough bad kindOf rest (next value)) :
    GoesThrough bad kindOf (items ++ rest) (first >>= next) where
  fails error failed := by
    rcases Except.bind_eq_error.mp failed with failedFirst | ⟨value, given, failedNext⟩
    · obtain ⟨reached, isFirst⟩ := goes.fails error failedFirst
      exact ⟨reached, isFirst.append_right rest⟩
    · obtain ⟨reached, isFirst⟩ := (goesOn value given).fails error failedNext
      exact ⟨items ++ reached, isFirst.append_left (goes.passes value given)⟩
  passes result succeeded := by
    obtain ⟨value, given, succeededNext⟩ := Except.bind_eq_ok.mp succeeded
    exact List.forall_mem_append.mpr
      ⟨goes.passes value given, (goesOn value given).passes result succeededNext⟩

theorem step {item : Item} {first : Except Error Value} {next : Value → Except Error Result}
    (fails : ∀ error, first = .error error → bad item (kindOf error))
    (passes : ∀ value, first = .ok value →
      (∀ kind, ¬bad item kind) ∧ GoesThrough bad kindOf rest (next value)) :
    GoesThrough bad kindOf (item :: rest) (first >>= next) := by
  have goes : GoesThrough bad kindOf [item] first :=
    single fails fun value given => (passes value given).1
  exact goes.bind fun value given => (passes value given).2

theorem map {outcome : Except Error Value} (goes : GoesThrough bad kindOf items outcome)
    (change : Value → Result) : GoesThrough bad kindOf items (outcome.map change) where
  fails error failed := by
    cases outcome with
    | error given =>
        cases failed
        exact goes.fails error rfl
    | ok value => cases failed
  passes result succeeded := by
    obtain ⟨value, given, -⟩ := Except.map_eq_ok.mp succeeded
    exact goes.passes value given

theorem mapM {Part : Type} {itemsOf : Part → List Item} {step : Part → Except Error Value}
    {parts : List Part}
    (goes : ∀ part ∈ parts, GoesThrough bad kindOf (itemsOf part) (step part)) :
    GoesThrough bad kindOf (parts.flatMap itemsOf) (parts.mapM step) := by
  induction parts with
  | nil => exact ok []
  | cons part rest ih =>
      obtain ⟨goesFirst, goesRest⟩ := List.forall_mem_cons.mp goes
      rw [List.mapM_cons, List.flatMap_cons]
      refine goesFirst.bind fun value _ => ?_
      rw [← List.append_nil (rest.flatMap itemsOf)]
      exact (ih goesRest).bind fun values _ => ok (value :: values)

theorem mapItems {OtherItem : Type} {badOther : OtherItem → Kind → Prop}
    {outcome : Except Error Value} (goes : GoesThrough bad kindOf items outcome)
    (place : Item → OtherItem) (agree : ∀ item kind, badOther (place item) kind ↔ bad item kind) :
    GoesThrough badOther kindOf (items.map place) outcome where
  fails error failed := by
    obtain ⟨reached, isFirst⟩ := goes.fails error failed
    exact ⟨reached.map place, isFirst.map place id fun item kind => by simp [agree]⟩
  passes value succeeded := by
    refine List.forall_mem_map.mpr fun item member kind => ?_
    rw [agree]
    exact goes.passes value succeeded item member kind

/-- Where an item is bad in one way at most, what goes through the items is known from them. -/
theorem exists_error_iff {outcome : Except Error Value}
    (goes : GoesThrough bad kindOf items outcome)
    (functional : ∀ {item kind other}, bad item kind → bad item other → kind = other)
    {kind : Kind} :
    (∃ error, outcome = .error error ∧ kindOf error = kind) ↔
      ∃ reached, FirstOf bad items reached kind := by
  constructor
  · rintro ⟨error, failed, rfl⟩
    exact goes.fails error failed
  · rintro ⟨reached, isFirst⟩
    cases given : outcome with
    | error other =>
        obtain ⟨reachedToo, isFirstToo⟩ := goes.fails other given
        exact ⟨other, rfl, isFirstToo.unique functional isFirst⟩
    | ok value =>
        obtain ⟨item, member, isBad⟩ := isFirst.yields_of_firstOf
        exact absurd isBad (goes.passes value given item member kind)

theorem error_iff {badError : Item → Error → Prop} {outcome : Except Error Value}
    (goes : GoesThrough badError id items outcome)
    (functional : ∀ {item error other}, badError item error → badError item other → error = other)
    {error : Error} :
    outcome = .error error ↔ ∃ reached, FirstOf badError items reached error := by
  rw [← goes.exists_error_iff functional]
  simp

theorem exists_ok_iff {outcome : Except Error Value}
    (goes : GoesThrough bad kindOf items outcome) :
    (∃ value, outcome = .ok value) ↔ ∀ item ∈ items, ∀ kind, ¬bad item kind := by
  constructor
  · rintro ⟨value, given⟩
    exact goes.passes value given
  · intro noneBad
    cases given : outcome with
    | ok value => exact ⟨value, rfl⟩
    | error error =>
        obtain ⟨reached, isFirst⟩ := goes.fails error given
        obtain ⟨item, member, isBad⟩ := isFirst.yields_of_firstOf
        exact absurd isBad (noneBad item member _)

end GoesThrough

end StakeLottery
