import StakeLottery.Proofs.Number.IntegerText
import StakeLottery.Proofs.Precedence.Steps
import StakeLottery.Proofs.Round.Registry
import StakeLottery.Settings.Environment

/-!
The two readers of an environment agree. Settings that are read with the built-in values to fall
back on are those of the default values that hold under the same environment: the variables are
read in one order, and only then the ranges are checked in one order.
-/

namespace StakeLottery

inductive SettingStage where
  | integer (name : String)
  | roundTimeout
  | poolSizeRange
  | batchSizeRange
  | lookbackRange

def Environment.integerVariables : List String :=
  [poolSizeVariable, batchSizeVariable, lookbackVariable, bootstrapHeightVariable]

namespace SettingStage

def reading : List SettingStage :=
  Environment.integerVariables.map integer ++ [roundTimeout]

def checking : List SettingStage :=
  [poolSizeRange, batchSizeRange, lookbackRange]

end SettingStage

namespace Environment

def unset : Environment := fun _ => none

def Gives (environment : Environment) (name : String) (builtIn value : Int) : Prop :=
  environment name = none ∧ value = builtIn ∨
    ∃ text, environment name = some text ∧ Decimal.Spells text.toList value

def GivesNone (environment : Environment) (name : String) : Prop :=
  ∃ text, environment name = some text ∧ ∀ value, ¬Decimal.Spells text.toList value

def GivesTimeout (environment : Environment) (timeout : Option Quantity) : Prop :=
  (environment roundTimeoutVariable = none ∨ environment roundTimeoutVariable = some "") ∧
      timeout = none ∨
    ∃ text number, environment roundTimeoutVariable = some text ∧ text ≠ "" ∧
      RealText.read? text = some number ∧ timeout = some (.real number)

/-- The values that an environment gives. None of its variables stands for the committee. -/
structure GivesValues (environment : Environment) (values : SettingValues) : Prop where
  poolSize : environment.Gives poolSizeVariable 8 values.poolSize
  batchSize : environment.Gives batchSizeVariable 1024 values.batchSize
  lookback : environment.Gives lookbackVariable 10 values.lookback
  bootstrapHeight : environment.Gives bootstrapHeightVariable 10 values.bootstrapHeight
  roundTimeout : environment.GivesTimeout values.roundTimeout
  committee : values.committee = 0

/-- What is wrong at a stage, whatever the other stages would say. -/
inductive Fails (environment : Environment) : SettingStage → SettingsError → Prop
  | integer {name : String} (unreadable : environment.GivesNone name) :
      Fails environment (.integer name) (.unreadable name)
  | roundTimeout {text : String} (given : environment roundTimeoutVariable = some text)
      (nonempty : text ≠ "") (unreadable : RealText.read? text = none) :
      Fails environment .roundTimeout (.unreadable roundTimeoutVariable)
  | poolSizeRange {value : Int} (given : environment.Gives poolSizeVariable 8 value)
      (outside : value < 1) : Fails environment .poolSizeRange (.sizes (.workers value))
  | batchSizeRange {value : Int} (given : environment.Gives batchSizeVariable 1024 value)
      (outside : value < 1) : Fails environment .batchSizeRange (.sizes (.batch value))
  | lookbackRange {value : Int} (given : environment.Gives lookbackVariable 10 value)
      (outside : value < 0) : Fails environment .lookbackRange (.lookback value)

variable {environment : Environment} {name : String} {builtIn value : Int}

theorem integerOrValue_eq_ok :
    environment.integerOrValue name builtIn = .ok value ↔ environment.Gives name builtIn value := by
  unfold integerOrValue Gives
  cases environment name with
  | none => simp [eq_comm]
  | some text =>
      simp only [reduceCtorEq, false_and, Option.some.injEq, exists_eq_left', false_or,
        ← Decimal.read?_eq_some_iff]
      cases Decimal.read? text <;> simp

theorem integerOrValue_eq_error {error : SettingsError} :
    environment.integerOrValue name builtIn = .error error ↔
      environment.GivesNone name ∧ error = .unreadable name := by
  unfold integerOrValue GivesNone
  cases environment name with
  | none => simp
  | some text =>
      simp only [Option.some.injEq, exists_eq_left', ← Decimal.read?_eq_some_iff]
      cases Decimal.read? text <;> simp [eq_comm]

theorem integerOrText_eq {fallback : String} (reads : Decimal.read? fallback = some builtIn) :
    environment.integerOrText name fallback = environment.integerOrValue name builtIn := by
  unfold integerOrText integerOrValue
  cases environment name with
  | none => simp [reads]
  | some text => rfl

theorem roundTimeout_eq_ok {timeout : Option Quantity} :
    environment.roundTimeout = .ok timeout ↔ environment.GivesTimeout timeout := by
  unfold roundTimeout GivesTimeout
  cases environment roundTimeoutVariable with
  | none => simp [eq_comm]
  | some text =>
      simp only [reduceCtorEq, Option.some.injEq, exists_and_left, exists_eq_left', false_or,
        String.isEmpty_iff]
      generalize RealText.read? text = reading
      by_cases empty : text = ""
      · simp [empty, eq_comm]
      · cases reading <;> simp [empty, eq_comm]

theorem roundTimeout_eq_error {error : SettingsError} :
    environment.roundTimeout = .error error ↔
      ∃ text, environment roundTimeoutVariable = some text ∧ text ≠ "" ∧
        RealText.read? text = none ∧ error = .unreadable roundTimeoutVariable := by
  unfold roundTimeout
  cases environment roundTimeoutVariable with
  | none => simp
  | some text =>
      simp only [Option.some.injEq, exists_eq_left', String.isEmpty_iff]
      generalize RealText.read? text = reading
      by_cases empty : text = ""
      · simp [empty]
      · cases reading <;> simp [empty, eq_comm]

theorem Gives.unique {other : Int} (given : environment.Gives name builtIn value)
    (givenToo : environment.Gives name builtIn other) : value = other := by
  rw [← integerOrValue_eq_ok] at given givenToo
  exact Except.ok.inj (given.symm.trans givenToo)

theorem Gives.not_givesNone (given : environment.Gives name builtIn value) :
    ¬environment.GivesNone name := by
  intro unreadable
  cases (integerOrValue_eq_ok.mpr given).symm.trans
    (integerOrValue_eq_error.mpr ⟨unreadable, rfl⟩)

end Environment

namespace Settings

variable {values : SettingValues}

theorem ofValues_eq_ok {settings : Settings} :
    ofValues values = .ok settings ↔ settings.toValues = values := by
  constructor
  · intro made
    obtain ⟨sizes, sized, made⟩ := Except.bind_eq_ok.mp made
    obtain ⟨workers, batch⟩ := PoolSizes.ofInts_ok_iff.mp (Except.mapError_eq_ok.mp sized)
    by_cases negative : values.lookback < 0
    · simp [negative, bind, Except.bind, throw, throwThe, MonadExceptOf.throw] at made
    · simp only [negative, if_false] at made
      obtain rfl := Except.ok.inj made
      have lookback : (values.lookback.toNat : Int) = values.lookback := by omega
      simp only [toValues, workers, batch, lookback]
  · rintro rfl
    have sized : PoolSizes.ofInts settings.toValues.poolSize settings.toValues.batchSize =
        .ok settings.sizes := PoolSizes.ofInts_ok_iff.mpr ⟨rfl, rfl⟩
    have nonnegative : ¬settings.toValues.lookback < 0 := by simp [toValues]
    refine Except.bind_eq_ok.mpr ⟨_, Except.mapError_eq_ok.mpr sized, ?_⟩
    simp only [nonnegative, if_false]
    rfl

variable {environment : Environment}

theorem goes_ofValues (gives : environment.GivesValues values) :
    GoesThrough environment.Fails id SettingStage.checking (ofValues values) := by
  have workersInside (inside : 1 ≤ values.poolSize) :
      ∀ error, ¬environment.Fails .poolSizeRange error := by
    rintro _ (_ | _ | ⟨given, outside⟩)
    rw [← gives.poolSize.unique given] at outside
    omega
  have batchInside (inside : 1 ≤ values.batchSize) :
      ∀ error, ¬environment.Fails .batchSizeRange error := by
    rintro _ (_ | _ | _ | ⟨given, outside⟩)
    rw [← gives.batchSize.unique given] at outside
    omega
  have lookbackInside (inside : 0 ≤ values.lookback) :
      ∀ error, ¬environment.Fails .lookbackRange error := by
    rintro _ (_ | _ | _ | _ | ⟨given, outside⟩)
    rw [← gives.lookback.unique given] at outside
    omega
  have sizes : GoesThrough environment.Fails id [.poolSizeRange, .batchSizeRange]
      ((PoolSizes.ofInts values.poolSize values.batchSize).mapError .sizes) := by
    constructor
    · intro error failed
      obtain ⟨sizeError, refused, rfl⟩ := Except.mapError_eq_error.mp failed
      rcases PoolSizes.ofInts_error_iff.mp refused with ⟨outside, rfl⟩ | ⟨inside, outside, rfl⟩
      · exact ⟨_, .decides (.poolSizeRange gives.poolSize outside)⟩
      · exact ⟨_, .passes (workersInside inside)
          (.decides (.batchSizeRange gives.batchSize outside))⟩
    · intro made given
      obtain ⟨workers, batch⟩ := PoolSizes.ofInts_ok_iff.mp (Except.mapError_eq_ok.mp given)
      have someWorkers := made.workers_pos
      have someBatch := made.batch_pos
      simp only [List.forall_mem_cons, List.not_mem_nil, IsEmpty.forall_iff, implies_true, and_true]
      exact ⟨workersInside (by omega), batchInside (by omega)⟩
  refine sizes.bind fun made _ => ?_
  by_cases negative : values.lookback < 0
  · rw [if_pos negative]
    refine .single (fun error failed => ?_) fun _ succeeded => nomatch succeeded
    cases failed
    exact .lookbackRange gives.lookback negative
  · rw [if_neg negative]
    exact .single (fun error failed => nomatch failed) fun _ _ => lookbackInside (by omega)

end Settings

namespace Environment

variable {environment : Environment}

theorem goes_integer {Result : Type} {name : String} {builtIn : Int} {rest : List SettingStage}
    {next : Int → Except SettingsError Result}
    (goesOn : ∀ value, environment.Gives name builtIn value →
      GoesThrough environment.Fails id rest (next value)) :
    GoesThrough environment.Fails id (.integer name :: rest)
      (environment.integerOrValue name builtIn >>= next) := by
  refine .step (fun error failed => ?_) (fun value succeeded => ?_)
  · obtain ⟨unreadable, rfl⟩ := integerOrValue_eq_error.mp failed
    exact .integer unreadable
  · have given := integerOrValue_eq_ok.mp succeeded
    refine ⟨?_, goesOn value given⟩
    rintro _ ⟨unreadable⟩
    exact given.not_givesNone unreadable

theorem goes_roundTimeout {Result : Type} {rest : List SettingStage}
    {next : Option Quantity → Except SettingsError Result}
    (goesOn : ∀ timeout, environment.GivesTimeout timeout →
      GoesThrough environment.Fails id rest (next timeout)) :
    GoesThrough environment.Fails id (.roundTimeout :: rest)
      (environment.roundTimeout >>= next) := by
  refine .step (fun error failed => ?_) (fun value succeeded => ?_)
  · obtain ⟨text, given, nonempty, unreadable, rfl⟩ := roundTimeout_eq_error.mp failed
    exact .roundTimeout given nonempty unreadable
  · refine ⟨?_, goesOn value (roundTimeout_eq_ok.mp succeeded)⟩
    rintro _ (_ | ⟨given, nonempty, unreadable⟩)
    have failed := roundTimeout_eq_error.mpr ⟨_, given, nonempty, unreadable, rfl⟩
    cases succeeded.symm.trans failed

variable {values : SettingValues}

theorem ofEnvironment_eq :
    SettingValues.ofEnvironment environment = (do
      let poolSize ← environment.integerOrValue poolSizeVariable 8
      let batchSize ← environment.integerOrValue batchSizeVariable 1024
      let lookback ← environment.integerOrValue lookbackVariable 10
      let bootstrapHeight ← environment.integerOrValue bootstrapHeightVariable 10
      let roundTimeout ← environment.roundTimeout
      return { poolSize, batchSize, lookback, bootstrapHeight, roundTimeout, committee := 0 }) := by
  have eight : Decimal.read? "8" = some 8 := by decide
  have ten : Decimal.read? "10" = some 10 := by decide
  have thousand : Decimal.read? "1024" = some 1024 := by decide
  rw [SettingValues.ofEnvironment, integerOrText_eq eight, integerOrText_eq thousand,
    integerOrText_eq ten, integerOrText_eq ten]

theorem ofEnvironment_eq_ok :
    SettingValues.ofEnvironment environment = .ok values ↔ environment.GivesValues values := by
  simp only [ofEnvironment_eq, Except.bind_eq_ok, integerOrValue_eq_ok, roundTimeout_eq_ok]
  constructor
  · rintro ⟨_, poolSize, _, batchSize, _, lookback, _, bootstrapHeight, _, roundTimeout, same⟩
    obtain rfl := Except.ok.inj same
    exact ⟨poolSize, batchSize, lookback, bootstrapHeight, roundTimeout, rfl⟩
  · rintro ⟨poolSize, batchSize, lookback, bootstrapHeight, roundTimeout, committee⟩
    refine ⟨_, poolSize, _, batchSize, _, lookback, _, bootstrapHeight, _, roundTimeout, ?_⟩
    rw [← committee]
    rfl

theorem goes_defaults :
    GoesThrough environment.Fails id SettingStage.reading
      (SettingValues.ofEnvironment environment) := by
  rw [ofEnvironment_eq]
  refine goes_integer fun poolSize _ => goes_integer fun batchSize _ => ?_
  refine goes_integer fun lookback _ => goes_integer fun bootstrapHeight _ => ?_
  exact goes_roundTimeout fun timeout _ => .ok _

/-- Reading with the built-in values to fall back on is reading the default values of the
environment and then checking them. -/
theorem settings_eq_bind :
    Settings.ofEnvironment environment .standard =
      (SettingValues.ofEnvironment environment >>= Settings.ofValues) := by
  simp only [ofEnvironment_eq, Settings.ofEnvironment, SettingValues.standard, bind_assoc,
    pure_bind]

theorem goes_settings :
    GoesThrough environment.Fails id (SettingStage.reading ++ SettingStage.checking)
      (Settings.ofEnvironment environment .standard) := by
  rw [settings_eq_bind]
  exact goes_defaults.bind fun values given =>
    Settings.goes_ofValues (ofEnvironment_eq_ok.mp given)

theorem Fails.unique {stage : SettingStage} {error other : SettingsError}
    (fails : environment.Fails stage error) (failsToo : environment.Fails stage other) :
    error = other := by
  cases fails with
  | integer => cases failsToo; rfl
  | roundTimeout => cases failsToo; rfl
  | poolSizeRange given =>
      cases failsToo with
      | poolSizeRange givenToo => rw [given.unique givenToo]
  | batchSizeRange given =>
      cases failsToo with
      | batchSizeRange givenToo => rw [given.unique givenToo]
  | lookbackRange given =>
      cases failsToo with
      | lookbackRange givenToo => rw [given.unique givenToo]

theorem ofValues_ne_unreadable (gives : environment.GivesValues values) (name : String) :
    Settings.ofValues values ≠ .error (.unreadable name) := by
  intro failed
  obtain ⟨reached, first⟩ := (Settings.goes_ofValues gives).fails _ failed
  obtain ⟨stage, isChecking, fails⟩ := first.yields_of_firstOf
  cases fails <;> simp [SettingStage.checking] at isChecking

theorem ofEnvironment_eq_error {error : SettingsError} :
    SettingValues.ofEnvironment environment = .error error ↔
      (∃ name, error = .unreadable name) ∧
        Settings.ofEnvironment environment .standard = .error error := by
  rw [settings_eq_bind, Except.bind_eq_error]
  constructor
  · intro failed
    obtain ⟨reached, first⟩ := goes_defaults.fails error failed
    obtain ⟨stage, isReading, fails⟩ := first.yields_of_firstOf
    refine ⟨?_, .inl failed⟩
    cases fails with
    | integer => exact ⟨_, rfl⟩
    | roundTimeout => exact ⟨_, rfl⟩
    | _ => simp [SettingStage.reading] at isReading
  · rintro ⟨⟨name, rfl⟩, failed | ⟨values, given, failed⟩⟩
    · exact failed
    · exact absurd failed (ofValues_ne_unreadable (ofEnvironment_eq_ok.mp given) name)

theorem settings_eq_ok {settings : Settings} :
    Settings.ofEnvironment environment .standard = .ok settings ↔
      environment.GivesValues settings.toValues := by
  simp only [settings_eq_bind, Except.bind_eq_ok, Settings.ofValues_eq_ok, ofEnvironment_eq_ok,
    exists_eq_right']

theorem exists_unreadable {name : String} (isInteger : name ∈ integerVariables)
    (empty : environment name = some "") :
    ∃ failing, SettingValues.ofEnvironment environment = .error (.unreadable failing) ∧
      Settings.ofEnvironment environment .standard = .error (.unreadable failing) := by
  have fails : environment.Fails (.integer name) (.unreadable name) := by
    refine .integer ⟨"", empty, fun value spells => ?_⟩
    cases Decimal.read?_eq_some_iff.mpr spells
  have isReading : SettingStage.integer name ∈ SettingStage.reading :=
    List.mem_append_left _ (List.mem_map_of_mem isInteger)
  cases given : SettingValues.ofEnvironment environment with
  | ok values => exact absurd fails (goes_defaults.passes values given _ isReading _)
  | error error =>
      obtain ⟨⟨failing, rfl⟩, failed⟩ := ofEnvironment_eq_error.mp given
      exact ⟨failing, rfl, failed⟩

/-- Reading with the built-in values to fall back on gives what the default values give once they
are checked. -/
theorem readers_agree :
    ∃ builtIn, SettingValues.ofEnvironment unset = .ok builtIn ∧ ∀ environment : Environment,
      Settings.ofEnvironment environment builtIn =
        (SettingValues.ofEnvironment environment >>= Settings.ofValues) ∧
      (∀ error, SettingValues.ofEnvironment environment = .error error ↔
        (∃ name, error = .unreadable name) ∧
          Settings.ofEnvironment environment builtIn = .error error) ∧
      (∀ error, Settings.ofEnvironment environment builtIn = .error error ↔ ∃ reached,
        FirstOf environment.Fails (SettingStage.reading ++ SettingStage.checking) reached error) ∧
      (∀ values, SettingValues.ofEnvironment environment = .ok values ↔
        environment.GivesValues values) ∧
      (∀ settings, Settings.ofEnvironment environment builtIn = .ok settings ↔
        environment.GivesValues settings.toValues) ∧
      (∀ name ∈ integerVariables, environment name = some "" → ∃ failing,
        SettingValues.ofEnvironment environment = .error (.unreadable failing) ∧
          Settings.ofEnvironment environment builtIn = .error (.unreadable failing)) ∧
      (environment roundTimeoutVariable = none ∨ environment roundTimeoutVariable = some "" →
        environment.roundTimeout = .ok none ∧
        (∀ values, SettingValues.ofEnvironment environment = .ok values →
          values.roundTimeout = none) ∧
        ∀ settings, Settings.ofEnvironment environment builtIn = .ok settings →
          settings.roundTimeout = none) := by
  refine ⟨.standard, rfl, fun environment => ⟨settings_eq_bind, fun _ => ofEnvironment_eq_error,
    fun _ => goes_settings.error_iff Fails.unique, fun _ => ofEnvironment_eq_ok,
    fun _ => settings_eq_ok, fun _ => exists_unreadable, fun unsetOrEmpty => ?_⟩⟩
  have reads : environment.roundTimeout = .ok none :=
    roundTimeout_eq_ok.mpr (.inl ⟨unsetOrEmpty, rfl⟩)
  have isNone {timeout : Option Quantity} (gives : environment.GivesTimeout timeout) :
      timeout = none :=
    Except.ok.inj ((roundTimeout_eq_ok.mpr gives).symm.trans reads)
  refine ⟨reads, fun values given => ?_, fun settings given => ?_⟩
  · exact isNone (ofEnvironment_eq_ok.mp given).roundTimeout
  · exact isNone (settings_eq_ok.mp given).roundTimeout

def emptyBatch : Environment := fun name =>
  if name = poolSizeVariable then some "0"
  else if name = batchSizeVariable then some ""
  else if name = roundTimeoutVariable then some " "
  else none

theorem readers_agree_emptyBatch :
    ∃ builtIn, SettingValues.ofEnvironment unset = .ok builtIn ∧
      emptyBatch batchSizeVariable = some "" ∧ ∃ failing,
        SettingValues.ofEnvironment emptyBatch = .error (.unreadable failing) ∧
          Settings.ofEnvironment emptyBatch builtIn = .error (.unreadable failing) := by
  obtain ⟨builtIn, reads, agree⟩ := readers_agree
  obtain ⟨-, -, -, -, -, fails, -⟩ := agree emptyBatch
  exact ⟨builtIn, reads, rfl, fails batchSizeVariable (by decide) rfl⟩

end Environment

end StakeLottery
