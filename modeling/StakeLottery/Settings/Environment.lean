import StakeLottery.Number.RealText
import StakeLottery.Settings.Basic

/-!
Settings from the environment of a process. There are two readers: one for the values that hold by
default, which are not checked, and one for checked settings, which falls back on given values.
-/

namespace StakeLottery

abbrev Environment := String → Option String

namespace Environment

def poolSizeVariable : String := "SORTITION_POOL_SIZE"

def batchSizeVariable : String := "SORTITION_BATCH_SIZE"

def lookbackVariable : String := "SORTITION_LOOKBACK_BLOCKS"

def bootstrapHeightVariable : String := "SORTITION_BOOTSTRAP_HEIGHT"

def roundTimeoutVariable : String := "SORTITION_ROUND_TIMEOUT"

def integerOrText (environment : Environment) (name fallback : String) :
    Except SettingsError Int :=
  match Decimal.read? ((environment name).getD fallback) with
  | some value => .ok value
  | none => .error (.unreadable name)

/-- An integer variable, with the value that stands in for it where it is not set. An empty text
is set, and no integer. -/
def integerOrValue (environment : Environment) (name : String) (fallback : Int) :
    Except SettingsError Int :=
  match environment name with
  | none => .ok fallback
  | some text =>
    match Decimal.read? text with
    | some value => .ok value
    | none => .error (.unreadable name)

def roundTimeout (environment : Environment) : Except SettingsError (Option Quantity) :=
  match environment roundTimeoutVariable with
  | none => .ok none
  | some text =>
    if text.isEmpty then .ok none
    else
      match RealText.read? text with
      | some value => .ok (some (.real value))
      | none => .error (.unreadable roundTimeoutVariable)

end Environment

open Environment

def SettingValues.ofEnvironment (environment : Environment) :
    Except SettingsError SettingValues := do
  let poolSize ← environment.integerOrText poolSizeVariable "8"
  let batchSize ← environment.integerOrText batchSizeVariable "1024"
  let lookback ← environment.integerOrText lookbackVariable "10"
  let bootstrapHeight ← environment.integerOrText bootstrapHeightVariable "10"
  let roundTimeout ← environment.roundTimeout
  return { poolSize, batchSize, lookback, bootstrapHeight, roundTimeout, committee := 0 }

/-- The timeout falls back on none, and the committee is not read. All variables are read before the
first check. -/
def Settings.ofEnvironment (environment : Environment) (fallback : SettingValues) :
    Except SettingsError Settings := do
  let poolSize ← environment.integerOrValue poolSizeVariable fallback.poolSize
  let batchSize ← environment.integerOrValue batchSizeVariable fallback.batchSize
  let lookback ← environment.integerOrValue lookbackVariable fallback.lookback
  let bootstrapHeight ← environment.integerOrValue bootstrapHeightVariable fallback.bootstrapHeight
  let roundTimeout ← environment.roundTimeout
  Settings.ofValues
    { poolSize, batchSize, lookback, bootstrapHeight, roundTimeout,
      committee := fallback.committee }

end StakeLottery
