import StakeLottery.Round.Pool

/-!
Settings of a participant. Six plain values become settings once the pool sizes are positive and
the lookback is not negative.
-/

namespace StakeLottery

structure SettingValues where
  poolSize : Int
  batchSize : Int
  lookback : Int
  bootstrapHeight : Int
  roundTimeout : Option Quantity
  committee : Int
  deriving DecidableEq, Repr

def SettingValues.standard : SettingValues where
  poolSize := 8
  batchSize := 1024
  lookback := 10
  bootstrapHeight := 10
  roundTimeout := none
  committee := 0

inductive SettingsError where
  | unreadable (name : String)
  | sizes (error : SizeError)
  | lookback (given : Int)
  deriving DecidableEq, Repr

def SettingsError.message? : SettingsError → Option String
  | unreadable name => some s!"Variable {name} is not a number"
  | sizes error => error.message?
  | lookback given => do
    let blocks ← Decimal.text? given
    return s!"lookback_blocks must be non-negative, got {blocks}"

structure Settings where
  sizes : PoolSizes
  lookback : Nat
  bootstrapHeight : Int
  roundTimeout : Option Quantity
  committee : Int
  deriving DecidableEq

namespace Settings

/-- The settings of six values. The pool sizes are checked before the lookback. -/
def ofValues (values : SettingValues) : Except SettingsError Settings := do
  let sizes ← (PoolSizes.ofInts values.poolSize values.batchSize).mapError .sizes
  if values.lookback < 0 then throw (.lookback values.lookback)
  return {
    sizes
    lookback := values.lookback.toNat
    bootstrapHeight := values.bootstrapHeight
    roundTimeout := values.roundTimeout
    committee := values.committee }

def toValues (settings : Settings) : SettingValues where
  poolSize := settings.sizes.workers
  batchSize := settings.sizes.batch
  lookback := settings.lookback
  bootstrapHeight := settings.bootstrapHeight
  roundTimeout := settings.roundTimeout
  committee := settings.committee

def snapshotHeight (settings : Settings) (height : Int) : Int :=
  max (height - settings.lookback) 0

end Settings

end StakeLottery
