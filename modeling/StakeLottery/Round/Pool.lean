import StakeLottery.Round.Request

/-!
Worker pools. A pool has fixed sizes; its workers start with the first round that needs them and
stop at a shutdown, after which a later round starts them again. Participants that ask for the
same sizes share one pool until all shared pools are shut down and forgotten.
-/

namespace StakeLottery

inductive SizeError where
  | workers (given : Int)
  | batch (given : Int)
  deriving DecidableEq, Repr

def SizeError.message? : SizeError → Option String
  | workers given => do
    let size ← Decimal.text? given
    return s!"pool_size must be positive, got {size}"
  | batch given => do
    let size ← Decimal.text? given
    return s!"batch_size must be positive, got {size}"

structure PoolSizes where
  workers : Nat
  batch : Nat
  workers_pos : 0 < workers
  batch_pos : 0 < batch

instance : DecidableEq PoolSizes := fun first second =>
  decidable_of_iff (first.workers = second.workers ∧ first.batch = second.batch) <| by
    cases first
    cases second
    simp

def PoolSizes.isWritable (sizes : PoolSizes) : Bool :=
  Decimal.hasText sizes.workers && Decimal.hasText sizes.batch

def PoolSizes.ofInts (workers batch : Int) : Except SizeError PoolSizes :=
  if workersPositive : 0 < workers then
    if batchPositive : 0 < batch then
      .ok ⟨workers.toNat, batch.toNat, by omega, by omega⟩
    else .error (.batch batch)
  else .error (.workers workers)

structure Pool where
  sizes : PoolSizes
  running : Bool
  deriving DecidableEq

namespace Pool

def new (sizes : PoolSizes) : Pool :=
  ⟨sizes, false⟩

def shutdown (pool : Pool) : Pool :=
  { pool with running := false }

/-- Runs a round on a pool. The workers run afterwards if they did before or batches were handed
to them. -/
def round (pool : Pool) (arrival : Arrival) (request : RoundRequest) (tokenSet : Bool) :
    RoundEnd × Pool :=
  let ending := request.run pool.sizes.batch arrival tokenSet
  (ending, { pool with running := pool.running || ending.workersUsed })

end Pool

structure PoolRegistry where
  pools : List Pool
  shared : List (PoolSizes × Nat)
  deriving DecidableEq

/-- A pool is named by its number. -/
inductive PoolCommand where
  | create (workers batch : Int)
  | share (workers batch : Int)
  | enlist (sizes : PoolSizes)
  | round (number : Nat) (request : RoundRequest) (tokenSet : Bool)
  | shutdown (number : Nat)
  | shutdownShared

inductive PoolAnswer where
  | pool (number : Nat)
  | ending (ending : RoundEnd)
  | refused (error : SizeError)
  | unwritable
  | unknown
  | done

namespace PoolRegistry

def empty : PoolRegistry := ⟨[], []⟩

def create (registry : PoolRegistry) (sizes : PoolSizes) : Nat × PoolRegistry :=
  (registry.pools.length, { registry with pools := registry.pools ++ [Pool.new sizes] })

def share (registry : PoolRegistry) (sizes : PoolSizes) : Nat × PoolRegistry :=
  match registry.shared.lookup sizes with
  | some number => (number, registry)
  | none =>
    let (number, registry) := registry.create sizes
    (number, { registry with shared := registry.shared ++ [(sizes, number)] })

/-- Answers a request for the shared pool of given sizes. A new pool is reported with its sizes, and
where they have no text the request fails, but the pool is shared. -/
def answer (registry : PoolRegistry) (sizes : PoolSizes) : PoolAnswer × PoolRegistry :=
  let (number, shared) := registry.share sizes
  if (registry.shared.lookup sizes).isSome || sizes.isWritable then (.pool number, shared)
  else (.unwritable, shared)

def modify (registry : PoolRegistry) (number : Nat) (change : Pool → Pool) : PoolRegistry :=
  { registry with pools := registry.pools.modify number change }

/-- Shuts down all shared pools and forgets them. Those shared earlier and forgotten since are left
as they are. -/
def shutdownShared (registry : PoolRegistry) : PoolRegistry :=
  let stopped := registry.shared.foldl
    (fun registry entry => registry.modify entry.2 Pool.shutdown) registry
  { stopped with shared := [] }

def apply (registry : PoolRegistry) (arrival : Arrival) : PoolCommand → PoolAnswer × PoolRegistry
  | .create workers batch =>
    match PoolSizes.ofInts workers batch with
    | .error error => (.refused error, registry)
    | .ok sizes =>
      let (number, registry) := registry.create sizes
      (.pool number, registry)
  | .share workers batch =>
    match PoolSizes.ofInts workers batch with
    | .error error => (.refused error, registry)
    | .ok sizes => registry.answer sizes
  | .enlist sizes => registry.answer sizes
  | .round number request tokenSet =>
    match registry.pools[number]? with
    | none => (.unknown, registry)
    | some pool =>
      let (ending, pool) := pool.round arrival request tokenSet
      (.ending ending, registry.modify number fun _ => pool)
  | .shutdown number =>
    match registry.pools[number]? with
    | none => (.unknown, registry)
    | some _ => (.pool number, registry.modify number Pool.shutdown)
  | .shutdownShared => (.done, registry.shutdownShared)

def applyAll (registry : PoolRegistry) (history : List (Arrival × PoolCommand)) : PoolRegistry :=
  history.foldl (fun registry event => (registry.apply event.1 event.2).2) registry

end PoolRegistry

end StakeLottery
