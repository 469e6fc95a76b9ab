import Mathlib.Data.Rat.Defs
import Mathlib.Data.List.Sublists
import GmsRemoteTest.Lib.Runs

/-! The in-memory cache with its cold loads. Each operation is what one thread does while it holds the cache lock; loads run in
between, for any time, and may fail or be cancelled. -/
namespace GmsRemoteTest.TtlCache

structure Settings where
  ttlSeconds : ℚ
  maxEntries : Option ℕ := none
  nonnegative : 0 ≤ ttlSeconds := by decide
  positive : ∀ most, maxEntries = some most → 1 ≤ most := by simp

/-- `TTLCache`. The items are in the order of the dictionary; a version object is named after the load that created it, and a task
after its load. -/
structure TTLCache (κ ν : Type) where
  items : List (κ × ℚ × ν) := []
  generation : ℕ := 0
  keyVersions : κ → Option ℕ := fun _ => none
  users : ℕ → ℕ := fun _ => 0
  loadSeq : κ → Option ℕ := fun _ => none
  pending : ℕ → κ → Option ℕ := fun _ _ => none

/-- A cold load, with what `_begin_load` gave it; an asynchronous one belongs to an event loop. -/
structure Load (κ : Type) where
  id : ℕ
  key : κ
  generation : ℕ
  version : ℕ
  seq : ℕ
  loop : Option ℕ
deriving DecidableEq

variable {κ ν : Type} [DecidableEq κ]

namespace TTLCache

def beginLoad (cache : TTLCache κ ν) (id : ℕ) (key : κ) (loop : Option ℕ) : Load κ × TTLCache κ ν :=
  let version := (cache.keyVersions key).getD id
  let seq := (cache.loadSeq key).getD 0 + 1
  (⟨id,key,cache.generation,version,seq,loop⟩,
    {cache with
      keyVersions := Function.update cache.keyVersions key (some version)
      users := Function.update cache.users version (cache.users version + 1)
      loadSeq := Function.update cache.loadSeq key (some seq)})

def endLoad (cache : TTLCache κ ν) (load : Load κ) : TTLCache κ ν :=
  let users := Function.update cache.users load.version (cache.users load.version - 1)
  if users load.version = 0 ∧ cache.keyVersions load.key = some load.version then
    {cache with
      users
      keyVersions := Function.update cache.keyVersions load.key none
      loadSeq := Function.update cache.loadSeq load.key none}
  else {cache with users}

def get (settings : Settings) (cache : TTLCache κ ν) (key : κ) (now : ℚ) : Option ν × TTLCache κ ν :=
  match cache.items.find? fun item => item.1 = key with
  | none => (none,cache)
  | some (_,createdAt,value) =>
    if settings.ttlSeconds ≤ now - createdAt then (none,{cache with items := cache.items.filter fun item => item.1 ≠ key})
    else (some value,{cache with items := cache.items.filter (fun item => item.1 ≠ key) ++ [(key,createdAt,value)]})

def trim (settings : Settings) (items : List (κ × ℚ × ν)) : List (κ × ℚ × ν) := match settings.maxEntries with
  | none => items
  | some most => items.drop (items.length - most)

def set (settings : Settings) (cache : TTLCache κ ν) (key : κ) (value : ν) (now : ℚ) : TTLCache κ ν :=
  let fresh := cache.items.filter fun item => now - item.2.1 < settings.ttlSeconds
  if settings.ttlSeconds = 0 then {cache with items := fresh}
  else {cache with items := trim settings (fresh.filter (fun item => item.1 ≠ key) ++ [(key,now,value)])}

/-- The load may populate the cache. -/
def current (cache : TTLCache κ ν) (load : Load κ) : Prop :=
  load.generation = cache.generation ∧ cache.keyVersions load.key = some load.version ∧ cache.loadSeq load.key = some load.seq

instance (cache : TTLCache κ ν) (load : Load κ) : Decidable (cache.current load) := inferInstanceAs (Decidable (_ ∧ _))

def storeLoaded (settings : Settings) (cache : TTLCache κ ν) (load : Load κ) (value : ν) (now : ℚ) : TTLCache κ ν :=
  if cache.current load then cache.set settings load.key value now else cache

def invalidate (cache : TTLCache κ ν) (key : κ) : TTLCache κ ν :=
  {cache with
    items := cache.items.filter fun item => item.1 ≠ key
    keyVersions := Function.update cache.keyVersions key none
    loadSeq := Function.update cache.loadSeq key none
    pending := fun loop => Function.update (cache.pending loop) key none}

def clear (cache : TTLCache κ ν) : TTLCache κ ν :=
  {cache with
    items := []
    generation := cache.generation + 1
    keyVersions := fun _ => none
    loadSeq := fun _ => none
    pending := fun _ _ => none}

def await (cache : TTLCache κ ν) (loop : ℕ) (load : Load κ) : TTLCache κ ν :=
  {cache with pending := Function.update cache.pending loop (Function.update (cache.pending loop) load.key (some load.id))}

def settle (cache : TTLCache κ ν) (loop : ℕ) (load : Load κ) : TTLCache κ ν :=
  if cache.pending loop load.key = some load.id then
    {cache with pending := Function.update cache.pending loop (Function.update (cache.pending loop) load.key none)}
  else cache

end TTLCache

inductive Phase
  | loading
  | loaded
  | ended
deriving DecidableEq

inductive Event (κ ν : Type)
  | began (load : Load κ)
  | populated (load : Load κ)
  | stored (key : κ) (value : ν) (now : ℚ)
  | got (key : κ) (value : ν) (now : ℚ)
  | invalidated (key : κ)
  | cleared
deriving DecidableEq

structure World (κ ν : Type) where
  cache : TTLCache κ ν := {}
  flights : List (Load κ × Phase) := []
  started : ℕ := 0
  log : List (Event κ ν) := []

inductive Op (κ ν : Type)
  | get (key : κ) (now : ℚ)
  | set (key : κ) (value : ν) (now : ℚ)
  | invalidate (key : κ)
  | clear
  /-- `get_or_load` has found nothing under the lock of the key's stripe. -/
  | load (key : κ)
  /-- `get_or_load_async` has found nothing. -/
  | loadAsync (loop : ℕ) (key : κ)
  /-- The loader of a load returned. -/
  | store (id : ℕ) (value : ν) (now : ℚ)
  /-- A load ends, with a value or without. -/
  | finish (id : ℕ)
  /-- The end of the callback of a task. -/
  | settle (id : ℕ)
  /-- An event loop is gone. -/
  | drop (loop : ℕ)

namespace World

def begin_ (world : World κ ν) (key : κ) (loop : Option ℕ) : Load κ × World κ ν :=
  let begun := world.cache.beginLoad world.started key loop
  (begun.1,⟨begun.2,world.flights ++ [(begun.1,.loading)],world.started + 1,.began begun.1 :: world.log⟩)

def flight (world : World κ ν) (id : ℕ) (phases : List Phase) : Option (Load κ) :=
  (world.flights.find? fun flight => flight.1.id = id ∧ flight.2 ∈ phases).map Prod.fst

def advance (world : World κ ν) (id : ℕ) (phase : Phase) : List (Load κ × Phase) :=
  world.flights.map fun flight => if flight.1.id = id then (flight.1,phase) else flight

def get (settings : Settings) (world : World κ ν) (key : κ) (now : ℚ) : World κ ν :=
  match world.cache.get settings key now with
  | (none,cache) => {world with cache}
  | (some value,cache) => {world with cache, log := .got key value now :: world.log}

def set (settings : Settings) (world : World κ ν) (key : κ) (value : ν) (now : ℚ) : World κ ν :=
  {world with cache := world.cache.set settings key value now, log := .stored key value now :: world.log}

def invalidate (world : World κ ν) (key : κ) : World κ ν :=
  {world with cache := world.cache.invalidate key, log := .invalidated key :: world.log}

def clear (world : World κ ν) : World κ ν := {world with cache := world.cache.clear, log := .cleared :: world.log}

/-- `stripe` is the number of the lock that a key is loaded under. -/
def load (stripe : κ → ℕ) (world : World κ ν) (key : κ) : World κ ν :=
  if world.flights.any fun flight => flight.1.loop = none ∧ stripe flight.1.key = stripe key then world else (world.begin_ key none).2

def loadAsync (world : World κ ν) (loop : ℕ) (key : κ) : World κ ν := match world.cache.pending loop key with
  | some _ => world
  | none =>
    let begun := world.begin_ key (some loop)
    {begun.2 with cache := begun.2.cache.await loop begun.1}

def store (settings : Settings) (world : World κ ν) (id : ℕ) (value : ν) (now : ℚ) : World κ ν := match world.flight id [.loading] with
  | none => world
  | some load =>
    {world with
      cache := world.cache.storeLoaded settings load value now
      flights := world.advance id .loaded
      log := if world.cache.current load then .populated load :: .stored load.key value now :: world.log else world.log}

def finish (world : World κ ν) (id : ℕ) : World κ ν := match world.flight id [.loading,.loaded] with
  | none => world
  | some load =>
    {world with
      cache := world.cache.endLoad load
      flights := if load.loop = none then world.flights.filter fun flight => flight.1.id ≠ id else world.advance id .ended}

def settle (world : World κ ν) (id : ℕ) : World κ ν := match world.flight id [.ended] with
  | none => world
  | some load =>
    {world with
      cache := match load.loop with
        | none => world.cache
        | some loop => world.cache.settle loop load
      flights := world.flights.filter fun flight => flight.1.id ≠ id}

def drop (world : World κ ν) (loop : ℕ) : World κ ν :=
  {world with cache := {world.cache with pending := Function.update world.cache.pending loop fun _ => none}}

def apply (settings : Settings) (stripe : κ → ℕ) : Op κ ν → World κ ν → World κ ν
  | .get key now, world => world.get settings key now
  | .set key value now, world => world.set settings key value now
  | .invalidate key, world => world.invalidate key
  | .clear, world => world.clear
  | .load key, world => world.load stripe key
  | .loadAsync loop key, world => world.loadAsync loop key
  | .store id value now, world => world.store settings id value now
  | .finish id, world => world.finish id
  | .settle id, world => world.settle id
  | .drop loop, world => world.drop loop

def run (settings : Settings) (stripe : κ → ℕ) (ops : List (Op κ ν)) : World κ ν := Runs.exec (apply settings stripe) {} ops

end World

end GmsRemoteTest.TtlCache
