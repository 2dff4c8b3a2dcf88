import MmlScan.Pattern.Cache

/-!
# Shared pattern caches

Several handles can share one cache, and then each finds the patterns that were read through the
others.  All readings are counted together, so an object is told from all others in whichever cache
they are.
-/

namespace MmlScan

/-- Caches and the handles on them. -/
structure CachePool where
  stores : List PatternCache
  /-- The number of the cache that each handle is on. -/
  handles : List Nat
  /-- Number of patterns that have been read. -/
  readings : Nat
  deriving DecidableEq, Repr

namespace CachePool

/-- One handle on one empty cache. -/
def single : CachePool :=
  ⟨[.empty], [0], 0⟩

/-- The number of the cache of a handle. -/
def storeOf (pool : CachePool) (handle : Nat) : Nat :=
  pool.handles.getD handle 0

/-- The cache of a handle. -/
def cacheOf (pool : CachePool) (handle : Nat) : PatternCache :=
  pool.stores.getD (pool.storeOf handle) .empty

/-- Asks for a pattern through a handle. -/
def compile (pool : CachePool) (handle : Nat) (text : Text) (ignoreCase : Bool) :
    Except Diagnostic (SharedPattern × CachePool) :=
  match (pool.cacheOf handle).request pool.readings text ignoreCase with
  | .error diagnostic => .error diagnostic
  | .ok (object, cache, readings) =>
      let stores := pool.stores.set (pool.storeOf handle) cache
      .ok (object, { pool with stores := stores, readings := readings })

/-- Adds a handle on a cache. -/
def addHandle (pool : CachePool) (store : Nat) : CachePool :=
  { pool with handles := pool.handles ++ [store] }

/-- Adds a handle that shares the cache of another one. -/
def share (pool : CachePool) (handle : Nat) : CachePool :=
  pool.addHandle (pool.storeOf handle)

/-- Adds an empty cache. -/
def addStore (pool : CachePool) : CachePool :=
  { pool with stores := pool.stores ++ [.empty] }

/-- Adds a handle on an empty cache of its own. -/
def fresh (pool : CachePool) : CachePool :=
  pool.addStore.addHandle pool.stores.length

end CachePool

end MmlScan
