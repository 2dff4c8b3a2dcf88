import MmlScan.Scanner

/-!
# Scanners that share pattern caches

A pool holds several scanners at work.  Each of them uses one of the caches of the pool, and what
one scanner adds to a cache is there for all that share it.
-/

namespace MmlScan

/-- A scanner and the number of the cache it uses. -/
structure PooledScanner where
  store : Nat
  scanner : Scanner

/-- Scanners at work and the caches they use. -/
structure ScannerPool where
  stores : List PatternCache
  members : List PooledScanner

namespace ScannerPool

/-- One scanner with a cache of its own. -/
def single (scanner : Scanner) : ScannerPool :=
  ⟨[scanner.patterns], [⟨0, scanner⟩]⟩

/-- A scanner of the pool, with what its cache holds by now. -/
def get? (pool : ScannerPool) (index : Nat) : Option PooledScanner :=
  pool.members[index]?.map fun member =>
    { member with
        scanner :=
          { member.scanner with
              patterns := pool.stores.getD member.store member.scanner.patterns } }

/-- Applies an operation to one scanner.  The cache it leaves is the one that the others find. -/
def run? {α : Type} (pool : ScannerPool) (index : Nat) (operation : Scanner → α × Scanner) :
    Option (α × ScannerPool) :=
  (pool.get? index).map fun member =>
    let (result, after) := operation member.scanner
    (result,
      { stores := pool.stores.set member.store after.patterns
        members := pool.members.set index ⟨member.store, after⟩ })

/-- Adds a scanner with a cache of its own. -/
def add (pool : ScannerPool) (scanner : Scanner) : ScannerPool :=
  ⟨pool.stores ++ [scanner.patterns], pool.members ++ [⟨pool.stores.length, scanner⟩]⟩

/-- Adds a scanner of another text that shares the cache of a scanner of the pool. -/
def addSharing (pool : ScannerPool) (index : Nat) (text : Text) : ScannerPool :=
  match pool.get? index with
  | some member =>
      { pool with
          members :=
            pool.members ++ [⟨member.store, .withPatterns text member.scanner.patterns⟩] }
  | none => pool

/-- Adds a copy of a scanner of the pool, which shares its cache. -/
def addCopy (pool : ScannerPool) (index : Nat) : ScannerPool :=
  match pool.get? index with
  | some member => { pool with members := pool.members ++ [member] }
  | none => pool

end ScannerPool

end MmlScan
