import FeatureFlags.Entries
import FeatureFlags.Identity

/-!
# Caches

A client keeps the last accepted snapshot, and of each identifier the last accepted identity until a
sweep finds it expired.  A record is fresh while its age is below its lifetime; it has expired once
its lifetime has passed.  Both are decided by rounded arithmetic of doubles, in the order of
operations that is written here.
-/

set_option autoImplicit false

namespace FeatureFlags

def isFresh (now fetchedAt lifetime : Double) : Bool :=
  (now - fetchedAt).lt lifetime

def isExpired (now fetchedAt lifetime : Double) : Bool :=
  (fetchedAt + lifetime).lt now

/-- How long a snapshot and an identity stay fresh, in seconds. -/
structure Lifetimes where
  state : Double
  identity : Double

def Lifetimes.usual : Lifetimes :=
  ⟨.ofInt 60, .ofInt 5⟩

structure Cache where
  lifetimes : Lifetimes
  /-- Whether a new snapshot sweeps the identities. -/
  linked : Bool
  snapshot : Snapshot
  identities : List (String × Identity)

namespace Cache

def empty (lifetimes : Lifetimes) (linked : Bool) : Cache :=
  ⟨lifetimes, linked, .empty, []⟩

def isStateFresh (now : Double) (cache : Cache) : Bool :=
  cache.snapshot.refreshedAt.any fun refreshedAt => isFresh now refreshedAt cache.lifetimes.state

def isIdentityFresh (now : Double) (identity : Identity) (cache : Cache) : Bool :=
  isFresh now identity.fetchedAt cache.lifetimes.identity

def identity? (identifier : String) (cache : Cache) : Option Identity :=
  cache.identities.lookup identifier

def freshIdentity? (now : Double) (identifier : String) (cache : Cache) : Option Identity :=
  (cache.identity? identifier).filter fun identity => cache.isIdentityFresh now identity

def freshSnapshot? (now : Double) (cache : Cache) : Option Snapshot :=
  if cache.isStateFresh now then some cache.snapshot else none

/-- Whether a sweep that keeps one identifier removes an entry. -/
def isStale (now : Double) (keep : Option String) (cache : Cache) (entry : String × Identity) :
    Bool :=
  keep != some entry.1 && isExpired now entry.2.fetchedAt cache.lifetimes.identity

/-- Removes the expired identities, except the one to keep. -/
def sweep (now : Double) (keep : Option String) (cache : Cache) : Cache :=
  { cache with identities := cache.identities.filter fun entry => !cache.isStale now keep entry }

def staleCount (now : Double) (keep : Option String) (cache : Cache) : Nat :=
  cache.identities.countP (cache.isStale now keep)

def withSnapshot (snapshot : Snapshot) (cache : Cache) : Cache :=
  { cache with snapshot := snapshot }

def withIdentity (identity : Identity) (cache : Cache) : Cache :=
  { cache with identities := Entries.put identity.identifier identity cache.identities }

end Cache

end FeatureFlags
