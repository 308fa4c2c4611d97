import FeatureFlags.Error

/-!
# Shared fetches

Callers that need the same thing at the same time share one fetch of it.  This module holds the
types: fetches, the callers that wait for them, the registry that finds the fetch of a key, and the
agenda of turns that are due.  A turn runs without interruption; what happens between two turns is
listed in `FeatureFlags.Flight.Step`.

A `Service` says what callers and fetches do in their turns: they read and change a world.
-/

set_option autoImplicit false

namespace FeatureFlags.Flight

inductive Ending (Result : Type) where
  | ok (result : Result)
  | failed (error : Error)
  | cancelled

def Ending.ofExcept {Result : Type} : Except Error Result → Ending Result
  | .ok result => .ok result
  | .error error => .failed error

inductive FetchPhase (Reply Record : Type) where
  /-- Its first turn is due. -/
  | scheduled
  /-- The request is out. -/
  | waiting
  /-- The reply is there and a turn is due. -/
  | answered (reply : Reply)
  /-- A turn is due, in which it ends as cancelled. -/
  | cancelling
  | finished (ending : Ending Record)

/-- The execution of one fetch, with its waiters in the order in which they joined. -/
structure Fetch (Key Reply Record : Type) where
  key : Key
  phase : FetchPhase Reply Record
  waiters : List Nat

inductive CallerPhase (Stage Record Output : Type) where
  /-- Its first turn is due. -/
  | ready (stage : Stage)
  | waiting (stage : Stage) (fetch : Nat)
  /-- Its fetch has ended and a turn is due. -/
  | woken (stage : Stage) (fetch : Nat) (ending : Ending Record)
  /-- A turn is due, in which it ends as cancelled; the stage says how far it had come. -/
  | leaving (stage : Option Stage)
  | finished (ending : Ending Output)

/-- One call in progress; a notifying caller announces its ending by a callback. -/
structure Caller (Stage Record Output : Type) where
  phase : CallerPhase Stage Record Output
  notifies : Bool

/-- What can be due.  Fetches and callers are named by their position. -/
inductive Turn where
  | fetch (fetch : Nat)
  /-- A finished fetch leaves the registry. -/
  | forget (fetch : Nat)
  /-- The ending of a fetch reaches one of its waiters. -/
  | deliver (fetch caller : Nat)
  | caller (caller : Nat)
  /-- The callback of a caller is called. -/
  | notify (caller : Nat)
  deriving DecidableEq, Repr

inductive Move (Key Stage Output : Type) where
  | finish (result : Except Error Output)
  | await (key : Key) (stage : Stage)

structure Service (World Key Stage Reply Record Output : Type) where
  /-- The first turn of a caller. -/
  enter : Stage → World → World × Move Key Stage Output
  /-- The turn of a caller whose fetch has ended. -/
  resume : Stage → Except Error Record → World → World × Move Key Stage Output
  /-- What a cancelled caller still does. -/
  leave : Stage → World → World
  /-- The last turn of a fetch, in which its reply is there. -/
  accept : Key → Reply → World → World × Except Error Record

structure State (World Key Stage Reply Record Output : Type) where
  world : World
  fetches : List (Fetch Key Reply Record)
  callers : List (Caller Stage Record Output)
  registry : List (Key × Nat)
  agenda : List Turn
  /-- The callers whose callback was called, in this order. -/
  notified : List Nat

variable {World Key Stage Reply Record Output : Type}

def FetchPhase.isFinished : FetchPhase Reply Record → Bool
  | .finished _ => true
  | _ => false

def CallerPhase.ending? : CallerPhase Stage Record Output → Option (Ending Output)
  | .finished ending => some ending
  | _ => none

namespace State

def start (world : World) : State World Key Stage Reply Record Output :=
  ⟨world, [], [], [], [], []⟩

def fetch? (state : State World Key Stage Reply Record Output) (fetch : Nat) :
    Option (Fetch Key Reply Record) :=
  state.fetches[fetch]?

def caller? (state : State World Key Stage Reply Record Output) (caller : Nat) :
    Option (Caller Stage Record Output) :=
  state.callers[caller]?

def fetchPhase? (state : State World Key Stage Reply Record Output) (fetch : Nat) :
    Option (FetchPhase Reply Record) :=
  (state.fetch? fetch).map Fetch.phase

def callerPhase? (state : State World Key Stage Reply Record Output) (caller : Nat) :
    Option (CallerPhase Stage Record Output) :=
  (state.caller? caller).map Caller.phase

def isOpen (state : State World Key Stage Reply Record Output) (fetch : Nat) : Bool :=
  (state.fetchPhase? fetch).any (!·.isFinished)

/-- The registered fetch of a key, unless it has ended. -/
def open? [BEq Key] (state : State World Key Stage Reply Record Output) (key : Key) : Option Nat :=
  (state.registry.lookup key).filter state.isOpen

def inFlight [BEq Key] (state : State World Key Stage Reply Record Output) (key : Key) : Bool :=
  (state.open? key).isSome

def ending? (state : State World Key Stage Reply Record Output) (caller : Nat) :
    Option (Ending Output) :=
  (state.callerPhase? caller).bind CallerPhase.ending?

def isQuiet (state : State World Key Stage Reply Record Output) : Bool :=
  state.agenda.isEmpty

/-- The fetch whose first turn is due next, with its key. -/
def starting? (state : State World Key Stage Reply Record Output) : Option (Nat × Key) :=
  match state.agenda with
  | .fetch fetch :: _ =>
      match state.fetch? fetch with
      | some ⟨key, .scheduled, _⟩ => some (fetch, key)
      | _ => none
  | _ => none

end State

end FeatureFlags.Flight
