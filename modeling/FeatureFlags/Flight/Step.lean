import FeatureFlags.Entries
import FeatureFlags.Flight.Basic

/-!
# What moves shared fetches

An `Action` is one indivisible step: a new call, the next turn that is due, the reply to a request,
or a cancellation.  Turns are taken in the order in which they became due.  A call joins the fetch
that is registered for its key unless that has ended; else it registers a new one, even if the ended
one is still waiting for its turn to leave the registry.
-/

set_option autoImplicit false

namespace FeatureFlags.Flight

variable {World Key Stage Reply Record Output : Type}

inductive Action (Stage Reply : Type) where
  | call (stage : Stage) (notifies : Bool)
  /-- The next turn.  A fetch that starts in it may have its reply at once. -/
  | turn (reply : Option Reply)
  | answer (fetch : Nat) (reply : Reply)
  | cancel (caller : Nat)
  | cancelFetch (fetch : Nat)

namespace State

def schedule (turns : List Turn) (state : State World Key Stage Reply Record Output) :
    State World Key Stage Reply Record Output :=
  { state with agenda := state.agenda ++ turns }

def setFetch (fetch : Nat) (phase : FetchPhase Reply Record)
    (state : State World Key Stage Reply Record Output) :
    State World Key Stage Reply Record Output :=
  { state with fetches := state.fetches.modify fetch fun found => { found with phase := phase } }

def setCaller (caller : Nat) (phase : CallerPhase Stage Record Output)
    (state : State World Key Stage Reply Record Output) :
    State World Key Stage Reply Record Output :=
  { state with callers := state.callers.modify caller fun found => { found with phase := phase } }

/-! ## Callers -/

def call (stage : Stage) (notifies : Bool) (state : State World Key Stage Reply Record Output) :
    State World Key Stage Reply Record Output :=
  schedule [.caller state.callers.length]
    { state with callers := state.callers ++ [⟨.ready stage, notifies⟩] }

def join (fetch caller : Nat) (state : State World Key Stage Reply Record Output) :
    State World Key Stage Reply Record Output :=
  { state with
    fetches := state.fetches.modify fetch fun found =>
      { found with waiters := found.waiters ++ [caller] } }

def launch [BEq Key] (key : Key) (caller : Nat)
    (state : State World Key Stage Reply Record Output) :
    State World Key Stage Reply Record Output :=
  schedule [.fetch state.fetches.length]
    { state with
      fetches := state.fetches ++ [⟨key, .scheduled, [caller]⟩]
      registry := Entries.put key state.fetches.length state.registry }

/-- Lets a caller wait for the fetch of a key, a new one if none is open. -/
def await [BEq Key] (key : Key) (stage : Stage) (caller : Nat)
    (state : State World Key Stage Reply Record Output) :
    State World Key Stage Reply Record Output :=
  match state.open? key with
  | some fetch => (state.join fetch caller).setCaller caller (.waiting stage fetch)
  | none =>
      (state.launch key caller).setCaller caller (.waiting stage state.fetches.length)

/-- Ends a caller; unless it was cancelled, its callback becomes due. -/
def finishCaller (caller : Nat) (ending : Ending Output)
    (state : State World Key Stage Reply Record Output) :
    State World Key Stage Reply Record Output :=
  let finished := state.setCaller caller (.finished ending)
  match ending with
  | .cancelled => finished
  | .ok _ | .failed _ =>
      if (state.caller? caller).any (·.notifies) then finished.schedule [.notify caller]
      else finished

def move [BEq Key] (caller : Nat) (next : World × Move Key Stage Output)
    (state : State World Key Stage Reply Record Output) :
    State World Key Stage Reply Record Output :=
  let moved := { state with world := next.1 }
  match next.2 with
  | .finish result => moved.finishCaller caller (.ofExcept result)
  | .await key stage => moved.await key stage caller

def runCaller [BEq Key] (service : Service World Key Stage Reply Record Output) (caller : Nat)
    (state : State World Key Stage Reply Record Output) :
    State World Key Stage Reply Record Output :=
  match state.callerPhase? caller with
  | some (.ready stage) => state.move caller (service.enter stage state.world)
  | some (.woken stage _ (.ok record)) =>
      state.move caller (service.resume stage (.ok record) state.world)
  | some (.woken stage _ (.failed error)) =>
      state.move caller (service.resume stage (.error error) state.world)
  | some (.woken stage _ .cancelled) | some (.leaving (some stage)) =>
      finishCaller caller .cancelled { state with world := service.leave stage state.world }
  | some (.leaving none) => state.finishCaller caller .cancelled
  | _ => state

/-- Asks a caller to end as cancelled at its next turn, whatever it waits for. -/
def cancel (caller : Nat) (state : State World Key Stage Reply Record Output) :
    State World Key Stage Reply Record Output :=
  match state.callerPhase? caller with
  | some (.ready _) => state.setCaller caller (.leaving none)
  | some (.waiting stage _) =>
      (state.setCaller caller (.leaving (some stage))).schedule [.caller caller]
  | some (.woken stage _ _) => state.setCaller caller (.leaving (some stage))
  | _ => state

/-! ## Fetches -/

/-- Ends a fetch: it is to be forgotten, and its waiters are to be told in their order. -/
def finishFetch (fetch : Nat) (ending : Ending Record)
    (state : State World Key Stage Reply Record Output) :
    State World Key Stage Reply Record Output :=
  let waiters := ((state.fetch? fetch).map (·.waiters)).getD []
  (state.setFetch fetch (.finished ending)).schedule
    (.forget fetch :: waiters.map (.deliver fetch ·))

def complete (service : Service World Key Stage Reply Record Output) (fetch : Nat) (key : Key)
    (reply : Reply) (state : State World Key Stage Reply Record Output) :
    State World Key Stage Reply Record Output :=
  let accepted := service.accept key reply state.world
  finishFetch fetch (.ofExcept accepted.2) { state with world := accepted.1 }

def runFetch (service : Service World Key Stage Reply Record Output) (reply : Option Reply)
    (fetch : Nat) (state : State World Key Stage Reply Record Output) :
    State World Key Stage Reply Record Output :=
  match state.fetch? fetch with
  | some ⟨key, .scheduled, _⟩ =>
      match reply with
      | some reply => state.complete service fetch key reply
      | none => state.setFetch fetch .waiting
  | some ⟨key, .answered reply, _⟩ => state.complete service fetch key reply
  | some ⟨_, .cancelling, _⟩ => state.finishFetch fetch .cancelled
  | _ => state

def answer (fetch : Nat) (reply : Reply) (state : State World Key Stage Reply Record Output) :
    State World Key Stage Reply Record Output :=
  match state.fetchPhase? fetch with
  | some .waiting => (state.setFetch fetch (.answered reply)).schedule [.fetch fetch]
  | _ => state

/-- Asks a fetch to end as cancelled at its next turn. -/
def cancelFetch (fetch : Nat) (state : State World Key Stage Reply Record Output) :
    State World Key Stage Reply Record Output :=
  match state.fetchPhase? fetch with
  | some .scheduled | some (.answered _) => state.setFetch fetch .cancelling
  | some .waiting => (state.setFetch fetch .cancelling).schedule [.fetch fetch]
  | _ => state

/-- Removes a fetch from the registry, if it is still the one registered for its key. -/
def forget [BEq Key] (fetch : Nat) (state : State World Key Stage Reply Record Output) :
    State World Key Stage Reply Record Output :=
  { state with
    registry := state.registry.filter fun (key, registered) =>
      !(registered == fetch && (state.fetch? fetch).any (·.key == key)) }

/-- Tells a waiter how its fetch ended; a caller that no longer waits for it is left alone. -/
def deliver (fetch caller : Nat) (state : State World Key Stage Reply Record Output) :
    State World Key Stage Reply Record Output :=
  match state.callerPhase? caller, state.fetchPhase? fetch with
  | some (.waiting stage awaited), some (.finished ending) =>
      if awaited = fetch then
        (state.setCaller caller (.woken stage fetch ending)).schedule [.caller caller]
      else state
  | _, _ => state

/-! ## Turns and actions -/

def take [BEq Key] (service : Service World Key Stage Reply Record Output)
    (reply : Option Reply) (state : State World Key Stage Reply Record Output) :
    Turn → State World Key Stage Reply Record Output
  | .fetch fetch => state.runFetch service reply fetch
  | .forget fetch => state.forget fetch
  | .deliver fetch caller => state.deliver fetch caller
  | .caller caller => state.runCaller service caller
  | .notify caller => { state with notified := state.notified ++ [caller] }

def turn [BEq Key] (service : Service World Key Stage Reply Record Output) (reply : Option Reply)
    (state : State World Key Stage Reply Record Output) :
    State World Key Stage Reply Record Output :=
  match state.agenda with
  | [] => state
  | due :: rest => take service reply { state with agenda := rest } due

def step [BEq Key] (service : Service World Key Stage Reply Record Output)
    (state : State World Key Stage Reply Record Output) :
    Action Stage Reply → State World Key Stage Reply Record Output
  | .call stage notifies => state.call stage notifies
  | .turn reply => state.turn service reply
  | .answer fetch reply => state.answer fetch reply
  | .cancel caller => state.cancel caller
  | .cancelFetch fetch => state.cancelFetch fetch

def run [BEq Key] (service : Service World Key Stage Reply Record Output)
    (state : State World Key Stage Reply Record Output) (actions : List (Action Stage Reply)) :
    State World Key Stage Reply Record Output :=
  actions.foldl (step service) state

/-! ## Running until nothing is due -/

/-- Turns enough for callers that wait at most three times: each wait takes a turn of the fetch, one
to forget it, one to deliver its ending and one of the caller. -/
def turnBound (state : State World Key Stage Reply Record Output) : Nat :=
  16 * (state.callers.length + 1) + state.agenda.length

/-- Takes turns until none is due, at most as many as given; requests are left waiting. -/
def settleFor [BEq Key] (service : Service World Key Stage Reply Record Output) :
    Nat → State World Key Stage Reply Record Output → State World Key Stage Reply Record Output
  | 0, state => state
  | fuel + 1, state =>
      if state.isQuiet then state else settleFor service fuel (state.turn service none)

def settle [BEq Key] (service : Service World Key Stage Reply Record Output)
    (state : State World Key Stage Reply Record Output) :
    State World Key Stage Reply Record Output :=
  settleFor service state.turnBound state

end State

end FeatureFlags.Flight
