import FeatureFlags.Session.Basic

/-!
# Scripts

A script is a list of steps: calls of the client, changes to its clock and its source, and
questions about its caches.  After each step the session takes all turns that are due and reports.
A call that then still waits is cancelled and reported as blocked, unless it was to go on under a
name.
-/

set_option autoImplicit false

namespace FeatureFlags

namespace Session

inductive Kind where
  | state
  | identity
  deriving DecidableEq, Repr

inductive Step where
  | call (call : Client.Call) (notifies : Bool) (name : Option String)
  | advance (seconds : Double)
  | setClock (now : Double)
  | setFlags (flags : Value)
  | setOverrides (overrides : Value)
  | setIdentity (identifier : String) (overrides : Overrides)
  | setError (kind : Kind) (error : Option Error)
  | setRaw (kind : Kind) (value : Option Value)
  | setReply (path : String) (reply : Http.Reply)
  | hold (on : Bool)
  /-- Brings one of the replies held back, or all of them. -/
  | release (index : Option Nat)
  | cancel (name : String)
  | sweep (now : Option Double) (keep : Option String)
  | contains (identifier : String)
  | find (identifier : String)
  | isFresh (fetchedAt : Double) (now : Option Double)
  | snapshot
  | settings
  | close

/-- The ending of a call; a notifying call reports what its callback was given. -/
inductive Outcome where
  | plain (ending : Flight.Ending Client.Answer)
  | notified (endings : List (Flight.Ending Client.Answer))

inductive Result where
  | none
  | ended (outcome : Outcome)
  | blocked (notifies : Bool)
  | count (number : Nat)
  | truth (holds : Bool)
  | identity (identity : Option Identity)
  | snapshot (snapshot : Snapshot)
  | settings (settings : Option Settings)
  | closings (number : Option Nat)

structure Report where
  result : Result
  events : List Log.Event
  requests : List Http.Request
  finished : List (String × Outcome)
  pending : List String
  after : Session

/-! ## Steps on the source -/

def updateMemory (change : Memory → Memory) (session : Session) : Session :=
  match session.source with
  | .memory memory => { session with source := .memory (change memory) }
  | .web _ => session

def updateWeb (change : Web → Web) (session : Session) : Session :=
  match session.source with
  | .web web => { session with source := .web (change web) }
  | .memory _ => session

def setError (kind : Kind) (error : Option Error) (memory : Memory) : Memory :=
  match kind with
  | .state => { memory with stateError := error }
  | .identity => { memory with identityError := error }

def setRaw (kind : Kind) (value : Option Value) (memory : Memory) : Memory :=
  match kind with
  | .state => { memory with rawState := value }
  | .identity => { memory with rawIdentity := value }

/-- How often a source in memory has been closed. -/
def closings? (session : Session) : Option Nat :=
  match session.source with
  | .memory memory => some memory.closings
  | .web _ => none

def requests (session : Session) : List Http.Request :=
  match session.source with
  | .memory _ => []
  | .web web => web.sent

/-! ## Running a step -/

/-- What a caller came to: a notifying one reports the callbacks that were called for it. -/
def outcome? (caller : Nat) (session : Session) : Option Outcome :=
  match session.ending? caller, (session.state.caller? caller).map Flight.Caller.notifies with
  | some .cancelled, _ => some (.plain .cancelled)
  | some ending, some true =>
      some (.notified ((session.state.notified.filter (· == caller)).map fun _ => ending))
  | some ending, _ => some (.plain ending)
  | none, _ => none

/-- Makes a call and lets it run; a nameless call that still waits is cancelled. -/
def runCall (call : Client.Call) (notifies : Bool) (name : Option String) (session : Session) :
    Session × Result :=
  let caller := session.state.callers.length
  let settled := (session.call call notifies).settle
  match name with
  | some name =>
      ({ settled with running := settled.running ++ [⟨name, caller⟩], spawned := true }, .none)
  | none =>
      match settled.outcome? caller with
      | some outcome => (settled, .ended outcome)
      | none => ((settled.cancel caller).settle, .blocked notifies)

def release (index : Option Nat) (session : Session) : Session :=
  let (brought, left) :=
    match index with
    | none => (session.held, [])
    | some place => (session.held[place]?.toList, session.held.eraseIdx place)
  (brought.foldl (fun (after : Session) held => after.bring held)
    { session with held := left }).settle

def cancelNamed (name : String) (session : Session) : Session :=
  match session.running.find? (·.name == name) with
  | some running => (session.cancel running.caller).settle
  | none => session

def perform (session : Session) : Step → Session × Result
  | .call call notifies name => session.runCall call notifies name
  | .advance seconds => (session.apply (.clock (session.client.now + seconds)), .none)
  | .setClock now => (session.apply (.clock now), .none)
  | .setFlags flags => (session.updateMemory ({ · with flags := flags }), .none)
  | .setOverrides overrides =>
      (session.updateMemory ({ · with overrides := overrides }), .none)
  | .setIdentity identifier overrides =>
      (session.updateMemory (·.setIdentity identifier overrides), .none)
  | .setError kind error => (session.updateMemory (setError kind error), .none)
  | .setRaw kind value => (session.updateMemory (setRaw kind value), .none)
  | .setReply path reply => (session.updateWeb (·.setReply path reply), .none)
  | .hold on => ({ session with holding := on }, .none)
  | .release index => (session.release index, .none)
  | .cancel name => (session.cancelNamed name, .none)
  | .sweep now keep =>
      let moment := now.getD session.client.now
      (session.apply (.sweep moment keep), .count (session.client.cache.staleCount moment keep))
  | .contains identifier =>
      (session, .truth (session.client.cache.identity? identifier).isSome)
  | .find identifier => (session, .identity (session.client.cache.identity? identifier))
  | .isFresh fetchedAt now =>
      (session, .truth (FeatureFlags.isFresh (now.getD session.client.now) fetchedAt
        session.client.cache.lifetimes.identity))
  | .snapshot => (session, .snapshot session.client.cache.snapshot)
  | .settings => (session, .settings session.settings)
  | .close => let closed := session.close; (closed, .closings closed.closings?)

def runStep (session : Session) (step : Step) : Report :=
  let (performed, result) := session.perform step
  let ended := performed.running.filterMap fun running =>
    (performed.outcome? running.caller).map (running.name, ·)
  let left := performed.running.filter fun running =>
    (performed.outcome? running.caller).isNone
  ⟨result, performed.client.events.drop session.client.events.length,
    performed.requests.drop session.requests.length, ended, left.map (·.name),
    { performed with running := left }⟩

def run (session : Session) : List Step → List Report
  | [] => []
  | step :: rest =>
      let report := session.runStep step
      report :: report.after.run rest

end Session

end FeatureFlags
