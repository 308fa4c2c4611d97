import FeatureFlags.Client.Run
import FeatureFlags.Source.Basic

/-!
# A client at work

A session is a client with its source.  It takes turns until none is due; a request is replied to in
the turn that sends it, unless replies are held back.
-/

set_option autoImplicit false

namespace FeatureFlags

structure Held where
  fetch : Nat
  resource : Resource
  reply : Except Error Value

structure Running where
  name : String
  caller : Nat

structure Session where
  settings : Option Settings
  source : Source
  state : Client.State
  holding : Bool
  held : List Held
  running : List Running
  spawned : Bool

namespace Session

def new (settings : Option Settings) (source : Source) (client : Client) : Session :=
  ⟨settings, source, .start client, false, [], [], false⟩

def client (session : Session) : Client :=
  session.state.world

def apply (step : Client.Step) (session : Session) : Session :=
  { session with state := Client.step session.state step }

/-- Closes the source, which the log of the client may tell. -/
def close (session : Session) : Session :=
  let (source, logged) := session.source.close
  let closed := { session with source := source }
  if logged then { closed with state := Client.onClient (·.log .closed) closed.state } else closed

/-- Takes one turn; a fetch that starts in it sends its request. -/
def takeTurn (session : Session) : Session :=
  match session.state.starting? with
  | none => session.apply (.move (.turn none))
  | some (fetch, resource) =>
      let (source, reply) := session.source.fetch resource
      let sent := { session with source := source }
      if session.holding && source.canHold then
        apply (.move (.turn none))
          { sent with held := session.held ++ [⟨fetch, resource, reply⟩] }
      else sent.apply (.move (.turn (some reply)))

/-- Takes one turn and closes the source if the client asked for that. -/
def turn (session : Session) : Session :=
  let after := session.takeTurn
  if session.client.closings < after.client.closings then after.close else after

def settleFor : Nat → Session → Session
  | 0, session => session
  | fuel + 1, session => if session.state.isQuiet then session else settleFor fuel session.turn

def settle (session : Session) : Session :=
  settleFor session.state.turnBound session

def call (call : Client.Call) (notifies : Bool) (session : Session) : Session :=
  session.apply (.move (.call (.start call) notifies))

def cancel (caller : Nat) (session : Session) : Session :=
  session.apply (.move (.cancel caller))

def bring (held : Held) (session : Session) : Session :=
  session.apply (.move (.answer held.fetch held.reply))

def ending? (session : Session) (caller : Nat) : Option (Flight.Ending Client.Answer) :=
  session.state.ending? caller

end Session

end FeatureFlags
