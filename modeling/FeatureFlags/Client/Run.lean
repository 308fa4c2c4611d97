import FeatureFlags.Client.Service

/-!
# Runs of a client

Whatever happens to a client is a step: a move of its calls and fetches, a new reading of the clock,
or a sweep that is asked for from outside.  Steps may come in any order.
-/

set_option autoImplicit false

namespace FeatureFlags.Client

inductive Step where
  | move (action : Action)
  | clock (now : Double)
  | sweep (now : Double) (keep : Option String)

def onClient (change : Client → Client) (state : State) : State :=
  { state with world := change state.world }

def step (state : State) : Step → State
  | .move action => Flight.State.step service state action
  | .clock now => onClient ({ · with now := now }) state
  | .sweep now keep => onClient (·.sweep now keep) state

def run (state : State) (steps : List Step) : State :=
  steps.foldl step state

end FeatureFlags.Client
