import FeatureFlags.Flight.Basic

/-!
# Two ways to learn an ending

Who awaits the task of a call is given its result or its error.  If the call has a callback, then
that is called with the error and the result, of which one is null, and the task itself has nothing
to give.  A cancelled call ends as cancelled either way.
-/

set_option autoImplicit false

namespace FeatureFlags.Flight

variable {Stage Record Output : Type}

structure Notice (Output : Type) where
  error : Option Error
  value : Option Output

/-- What a callback does with a notice: it returns, or raises an error. -/
abbrev Callback (Output : Type) := Notice Output → Except Error Unit

def Ending.notice? : Ending Output → Option (Notice Output)
  | .ok output => some ⟨none, some output⟩
  | .failed error => some ⟨some error, none⟩
  | .cancelled => none

def Callback.raised? (callback : Callback Output) (notice : Notice Output) : Option Error :=
  match callback notice with
  | .ok () => none
  | .error error => some error

/-- How the task of a call ends; without a result it is null. -/
def Ending.returned (notifies : Bool) : Ending Output → Ending (Option Output)
  | .ok output => .ok (if notifies then none else some output)
  | .failed error => if notifies then .ok none else .failed error
  | .cancelled => .cancelled

def Ending.nulled : Ending (Option Output) → Ending (Option Output)
  | .cancelled => .cancelled
  | _ => .ok none

def Caller.returned? (caller : Caller Stage Record Output) : Option (Ending (Option Output)) :=
  caller.phase.ending?.map (·.returned caller.notifies)

end FeatureFlags.Flight
