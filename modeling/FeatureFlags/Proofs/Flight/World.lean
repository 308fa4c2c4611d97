import FeatureFlags.Proofs.Flight.Fetches

/-!
# What a step does to the world

`Next.world` looks at a step from the world: it stays, it moves by itself, a caller changes it in
its turn, or a fetch does so when its reply is there, and then that fetch ends.
-/

set_option autoImplicit false

namespace FeatureFlags.Flight

variable {World Key Stage Reply Record Output : Type}

open State

inductive WorldChange (outside : Outside World)
    (service : Service World Key Stage Reply Record Output)
    (state after : State World Key Stage Reply Record Output) : Prop where
  | kept (world : after.world = state.world)
  | drifted (drifts : outside.drift state.world after.world)
  | proceeded (caller : Nat) (phase : CallerPhase Stage Record Output)
      (move : Move Key Stage Output) (proceeds : Proceeds service state after caller phase move)
  | departed (phase : CallerPhase Stage Record Output)
      (leaves : phase.leave? service state.world = some after.world)
  | replied (key : Key) (fetch : Nat) (reply : Reply) (unfinished : state.Unfinished key fetch)
      (world : after.world = (service.accept key reply state.world).1)
      (finished : after.fetchPhase? fetch =
        some (.finished (.ofExcept (service.accept key reply state.world).2)))

theorem Next.world [DecidableEq Key] {outside : Outside World}
    {service : Service World Key Stage Reply Record Output}
    {state after : State World Key Stage Reply Record Output} (registered : Registered state)
    (next : Next outside service state after) : WorldChange outside service state after := by
  cases next with
  | worldChanged world drifts => exact .drifted drifts
  | completed fetch found given reply rest agenda present replied =>
      refine .replied found.key fetch reply (unfinished_of_reply present replied) rfl ?_
      exact fetchPhase?_setFetch_self
        { state with agenda := rest, world := (service.accept found.key reply state.world).1 }
        (fetchPhase?_of_fetch? state present) _
  | concluded caller phase world result rest agenda present moves =>
      refine .proceeded caller phase (.finish result) ⟨by simp [agenda], present, moves, ?_⟩
      exact callerPhase?_setCaller_self { state with agenda := rest, world := world } present _
  | joined caller phase world key stage fetch rest agenda present moves shared =>
      refine .proceeded caller phase (.await key stage) ⟨by simp [agenda], present, moves, ?_⟩
      exact joined_reached present ((registered.open?_eq_some_iff key fetch).mp shared)
  | launched caller phase world key stage rest agenda present moves unshared =>
      exact .proceeded caller phase (.await key stage)
        ⟨by simp [agenda], present, moves, launched_reached present⟩
  | departed caller phase world rest agenda present leaves => exact .departed phase leaves
  | _ => exact .kept rfl

end FeatureFlags.Flight
