import FeatureFlags.Proofs.Client.Moments
import FeatureFlags.Proofs.Flight.Agenda

/-!
# What is due in a run

Turns are taken in the order in which they became due, whatever happens between them.  So what is
due at a moment has its turn once as many turns have been taken as were due then (`turn_of_due`).
-/

set_option autoImplicit false

namespace FeatureFlags.Client

def Step.isTurn : Step → Bool
  | .move (.turn _) => true
  | _ => false

namespace Run

variable (run : Run)

def turns (moment : Nat) : Nat :=
  (run.steps.take moment).countP Step.isTurn

theorem turns_succ_of_turn {moment : Nat} {given : Option Reply}
    (turn : run.steps[moment]? = some (.move (.turn given))) :
    run.turns (moment + 1) = run.turns moment + 1 := by
  simp [turns, List.take_add_one, turn, Step.isTurn]

theorem turns_succ_of_not_turn {moment : Nat}
    (noTurn : ∀ given, run.steps[moment]? ≠ some (.move (.turn given))) :
    run.turns (moment + 1) = run.turns moment := by
  cases present : run.steps[moment]? with
  | none => simp [turns, List.take_add_one, present]
  | some taken =>
      have other : taken.isTurn = false := by
        cases taken with
        | clock now => rfl
        | sweep now keep => rfl
        | move action =>
            cases action with
            | turn given => exact absurd present (noTurn given)
            | call stage notifies => rfl
            | answer fetch reply => rfl
            | cancel caller => rfl
            | cancelFetch fetch => rfl
      simp [turns, List.take_add_one, present, other]

theorem agenda_succ_of_not_turn {moment : Nat}
    (noTurn : ∀ given, run.steps[moment]? ≠ some (.move (.turn given))) :
    Flight.AddsTurns (run.state moment) (run.state (moment + 1)) := by
  cases present : run.steps[moment]? with
  | none => exact .of_eq (by rw [run.state_succ_of_none present])
  | some taken =>
      rw [run.state_succ_of_step present]
      cases taken with
      | clock now => exact .of_eq rfl
      | sweep now keep => exact .of_eq rfl
      | move action =>
          refine Flight.step_adds service fun given same => noTurn given ?_
          rw [present, same]

/-- Until all that was due has had its turn, each turn takes one of it from the front. -/
theorem agenda_later {first later : Nat} (order : first ≤ later)
    (pending : run.turns later ≤ run.turns first + (run.state first).agenda.length) :
    ∃ taken added, run.turns later = run.turns first + taken ∧
      (run.state later).agenda = (run.state first).agenda.drop taken ++ added := by
  induction order with
  | refl => exact ⟨0, [], rfl, (List.append_nil _).symm⟩
  | @step later order inductionHypothesis =>
      by_cases turn : ∃ given, run.steps[later]? = some (.move (.turn given))
      · obtain ⟨given, turn⟩ := turn
        rw [run.turns_succ_of_turn turn] at pending ⊢
        obtain ⟨taken, added, count, agenda⟩ := inductionHypothesis (by omega)
        have inRange : taken < (run.state first).agenda.length := by omega
        rw [List.drop_eq_getElem_cons inRange, List.cons_append] at agenda
        obtain ⟨more, rest⟩ := Flight.turn_adds service agenda given
        refine ⟨taken + 1, added ++ more, by omega, ?_⟩
        rw [run.state_succ_of_step turn, ← List.append_assoc]
        exact rest
      · have noTurn : ∀ given, run.steps[later]? ≠ some (.move (.turn given)) :=
          fun given present => turn ⟨given, present⟩
        rw [run.turns_succ_of_not_turn noTurn] at pending ⊢
        obtain ⟨taken, added, count, agenda⟩ := inductionHypothesis pending
        obtain ⟨more, rest⟩ := run.agenda_succ_of_not_turn noTurn
        refine ⟨taken, added ++ more, count, ?_⟩
        rw [rest, agenda, List.append_assoc]

/-- Each of the turns between two moments is taken at some moment. -/
theorem turn_at {first last count : Nat} (order : first ≤ last) (after : run.turns first ≤ count)
    (before : count < run.turns last) :
    ∃ moment given, first ≤ moment ∧ moment < last ∧
      run.steps[moment]? = some (.move (.turn given)) ∧ run.turns moment = count := by
  induction order with
  | refl => exact absurd before (Nat.not_lt.mpr after)
  | @step last order inductionHypothesis =>
      by_cases earlier : count < run.turns last
      · obtain ⟨moment, given, since, sooner, turn, same⟩ := inductionHypothesis earlier
        exact ⟨moment, given, since, Nat.lt_succ_of_lt sooner, turn, same⟩
      · by_cases turn : ∃ given, run.steps[last]? = some (.move (.turn given))
        · obtain ⟨given, turn⟩ := turn
          rw [run.turns_succ_of_turn turn] at before
          exact ⟨last, given, order, Nat.lt_succ_self last, turn, by omega⟩
        · rw [run.turns_succ_of_not_turn fun given present => turn ⟨given, present⟩] at before
          exact absurd before earlier

/-- What is due has its turn once all that is due with it could have had one. -/
theorem turn_of_due {first last : Nat} {due : Flight.Turn} (order : first ≤ last)
    (member : due ∈ (run.state first).agenda)
    (enough : run.turns first + (run.state first).agenda.length ≤ run.turns last) :
    ∃ moment given rest, first ≤ moment ∧ moment < last ∧
      run.steps[moment]? = some (.move (.turn given)) ∧
        (run.state moment).agenda = due :: rest := by
  obtain ⟨place, inRange, found⟩ := List.getElem_of_mem member
  obtain ⟨moment, given, after, before, turn, count⟩ :=
    run.turn_at order (Nat.le_add_right (run.turns first) place) (by omega)
  obtain ⟨taken, added, sameCount, agenda⟩ := run.agenda_later after (by omega)
  obtain rfl : taken = place := by omega
  rw [List.drop_eq_getElem_cons inRange, found, List.cons_append] at agenda
  exact ⟨moment, given, _, after, before, turn, agenda⟩

end Run

end FeatureFlags.Client
