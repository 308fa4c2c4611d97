import FeatureFlags.Proofs.Indexing
import FeatureFlags.Proofs.Snapshot.Spelling

/-!
# The indexes of a snapshot

The three indexes of a snapshot hold the last flag of each key, the last flag of each id and the
last override of each key, and nothing else.  When flags have equal ids exactly when they have equal
keys, the two indexes of flags hold the same flags, each from one place of the list
(`decode_indexes`).
-/

set_option autoImplicit false

namespace FeatureFlags.Snapshot

open Entries

structure Comparable (flags : List Flag) (overrides : List Override) : Prop where
  ids : ∀ flag ∈ flags, flag.id ≠ .double .nan
  keys : ∀ flag ∈ flags, flag.key ≠ .double .nan
  overrides : ∀ override ∈ overrides, override.key ≠ .double .nan

structure Faithful (snapshot : Snapshot) (flags : List Flag) (overrides : List Override) :
    Prop where
  byKey : Indexes Flag.key flags snapshot.flags
  byId : Indexes Flag.id flags snapshot.flagsById
  overrides : Indexes Override.key overrides snapshot.overrides

/-- The two indexes of flags lead to each other.  A stored flag is known by its place in the list,
as flags at two places can be alike. -/
structure Consistent (snapshot : Snapshot) (flags : List Flag) : Prop where
  byId : ∀ entry ∈ snapshot.flags, snapshot.flagsById.lookup entry.2.id = some entry.2 ∧
    ∃ place, LastUnder Flag.key flags entry.1 place entry.2 ∧
      LastUnder Flag.id flags entry.2.id place entry.2
  byKey : ∀ entry ∈ snapshot.flagsById, snapshot.flags.lookup entry.2.key = some entry.2 ∧
    ∃ place, LastUnder Flag.id flags entry.1 place entry.2 ∧
      LastUnder Flag.key flags entry.2.key place entry.2
  sameNumber : snapshot.flags.length = snapshot.flagsById.length

/-- From an entry of one index to the same flag in the other. -/
theorem transfer_of_indexes {nameOf otherOf : Flag → Key} {flags : List Flag}
    {entries others : List (Key × Flag)} (indexes : Indexes nameOf flags entries)
    (otherIndexes : Indexes otherOf flags others)
    (alike : ∀ flag ∈ flags, ∀ other ∈ flags,
      (nameOf flag == nameOf other) = (otherOf flag == otherOf other))
    (named : ∀ flag ∈ flags, (nameOf flag == nameOf flag) = true) {entry : Key × Flag}
    (stored : entry ∈ entries) :
    others.lookup (otherOf entry.2) = some entry.2 ∧
      ∃ place, LastUnder nameOf flags entry.1 place entry.2 ∧
        LastUnder otherOf flags (otherOf entry.2) place entry.2 := by
  obtain ⟨place, last⟩ := (indexes.lookup_iff entry.1 entry.2).mp (indexes.own entry stored).2
  have transferred := last.transfer alike named
  exact ⟨(otherIndexes.lookup_iff _ _).mpr ⟨place, transferred⟩, place, last, transferred⟩

theorem faithful_index {flags : List Flag} {overrides : List Override}
    (comparable : Comparable flags overrides) (refreshedAt : Double) :
    Faithful (index flags overrides refreshedAt) flags overrides where
  byKey := indexes_indexBy fun flag listed => Key.beq_self (comparable.keys flag listed)
  byId := indexes_indexBy fun flag listed => Key.beq_self (comparable.ids flag listed)
  overrides := indexes_indexBy fun override listed =>
    Key.beq_self (comparable.overrides override listed)

theorem consistent_index {flags : List Flag} {overrides : List Override}
    (comparable : Comparable flags overrides)
    (alike : ∀ flag ∈ flags, ∀ other ∈ flags, (flag.id == other.id) = (flag.key == other.key))
    (refreshedAt : Double) : Consistent (index flags overrides refreshedAt) flags := by
  have faithful := faithful_index comparable refreshedAt
  have flipped : ∀ flag ∈ flags, ∀ other ∈ flags,
      (flag.key == other.key) = (flag.id == other.id) :=
    fun flag listed other also => (alike flag listed other also).symm
  refine ⟨fun entry stored => ?_, fun entry stored => ?_, length_indexBy_eq flipped⟩
  · exact transfer_of_indexes faithful.byKey faithful.byId flipped
      (fun flag listed => Key.beq_self (comparable.keys flag listed)) stored
  · exact transfer_of_indexes faithful.byId faithful.byKey alike
      (fun flag listed => Key.beq_self (comparable.ids flag listed)) stored

/-- The snapshot of an accepted response indexes what the response spells. -/
theorem decode_indexes {data : Value} {refreshedAt : Double} {snapshot : Snapshot}
    (accepted : decode data refreshedAt = .ok snapshot) :
    (∃ flags overrides, SpellsState data flags overrides) ∧
      ∀ flags overrides, SpellsState data flags overrides → Comparable flags overrides →
        Faithful snapshot flags overrides ∧
          ((∀ flag ∈ flags, ∀ other ∈ flags, (flag.id == other.id) = (flag.key == other.key)) →
            Consistent snapshot flags) := by
  unfold decode at accepted
  split at accepted
  next flags overrides parts =>
      cases accepted
      have spelled := spells_of_decodeParts parts
      refine ⟨⟨flags, overrides, spelled⟩, fun others otherOverrides also comparable => ?_⟩
      obtain ⟨rfl, rfl⟩ := also.unique spelled
      exact ⟨faithful_index comparable refreshedAt,
        fun alike => consistent_index comparable alike refreshedAt⟩
  · cases accepted

/-! A response that lists one flag twice, once under the id `1` and once under `true`. -/

def listedTwice : Value :=
  .object [
    ("flags", .list [
      .object [("id", .int 1), ("key", .string "dark"), ("value", .bool false)],
      .object [("id", .int 2), ("key", .string "hour"), ("value", .int 9)],
      .object [("id", .bool true), ("key", .string "dark"), ("dynamic_rules", .list [
        .object [
          ("expression", .object [("flag_id", .int 2), ("op", .string ">="), ("value", .int 9)]),
          ("value", .bool true)]])]]),
    ("overrides", .list [.object [("key", .string "hour"), ("value", .null)]])]

def listedFlags : List Flag :=
  [⟨.int 1, .string "dark", .bool false, []⟩, ⟨.int 2, .string "hour", .int 9, []⟩,
    ⟨.bool true, .string "dark", .null, [⟨⟨.int 2, .ge, .int 9⟩, .bool true⟩]⟩]

def listedOverrides : List Override :=
  [⟨.string "hour", .null⟩]

theorem listedTwice_spells : SpellsState listedTwice listedFlags listedOverrides :=
  spells_of_decodeParts rfl

theorem comparable_listedFlags : Comparable listedFlags listedOverrides where
  ids := by simp [listedFlags]
  keys := by simp [listedFlags]
  overrides := by simp [listedOverrides]

theorem decode_indexes_listedTwice :
    decode listedTwice (.ofInt 0) = .ok (index listedFlags listedOverrides (.ofInt 0)) ∧
      Faithful (index listedFlags listedOverrides (.ofInt 0)) listedFlags listedOverrides ∧
      Consistent (index listedFlags listedOverrides (.ofInt 0)) listedFlags := by
  have accepted :
      decode listedTwice (.ofInt 0) = .ok (index listedFlags listedOverrides (.ofInt 0)) := rfl
  obtain ⟨-, indexed⟩ := decode_indexes accepted
  obtain ⟨faithful, consistent⟩ :=
    indexed listedFlags listedOverrides listedTwice_spells comparable_listedFlags
  exact ⟨accepted, faithful, consistent (by decide +kernel)⟩

end FeatureFlags.Snapshot
