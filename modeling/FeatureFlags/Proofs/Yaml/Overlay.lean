import FeatureFlags.Proofs.Entries
import FeatureFlags.Settings.Overlay

/-!
# What lies over what

A mapping that is laid over another one is read along paths of labels: `Data.at?` follows a path
from mapping to mapping.  What the upper mapping has at the end of a path lies over what the lower
one has there; where the upper one has nothing, the lower one shows, unless the path runs through a
value of the upper one that is no mapping.  `PathLaw` collects this, and `overlay_pathLaw` proves it
of all mappings that name each of their entries once.
-/

set_option autoImplicit false

namespace FeatureFlags.Yaml

def Data.at? : List Label → Data → Option Data
  | [], data => some data
  | label :: path, .map entries => (entries.lookup label).bind (Data.at? path)
  | _ :: _, _ => none

def Data.IsMap (data : Data) : Prop :=
  ∃ entries, data = .map entries

/-- In a mapping, and in the mappings in it, no two entries have one label. -/
inductive Distinct : List (Label × Data) → Prop where
  | intro {entries : List (Label × Data)} (labels : (entries.map Prod.fst).Nodup)
      (inner : ∀ label below, (label, .map below) ∈ entries → Distinct below) : Distinct entries

/-- A path runs through something that is no mapping. -/
def Blocked (entries : List (Label × Data)) (path : List Label) : Prop :=
  ∃ front back data, path = front ++ back ∧ back ≠ [] ∧
    (Data.map entries).at? front = some data ∧ ¬data.IsMap

variable {upper lower : List (Label × Data)}

/-! ## Paths -/

theorem Data.at?_cons (label : Label) (path : List Label) (entries : List (Label × Data)) :
    (Data.map entries).at? (label :: path) = (entries.lookup label).bind (Data.at? path) := rfl

theorem Data.at?_of_not_isMap {data : Data} (noMap : ¬data.IsMap) {path : List Label}
    (further : path ≠ []) : data.at? path = none := by
  cases path with
  | nil => exact absurd rfl further
  | cons label path =>
      cases data with
      | map entries => exact absurd ⟨entries, rfl⟩ noMap
      | _ => rfl

theorem Data.isMap_of_at? {data : Data} {path : List Label} {inner : List (Label × Data)}
    (found : data.at? path = some (.map inner)) : data.IsMap := by
  cases path with
  | nil =>
      cases found
      exact ⟨inner, rfl⟩
  | cons label path =>
      cases data with
      | map entries => exact ⟨entries, rfl⟩
      | _ => cases found

theorem Data.at?_append (front back : List Label) (data : Data) :
    data.at? (front ++ back) = (data.at? front).bind (Data.at? back) := by
  induction front generalizing data with
  | nil => rfl
  | cons label front inductionHypothesis =>
      cases data with
      | map entries =>
          rw [List.cons_append, Data.at?_cons, Data.at?_cons]
          cases entries.lookup label with
          | none => rfl
          | some inner => exact inductionHypothesis inner
      | _ => rfl

theorem Distinct.labels (distinct : Distinct upper) : (upper.map Prod.fst).Nodup := by
  cases distinct with
  | intro labels inner => exact labels

theorem Distinct.inner {label : Label} {below : List (Label × Data)} (distinct : Distinct upper)
    (found : upper.lookup label = some (.map below)) : Distinct below := by
  cases distinct with
  | intro labels inner => exact inner label below (Entries.mem_of_lookup found)

theorem distinct_nil : Distinct [] :=
  .intro List.nodup_nil fun _ _ member => absurd member List.not_mem_nil

/-! ## One value over another -/

theorem Data.over_none (data : Data) : data.over none = data := by
  cases data <;> rfl

theorem Data.over_map (inner below : List (Label × Data)) :
    (Data.map inner).over (some (.map below)) = .map (overlay inner below) := by
  rw [Data.over]

theorem Data.over_of_not_isMap {data : Data} (noMap : ¬data.IsMap) (below : Option Data) :
    data.over below = data := by
  cases data with
  | map entries => exact absurd ⟨entries, rfl⟩ noMap
  | _ => cases below <;> rfl

theorem Data.over_beside {below : Data} (noMap : ¬below.IsMap) (data : Data) :
    data.over (some below) = data := by
  cases data with
  | map inner =>
      cases below with
      | map entries => exact absurd ⟨entries, rfl⟩ noMap
      | _ => rfl
  | _ => rfl

/-- Nothing further is found below what is no mapping, so what is above it is all there is. -/
theorem Data.over_at?_of_not_isMap {below : Data} (noMap : ¬below.IsMap) (path : List Label)
    (data : Data) : data.over (below.at? path) = data := by
  by_cases here : path = []
  · rw [here]
    exact Data.over_beside noMap data
  · rw [Data.at?_of_not_isMap noMap here]
    exact data.over_none

/-! ## Along a path -/

theorem lookup_overlay (labels : (upper.map Prod.fst).Nodup) (label : Label) :
    (overlay upper lower).lookup label =
      match upper.lookup label with
      | some data => some (data.over (lower.lookup label))
      | none => lower.lookup label := by
  induction upper generalizing lower with
  | nil => rw [overlay, List.lookup_nil]
  | cons entry rest inductionHypothesis =>
      obtain ⟨name, data⟩ := entry
      obtain ⟨absent, apart⟩ := List.nodup_cons.mp labels
      rw [overlay, inductionHypothesis apart, Entries.lookup_put, List.lookup_cons]
      by_cases here : label = name
      · subst here
        have missing : rest.lookup label = none := Entries.lookup_eq_none_iff.mpr absent
        rw [missing, beq_self_eq_true]
        rfl
      · rw [beq_eq_false_iff_ne.mpr here]
        rfl

/-- What the upper mapping has at the end of a path lies over what the lower one has there. -/
theorem at?_overlay_of_some (distinct : Distinct upper) {path : List Label} {data : Data}
    (found : (Data.map upper).at? path = some data) :
    (Data.map (overlay upper lower)).at? path =
      some (data.over ((Data.map lower).at? path)) := by
  induction path generalizing upper lower with
  | nil =>
      cases found
      exact congrArg some (Data.over_map upper lower).symm
  | cons label path inductionHypothesis =>
      rw [Data.at?_cons] at found ⊢
      obtain ⟨first, present, further⟩ := Option.bind_eq_some_iff.mp found
      rw [lookup_overlay distinct.labels, present, Option.bind_some, Data.at?_cons]
      cases below : lower.lookup label with
      | none =>
          rw [Data.over_none, Option.bind_none, Data.over_none]
          exact further
      | some under =>
          rw [Option.bind_some]
          by_cases isMap : under.IsMap
          · obtain ⟨entries, rfl⟩ := isMap
            by_cases isMap : first.IsMap
            · obtain ⟨inner, rfl⟩ := isMap
              rw [Data.over_map]
              exact inductionHypothesis (distinct.inner present) further
            · -- Nothing is found behind what is no mapping, so the path ends here.
              cases path with
              | nil =>
                  cases further
                  rw [Data.over_of_not_isMap isMap, Data.over_of_not_isMap isMap]
                  rfl
              | cons => cases further.symm.trans (Data.at?_of_not_isMap isMap nofun)
          · rw [Data.over_beside isMap, Data.over_at?_of_not_isMap isMap]
            exact further

/-- Where the upper mapping has nothing, the lower one shows. -/
theorem at?_overlay_of_none (distinct : Distinct upper) {path : List Label}
    (missing : (Data.map upper).at? path = none) (unblocked : ¬Blocked upper path) :
    (Data.map (overlay upper lower)).at? path = (Data.map lower).at? path := by
  induction path generalizing upper lower with
  | nil => cases missing
  | cons label path inductionHypothesis =>
      rw [Data.at?_cons] at missing
      rw [Data.at?_cons, Data.at?_cons, lookup_overlay distinct.labels]
      cases present : upper.lookup label with
      | none => rfl
      | some first =>
          rw [present, Option.bind_some] at missing
          have goesOn : path ≠ [] := by
            rintro rfl
            cases missing
          have here : (Data.map upper).at? [label] = some first := by
            rw [Data.at?_cons, present]
            rfl
          obtain ⟨inner, rfl⟩ : first.IsMap := Classical.byContradiction fun noMap =>
            unblocked ⟨[label], path, first, rfl, goesOn, here, noMap⟩
          rw [Option.bind_some]
          cases below : lower.lookup label with
          | none =>
              rw [Data.over_none]
              exact missing
          | some under =>
              rw [Option.bind_some]
              by_cases isMap : under.IsMap
              · obtain ⟨entries, rfl⟩ := isMap
                rw [Data.over_map]
                refine inductionHypothesis (distinct.inner present) missing ?_
                rintro ⟨front, back, data, rfl, further, found, noMap⟩
                refine unblocked ⟨label :: front, back, data, rfl, further, ?_, noMap⟩
                rw [Data.at?_cons, present]
                exact found
              · rw [Data.over_beside isMap, Data.at?_of_not_isMap isMap goesOn]
                exact missing

theorem at?_overlay_of_blocked (distinct : Distinct upper) {path : List Label}
    (blocked : Blocked upper path) : (Data.map (overlay upper lower)).at? path = none := by
  obtain ⟨front, back, data, rfl, further, found, noMap⟩ := blocked
  rw [Data.at?_append, at?_overlay_of_some distinct found, Data.over_of_not_isMap noMap]
  exact Data.at?_of_not_isMap noMap further

/-! ## How deep mappings lie over mappings -/

def MeetAt (upper lower : List (Label × Data)) (path : List Label) : Prop :=
  ∃ above below, (Data.map upper).at? path = some (.map above) ∧
    (Data.map lower).at? path = some (.map below)

theorem meetAt_cons_iff {label : Label} {path : List Label} :
    MeetAt upper lower (label :: path) ↔ ∃ above below, upper.lookup label = some (.map above) ∧
      lower.lookup label = some (.map below) ∧ MeetAt above below path := by
  unfold MeetAt
  simp only [Data.at?_cons]
  constructor
  · rintro ⟨above, below, foundAbove, foundBelow⟩
    obtain ⟨first, present, further⟩ := Option.bind_eq_some_iff.mp foundAbove
    obtain ⟨under, beneath, deeper⟩ := Option.bind_eq_some_iff.mp foundBelow
    obtain ⟨inner, rfl⟩ := Data.isMap_of_at? further
    obtain ⟨held, rfl⟩ := Data.isMap_of_at? deeper
    exact ⟨inner, held, present, beneath, above, below, further, deeper⟩
  · rintro ⟨inner, held, present, beneath, above, below, further, deeper⟩
    refine ⟨above, below, ?_, ?_⟩
    · rw [present, Option.bind_some, further]
    · rw [beneath, Option.bind_some, deeper]

theorem reaches_succ_iff (distinct : Distinct upper) (depth : Nat) :
    reaches (depth + 1) upper lower = true ↔ ∃ label above below,
      upper.lookup label = some (.map above) ∧ lower.lookup label = some (.map below) ∧
        reaches depth above below = true := by
  rw [reaches, List.any_eq_true]
  constructor
  · rintro ⟨⟨label, data⟩, listed, deeper⟩
    dsimp only at deeper
    split at deeper
    · next above below beneath =>
        have present := Entries.lookup_of_mem distinct.labels listed
        exact ⟨label, above, below, present, beneath, deeper⟩
    · cases deeper
  · rintro ⟨label, above, below, present, beneath, deeper⟩
    refine ⟨(label, .map above), Entries.mem_of_lookup present, ?_⟩
    dsimp only
    rw [beneath]
    exact deeper

theorem reaches_iff (distinct : Distinct upper) (depth : Nat) :
    reaches depth upper lower = true ↔ ∃ path, path.length = depth ∧ MeetAt upper lower path := by
  induction depth generalizing upper lower with
  | zero =>
      refine iff_of_true (by rw [reaches]) ⟨[], rfl, upper, lower, rfl, rfl⟩
  | succ depth inductionHypothesis =>
      rw [reaches_succ_iff distinct]
      constructor
      · rintro ⟨label, above, below, present, beneath, deeper⟩
        obtain ⟨path, length, meet⟩ := (inductionHypothesis (distinct.inner present)).mp deeper
        exact ⟨label :: path, congrArg Nat.succ length,
          meetAt_cons_iff.mpr ⟨above, below, present, beneath, meet⟩⟩
      · rintro ⟨path, length, meet⟩
        cases path with
        | nil => cases length
        | cons label path =>
            obtain ⟨above, below, present, beneath, further⟩ := meetAt_cons_iff.mp meet
            refine ⟨label, above, below, present, beneath, ?_⟩
            exact (inductionHypothesis (distinct.inner present)).mpr
              ⟨path, Nat.succ.inj length, further⟩

/-! ## Laid over twice, and over nothing -/

theorem overlay_of_apart (labels : (upper.map Prod.fst).Nodup)
    (apart : ∀ label ∈ upper.map Prod.fst, lower.lookup label = none) :
    overlay upper lower = lower ++ upper := by
  induction upper generalizing lower with
  | nil => rw [overlay, List.append_nil]
  | cons entry rest inductionHypothesis =>
      obtain ⟨name, data⟩ := entry
      obtain ⟨absent, labels⟩ := List.nodup_cons.mp labels
      have missing : lower.lookup name = none := apart name List.mem_cons_self
      rw [overlay, missing, Data.over_none, Entries.put_of_absent missing,
        inductionHypothesis labels, List.append_assoc]
      · rfl
      · intro label member
        have other : label ≠ name := fun same => absent (same ▸ member)
        rw [List.lookup_append, apart label (List.mem_cons_of_mem _ member), Option.none_or,
          List.lookup_cons, beq_eq_false_iff_ne.mpr other, List.lookup_nil]

theorem overlay_nil (labels : (upper.map Prod.fst).Nodup) : overlay upper [] = upper :=
  overlay_of_apart labels fun _ _ => rfl

/-- A mapping stays as it is under another one whose values over its own leave these as they are. -/
theorem overlay_eq_self (held : ∀ label data, (label, data) ∈ upper →
      ∃ below, lower.lookup label = some below ∧ data.over (some below) = below) :
    overlay upper lower = lower := by
  induction upper with
  | nil => rw [overlay]
  | cons entry rest inductionHypothesis =>
      obtain ⟨name, data⟩ := entry
      obtain ⟨below, found, same⟩ := held name data List.mem_cons_self
      rw [overlay, found, same, Entries.put_self found]
      exact inductionHypothesis fun label data member =>
        held label data (List.mem_cons_of_mem _ member)

theorem overlay_overlay (distinct : Distinct upper) (lower : List (Label × Data)) :
    overlay upper (overlay upper lower) = overlay upper lower := by
  induction distinct generalizing lower with
  | @intro upper labels inner inductionHypothesis =>
      refine overlay_eq_self fun label data member => ?_
      refine ⟨data.over (lower.lookup label), ?_, ?_⟩
      · rw [lookup_overlay labels, Entries.lookup_of_mem labels member]
      · by_cases isMap : data.IsMap
        · obtain ⟨entries, rfl⟩ := isMap
          have once := inductionHypothesis label entries member
          -- Over anything but a mapping, the inner mapping lies as over an empty one.
          have alone : (Data.map entries).over (some (.map entries)) = .map entries := by
            have twice := once []
            rw [overlay_nil (inner label entries member).labels] at twice
            rw [Data.over_map, twice]
          cases lower.lookup label with
          | none =>
              rw [Data.over_none]
              exact alone
          | some below =>
              by_cases isMap : below.IsMap
              · obtain ⟨under, rfl⟩ := isMap
                rw [Data.over_map, Data.over_map, once]
              · rw [Data.over_beside isMap]
                exact alone
        · rw [Data.over_of_not_isMap isMap, Data.over_of_not_isMap isMap]

/-! ## The law -/

structure PathLaw (upper lower merged : List (Label × Data)) : Prop where
  /-- A value of the upper mapping stands. -/
  value : ∀ path data, (Data.map upper).at? path = some data → ¬data.IsMap →
    (Data.map merged).at? path = some data
  /-- Mapping over mapping is merged in turn. -/
  mapping : ∀ path inner below, (Data.map upper).at? path = some (.map inner) →
    (Data.map lower).at? path = some (.map below) →
      (Data.map merged).at? path = some (.map (overlay inner below))
  /-- A mapping over anything else stands. -/
  replacement : ∀ path inner, (Data.map upper).at? path = some (.map inner) →
    (∀ below, (Data.map lower).at? path ≠ some (.map below)) →
      (Data.map merged).at? path = some (.map inner)
  shown : ∀ path, (Data.map upper).at? path = none → ¬Blocked upper path →
    (Data.map merged).at? path = (Data.map lower).at? path
  hidden : ∀ path, Blocked upper path → (Data.map merged).at? path = none
  again : overlay upper merged = merged
  overEmpty : overlay upper [] = upper
  underEmpty : overlay [] lower = lower

theorem overlay_pathLaw (distinct : Distinct upper) (lower : List (Label × Data)) :
    PathLaw upper lower (overlay upper lower) where
  value path data found noMap := by
    rw [at?_overlay_of_some distinct found, Data.over_of_not_isMap noMap]
  mapping path inner below found under := by
    rw [at?_overlay_of_some distinct found, under, Data.over_map]
  replacement path inner found noMap := by
    rw [at?_overlay_of_some distinct found]
    cases under : (Data.map lower).at? path with
    | none => rw [Data.over_none]
    | some below =>
        rw [Data.over_beside]
        rintro ⟨entries, rfl⟩
        exact noMap entries under
  shown path missing unblocked := at?_overlay_of_none distinct missing unblocked
  hidden path blocked := at?_overlay_of_blocked distinct blocked
  again := overlay_overlay distinct lower
  overEmpty := overlay_nil distinct.labels
  underEmpty := by rw [overlay]

/-- A mapping with a value over a mapping, a mapping over a value, and null over a mapping. -/
def crossing : List (Label × Data) :=
  [(.text "a", .map [(.text "b", .int 1), (.text "c", .map [(.text "x", .int 2)])]),
    (.text "d", .null)]

def crossed : List (Label × Data) :=
  [(.text "a", .map [(.text "b", .map [(.text "y", .int 3)]), (.text "c", .int 4),
      (.text "e", .list [.int 5])]),
    (.text "d", .map [(.text "z", .int 6)])]

theorem overlay_pathLaw_crossing :
    Distinct crossing ∧ PathLaw crossing crossed (overlay crossing crossed) := by
  have innermost : Distinct [(.text "x", .int 2)] := by
    refine .intro (by decide) fun label below member => ?_
    cases List.mem_singleton.mp member
  have inner : Distinct [(.text "b", .int 1), (.text "c", .map [(.text "x", .int 2)])] := by
    refine .intro (by decide) fun label below member => ?_
    rcases List.mem_cons.mp member with same | later
    · cases same
    · cases List.mem_singleton.mp later
      exact innermost
  have distinct : Distinct crossing := by
    refine .intro (by decide) fun label below member => ?_
    rcases List.mem_cons.mp member with same | later
    · cases same
      exact inner
    · cases List.mem_singleton.mp later
  exact ⟨distinct, overlay_pathLaw distinct crossed⟩

/-- Lists are replaced as a whole. -/
example :
    overlay [(.text "a", .map [(.text "c", .list [.int 2])]), (.text "e", .int 2)]
        [(.text "a", .map [(.text "b", .int 1), (.text "c", .list [.int 1])]),
          (.text "d", .int 1)] =
      [(.text "a", .map [(.text "b", .int 1), (.text "c", .list [.int 2])]), (.text "d", .int 1),
        (.text "e", .int 2)] := by
  rfl

end FeatureFlags.Yaml
