import FeatureFlags.Proofs.Result
import FeatureFlags.Proofs.Yaml.Overlay
import FeatureFlags.Yaml.Data.Document

/-!
# The labels of a document

Of several entries of one label a document keeps one.  So no mapping in its data, however deep it
lies and whatever merge keys and aliases lead to it, has two entries of one label
(`distinct_of_ofText`).
-/

set_option autoImplicit false

namespace FeatureFlags.Yaml

def Data.IsDistinct (data : Data) : Prop :=
  ∀ entries, data = .map entries → Distinct entries

theorem Data.isDistinct_of_not_isMap {data : Data} (noMap : ¬data.IsMap) : data.IsDistinct := by
  intro entries same
  exact absurd ⟨entries, same⟩ noMap

theorem isDistinct_null : Data.null.IsDistinct := by
  intro entries same
  cases same

/-! ## Parts and fillings -/

def Part.IsDistinct : Part → Prop
  | .whole data => data.IsDistinct
  | .collection _ => True

def Filling.IsDistinct : Filling → Prop
  | .map entries => (entries.map Prod.fst).Nodup ∧ ∀ entry ∈ entries, entry.2.IsDistinct
  | _ => True

structure Draft.IsDistinct (draft : Draft) : Prop where
  parts : ∀ (id : NodeId) (part : Part), draft.parts[id]?.join = some part → part.IsDistinct
  fillings : ∀ (id : NodeId) (filling : Filling), draft.fillings[id]?.join = some filling →
    filling.IsDistinct

theorem isDistinct_ofGraph (calls : Nat) (graph : Graph) :
    (Draft.ofGraph calls graph).IsDistinct := by
  constructor
  · intro id part found
    simp [Draft.ofGraph, Array.getElem?_replicate] at found
    split at found <;> simp at found
  · intro id filling found
    simp [Draft.ofGraph, Array.getElem?_replicate] at found
    split at found <;> simp at found

/-- A table that is written to holds what was written or what it held. -/
theorem getElem?_join_setIfInBounds {Item : Type} {table : Array (Option Item)} {place other : Nat}
    {written found : Item} (present : (table.setIfInBounds place (some written))[other]?.join =
      some found) : found = written ∨ table[other]?.join = some found := by
  rw [Array.getElem?_setIfInBounds] at present
  split at present
  · split at present
    · cases present
      exact .inl rfl
    · cases present
  · exact .inr present

theorem Draft.IsDistinct.setPart {draft : Draft} (distinct : draft.IsDistinct) (id : NodeId)
    (part : Part) (isDistinct : part.IsDistinct) (met : Array NodeId) :
    Draft.IsDistinct { draft with parts := draft.parts.setIfInBounds id (some part), met } where
  parts other found present := by
    rcases getElem?_join_setIfInBounds present with rfl | before
    · exact isDistinct
    · exact distinct.parts other found before
  fillings := distinct.fillings

theorem Draft.IsDistinct.setFilling {draft : Draft} (distinct : draft.IsDistinct)
    {filling : Filling} (isDistinct : filling.IsDistinct) (id : NodeId) :
    Draft.IsDistinct
      { draft with fillings := draft.fillings.setIfInBounds id (some filling) } where
  parts := distinct.parts
  fillings other found present := by
    rcases getElem?_join_setIfInBounds present with rfl | before
    · exact isDistinct
    · exact distinct.fillings other found before

/-! ## Drafting -/

namespace Draft

/-- A step leaves distinct drafts distinct, and what it gives is good. -/
def Yields {Result : Type} (step : Drafting Result) (good : Result → Prop) : Prop :=
  ∀ draft : Draft, draft.IsDistinct → ∀ result after, step.run draft = .ok (result, after) →
    after.IsDistinct ∧ good result

variable {Given Result : Type} {good : Result → Prop}

theorem Yields.pure {result : Result} (isGood : good result) :
    Yields (Pure.pure result : Drafting Result) good := by
  intro draft distinct given after ran
  cases ran
  exact ⟨distinct, isGood⟩

theorem Yields.throw (fault : Fault) : Yields (MonadExcept.throw fault : Drafting Result) good := by
  intro draft distinct given after ran
  cases ran

theorem Yields.bind {step : Drafting Given} {next : Given → Drafting Result} {fair : Given → Prop}
    (first : Yields step fair) (second : ∀ given, fair given → Yields (next given) good) :
    Yields (step >>= next) good := by
  intro draft distinct result after ran
  rw [StateT.run_bind] at ran
  obtain ⟨⟨given, middle⟩, firstRan, secondRan⟩ := bind_eq_ok_iff.mp ran
  obtain ⟨middleDistinct, isFair⟩ := first draft distinct given middle firstRan
  exact second given isFair middle middleDistinct result after secondRan

theorem Yields.get : Yields (MonadState.get : Drafting Draft) Draft.IsDistinct := by
  intro draft distinct result after ran
  cases ran
  exact ⟨distinct, distinct⟩

theorem Yields.set {draft : Draft} (distinct : draft.IsDistinct) :
    Yields (MonadState.set draft : Drafting PUnit) fun _ => True := by
  intro before _ result after ran
  cases ran
  exact ⟨distinct, trivial⟩

theorem Yields.lift {result : Except Fault Result}
    (isGood : ∀ value, result = .ok value → good value) :
    Yields (liftM result : Drafting Result) good := by
  intro draft distinct value after ran
  cases result with
  | error fault => cases ran
  | ok value =>
      cases ran
      exact ⟨distinct, isGood value rfl⟩

theorem Yields.mapM {step : Given → Drafting Result} (each : ∀ given, Yields (step given) good)
    (items : List Given) :
    Yields (items.mapM step) fun results => ∀ result ∈ results, good result := by
  induction items with
  | nil =>
      rw [List.mapM_nil]
      exact .pure nofun
  | cons given items inductionHypothesis =>
      rw [List.mapM_cons]
      refine .bind (each given) fun result isGood => ?_
      refine .bind inductionHypothesis fun results areGood => .pure ?_
      exact List.forall_mem_cons.mpr ⟨isGood, areGood⟩

end Draft

/-! ## What a document is made of -/

theorem Data.not_isMap_of_ofScalar {tag : Tag} {text : Text.Raw} {data : Data}
    (made : Data.ofScalar tag text = .ok data) : ¬data.IsMap := by
  rintro ⟨entries, rfl⟩
  cases tag with
  | str => cases text <;> cases made
  | bool =>
      have read := mapError_eq_ok_iff.mp made
      unfold Data.ofBoolText at read
      dsimp only at read
      split at read
      · cases read
      · split at read <;> cases read
  | int =>
      have read := mapError_eq_ok_iff.mp made
      cases number : Numeral.ofIntegerText text.toList <;> rw [number] at read <;> cases read
  | float =>
      have read := mapError_eq_ok_iff.mp made
      cases number : Numeral.ofFloatText text.toList <;> rw [number] at read <;> cases read
  | timestamp =>
      have read := mapError_eq_ok_iff.mp made
      unfold Moment.ofText at read
      dsimp only at read
      split at read
      · cases read
      · next date _ => cases checked : Moment.checkDate date <;> rw [checked] at read <;> cases read
      · next moment _ =>
          cases checked : Moment.checkTime moment <;> rw [checked] at read <;> cases read
  | binary =>
      change Data.ofBase64 text.toList = _ at made
      unfold Data.ofBase64 at made
      split at made
      · split at made <;> cases made
      · cases made
  | _ => cases made

theorem Graph.isDistinct_of_scalar {graph : Graph} {calls : Nat} {id : NodeId} {data : Data}
    (made : graph.scalar calls id = .ok data) : data.IsDistinct := by
  unfold Graph.scalar at made
  dsimp only at made
  split at made
  · cases made
  · obtain ⟨text, _, made⟩ := bind_eq_ok_iff.mp made
    split at made
    · cases made
    · exact Data.isDistinct_of_not_isMap (Data.not_isMap_of_ofScalar made)

theorem isDistinct_ofPairs {pairs : List (Label × Part)}
    (parts : ∀ pair ∈ pairs, pair.2.IsDistinct) :
    (Filling.map (Entries.ofPairs pairs)).IsDistinct :=
  ⟨Entries.nodup_ofPairs pairs,
    Entries.forall_mem_ofPairs (fun _ (part : Part) => part.IsDistinct) (fun _ _ _ _ => id) parts⟩

namespace Draft

theorem make_yields (id : NodeId) : Yields (make id) Part.IsDistinct := by
  unfold make
  refine .bind .get fun draft distinct => ?_
  split
  · next part found => exact .pure (distinct.parts id part found)
  · split
    · exact .bind (.set (distinct.setPart id (.collection id) trivial _)) fun _ _ => .pure trivial
    · have scalar :
          Yields (liftM (draft.graph.scalar draft.calls id) : Drafting Data) Data.IsDistinct :=
        .lift fun data made => Graph.isDistinct_of_scalar made
      refine .bind scalar fun data isDistinct => ?_
      have noted := distinct.setPart id (.whole data) isDistinct draft.met
      exact .bind (.set noted) fun _ _ => .pure isDistinct

theorem makeLabel_yields (key : NodeId) : Yields (makeLabel key) fun _ => True := by
  unfold makeLabel
  refine .bind (make_yields key) fun part _ => ?_
  split
  · split
    · exact .pure trivial
    · exact .throw _
  · exact .throw _

theorem makeEntries_yields (id : NodeId) : Yields (makeEntries id) fun entries =>
    (Filling.map entries).IsDistinct := by
  unfold makeEntries
  refine .bind .get fun draft distinct => ?_
  have malformed : Yields (throw Fault.malformed : Drafting PUnit) fun _ => False := .throw _
  have flat : Yields (liftM (draft.graph.flatten draft.calls id) : Drafting Graph) fun _ => True :=
    .lift fun _ _ => trivial
  have each : ∀ pair : NodeId × NodeId, Yields (do
      let label ← makeLabel pair.1
      return (label, ← make pair.2)) fun entry : Label × Part => entry.2.IsDistinct := by
    rintro ⟨key, value⟩
    refine .bind (makeLabel_yields key) fun label _ => ?_
    exact .bind (make_yields value) fun part isDistinct => .pure isDistinct
  dsimp only
  split
  · exact .bind malformed fun _ never => never.elim
  · refine .bind flat fun graph _ => ?_
    refine .bind (.set ⟨distinct.parts, distinct.fillings⟩) fun _ _ => ?_
    exact .bind (.mapM each _) fun pairs parts => .pure (isDistinct_ofPairs parts)

theorem items_yields (id : NodeId) : Yields (items id) fun _ => True := by
  unfold items
  refine .bind .get fun draft _ => ?_
  split
  · exact .pure trivial
  · exact .throw _

theorem makeSingle_yields (id : NodeId) : Yields (makeSingle id) fun _ => True := by
  unfold makeSingle
  refine .bind .get fun draft _ => ?_
  split
  · refine .bind (make_yields _) fun name _ => ?_
    exact .bind (make_yields _) fun part _ => .pure trivial
  · exact .throw _

theorem makeFilling_yields (id : NodeId) : Yields (makeFilling id) Filling.IsDistinct := by
  unfold makeFilling
  refine .bind .get fun draft _ => ?_
  split
  · refine .bind (items_yields id) fun items _ => ?_
    exact .bind (.mapM make_yields items) fun parts _ => .pure trivial
  · exact .bind (makeEntries_yields id) fun entries isDistinct => .pure isDistinct
  · exact .bind (makeEntries_yields id) fun entries _ => .pure trivial
  · refine .bind (items_yields id) fun items _ => ?_
    exact .bind (.mapM makeSingle_yields items) fun pairs _ => .pure trivial

theorem fillFrom_yields (place fuel : Nat) : Yields (fillFrom place fuel) fun _ => True := by
  induction fuel generalizing place with
  | zero => exact .pure trivial
  | succ fuel inductionHypothesis =>
      unfold fillFrom
      refine .bind .get fun draft _ => ?_
      split
      · exact .pure trivial
      · next id _ =>
          refine .bind (makeFilling_yields id) fun filling isDistinct => ?_
          have noted : Yields (modify fun draft : Draft =>
              { draft with fillings := draft.fillings.setIfInBounds id (some filling) })
              fun _ => True := by
            intro draft distinct result after ran
            cases ran
            exact ⟨distinct.setFilling isDistinct id, trivial⟩
          exact .bind noted fun _ _ => inductionHypothesis (place + 1)

theorem complete_yields (root : NodeId) : Yields (complete root) Part.IsDistinct := by
  unfold complete
  refine .bind (make_yields root) fun part isDistinct => ?_
  refine .bind .get fun draft _ => ?_
  exact .bind (fillFrom_yields 0 _) fun _ _ => .pure isDistinct

end Draft

/-! ## The data of a document -/

def IsDistinctTable (table : Array Data) : Prop :=
  ∀ (id : Nat) (data : Data), table[id]? = some data → data.IsDistinct

theorem Part.IsDistinct.data {part : Part} (isDistinct : part.IsDistinct) {table : Array Data}
    (distinct : IsDistinctTable table) : (part.data table).IsDistinct := by
  cases part with
  | whole data => exact isDistinct
  | collection id =>
      change (table[id]?.getD .null).IsDistinct
      cases present : table[id]? with
      | none => exact isDistinct_null
      | some data => exact distinct id data present

theorem Filling.IsDistinct.data {filling : Filling} (isDistinct : filling.IsDistinct)
    {table : Array Data} (distinct : IsDistinctTable table) : (filling.data table).IsDistinct := by
  cases filling with
  | map entries =>
      intro held same
      cases same
      refine .intro ?_ fun label below member => ?_
      · rw [List.map_map]
        exact isDistinct.1
      · obtain ⟨⟨_, part⟩, listed, same⟩ := List.mem_map.mp member
        have inner := (isDistinct.2 _ listed).data distinct
        exact inner below (congrArg Prod.snd same)
  | list | pairs | set =>
      intro held same
      cases same

theorem Draft.isDistinctTable_unfold {draft : Draft} (distinct : draft.IsDistinct) (depth : Nat) :
    IsDistinctTable (draft.unfold depth) := by
  induction depth with
  | zero =>
      intro id data present
      rw [Draft.unfold, Array.getElem?_replicate] at present
      split at present
      · cases present
        exact isDistinct_null
      · cases present
  | succ depth inductionHypothesis =>
      unfold Draft.unfold Draft.unfoldOnce
      generalize draft.unfold depth = table at inductionHypothesis
      generalize draft.graph.collections = collections
      induction collections generalizing table with
      | nil => exact inductionHypothesis
      | cons id rest remaining =>
          rw [List.foldl_cons]
          refine remaining _ ?_
          split
          · next filling found =>
              intro other data present
              rw [Array.getElem?_setIfInBounds] at present
              split at present
              · split at present
                · cases present
                  exact (distinct.fillings id filling found).data inductionHypothesis
                · cases present
              · exact inductionHypothesis other data present
          · exact inductionHypothesis

/-- A mapping that a text stands for has every label once, and so have the mappings in it. -/
theorem distinct_of_ofText {calls depth : Nat} {text : List Char} {entries : List (Label × Data)}
    (read : Data.ofText calls depth text = .ok (.map entries)) : Distinct entries := by
  unfold Data.ofText at read
  obtain ⟨⟨graph, root?⟩, _, read⟩ := bind_eq_ok_iff.mp read
  cases root? with
  | none => cases read
  | some root =>
      obtain ⟨⟨part, draft⟩, completed, read⟩ := bind_eq_ok_iff.mp read
      obtain ⟨distinct, isDistinct⟩ := Draft.complete_yields root _
        (isDistinct_ofGraph calls graph) part draft completed
      exact isDistinct.data (Draft.isDistinctTable_unfold distinct depth) entries
        (Except.ok.inj read)

/-! ## Reading a document to the end -/

variable {draft : Draft}

theorem Data.ofText_of_complete {calls : Nat} {text : List Char} {graph : Graph} {root : NodeId}
    {part : Part}
    (read : (Graph.ofText calls text).toOption = some (graph, some root))
    (completed : (Draft.complete root).run (.ofGraph calls graph) = .ok (part, draft))
    (depth : Nat) : Data.ofText calls depth text = .ok (part.data (draft.unfold depth)) := by
  have read : Graph.ofText calls text = .ok (graph, some root) := by
    cases result : Graph.ofText calls text with
    | error fault =>
        rw [result] at read
        cases read
    | ok given =>
        rw [result] at read
        cases read
        rfl
  rw [Data.ofText, read]
  change ((Draft.complete root).run (.ofGraph calls graph) >>= _) = _
  rw [completed]
  rfl

/-- A table that the fillings leave as it is stays as it is. -/
theorem Draft.unfold_of_stable {table : Array Data} (first : draft.unfold 1 = table)
    (stable : draft.unfoldOnce table = table) (depth : Nat) : draft.unfold (depth + 1) = table := by
  induction depth with
  | zero => exact first
  | succ depth inductionHypothesis => rw [Draft.unfold, inductionHypothesis, stable]

end FeatureFlags.Yaml
