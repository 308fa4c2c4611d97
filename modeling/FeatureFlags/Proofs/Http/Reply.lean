import FeatureFlags.Proofs.Http.Exchange

/-!
# What a response is good for

A response brings members exactly if it is usable: its body is an object without an error envelope
and its status is no error.  Every other response brings one error, and the order in which things
are looked at decides which: the body, the envelope, the status, the shape.
-/

set_option autoImplicit false

namespace FeatureFlags.Http

def HasEnvelope (data : Value) (envelope : List (String × Value)) : Prop :=
  ∃ members, data = .object members ∧ members.lookup "error" = some (.object envelope)

theorem members?_eq_some_iff {data : Value} {members : List (String × Value)} :
    data.members? = some members ↔ data = .object members := by
  cases data with
  | object held =>
      constructor
      · rintro ⟨⟩
        rfl
      · rintro ⟨⟩
        rfl
  | _ => exact iff_of_false nofun nofun

theorem envelope?_eq_some_iff {data : Value} {envelope : List (String × Value)} :
    envelope? data = some envelope ↔ HasEnvelope data envelope := by
  simp only [envelope?, Option.bind_eq_some_iff, members?_eq_some_iff]
  constructor
  · rintro ⟨_, ⟨members, same, found⟩, rfl⟩
    exact ⟨members, same, found⟩
  · rintro ⟨members, same, found⟩
    exact ⟨_, ⟨members, same, found⟩, rfl⟩

theorem envelope?_eq_none_iff {data : Value} :
    envelope? data = none ↔ ∀ envelope, ¬HasEnvelope data envelope := by
  simp only [Option.eq_none_iff_forall_ne_some, ne_eq, envelope?_eq_some_iff]

structure Usable (nesting : Nat) (response : Response) (members : List (String × Value)) :
    Prop where
  json : Value.ofJson nesting response.body = .ok (.object members)
  plain : ∀ envelope, ¬HasEnvelope (.object members) envelope
  status : response.status < 400

inductive Unusable (nesting : Nat) (response : Response) (resource : Resource) :
    Error → Prop where
  | notJson (malformed : Value.ofJson nesting response.body = .error .malformed) :
      Unusable nesting response resource (.parse (.notJson resource.context response.status))
  | tooDeep {failure : Foreign} (deep : TooDeep nesting response.body failure) :
      Unusable nesting response resource (.foreign failure)
  | envelope {data : Value} {envelope : List (String × Value)}
      (json : Value.ofJson nesting response.body = .ok data) (has : HasEnvelope data envelope) :
      Unusable nesting response resource
        (.api response.status (resource.context ++ ": " ++ envelopeMessage envelope) envelope)
  | status {data : Value} (json : Value.ofJson nesting response.body = .ok data)
      (plain : ∀ envelope, ¬HasEnvelope data envelope) (refused : 400 ≤ response.status) :
      Unusable nesting response resource
        (.api response.status (resource.context ++ ": HTTP " ++ toString response.status) [])
  | notObject {data : Value} (json : Value.ofJson nesting response.body = .ok data)
      (other : ∀ members, data ≠ .object members) (status : response.status < 400) :
      Unusable nesting response resource (.parse (.notObject resource.context data))

variable {nesting : Nat} {response : Response} {resource : Resource}

theorem Usable.members {members : List (String × Value)}
    (usable : Usable nesting response members) :
    response.members nesting resource = .ok members := by
  have below : ¬400 ≤ response.status := Nat.not_le.mpr usable.status
  rw [Response.members, usable.json]
  dsimp only
  rw [envelope?_eq_none_iff.mpr usable.plain]
  dsimp only
  rw [if_neg below]
  rfl

theorem Unusable.members {error : Error} (unusable : Unusable nesting response resource error) :
    response.members nesting resource = .error error := by
  cases unusable with
  | notJson malformed => rw [Response.members, malformed]
  | tooDeep deep => exact Response.members_of_tooDeep deep
  | envelope json has =>
      rw [Response.members, json]
      dsimp only
      rw [envelope?_eq_some_iff.mpr has]
  | status json plain refused =>
      rw [Response.members, json]
      dsimp only
      rw [envelope?_eq_none_iff.mpr plain]
      dsimp only
      rw [if_pos refused]
  | @notObject data json other status =>
      have plain : ∀ envelope, ¬HasEnvelope data envelope := by
        rintro envelope ⟨members, same, -⟩
        exact other members same
      have noMembers : data.members? = none := by
        rw [Option.eq_none_iff_forall_ne_some]
        exact fun members same => other members (members?_eq_some_iff.mp same)
      have below : ¬400 ≤ response.status := Nat.not_le.mpr status
      rw [Response.members, json]
      dsimp only
      rw [envelope?_eq_none_iff.mpr plain]
      dsimp only
      rw [if_neg below, noMembers]

theorem usable_or_unusable (nesting : Nat) (response : Response) (resource : Resource) :
    (∃ members, Usable nesting response members) ∨
      ∃ error, Unusable nesting response resource error := by
  cases json : Value.ofJson nesting response.body with
  | error fault =>
      cases fault with
      | malformed => exact .inr ⟨_, .notJson json⟩
      | deepArray => exact .inr ⟨_, .tooDeep (.array json)⟩
      | deepObject => exact .inr ⟨_, .tooDeep (.object json)⟩
  | ok data =>
      cases enveloped : envelope? data with
      | some envelope => exact .inr ⟨_, .envelope json (envelope?_eq_some_iff.mp enveloped)⟩
      | none =>
          have plain := envelope?_eq_none_iff.mp enveloped
          rcases Nat.lt_or_ge response.status 400 with below | refused
          · cases object : data.members? with
            | some members =>
                obtain rfl := members?_eq_some_iff.mp object
                exact .inl ⟨members, json, plain, below⟩
            | none =>
                refine .inr ⟨_, .notObject json (fun members same => ?_) below⟩
                cases object.symm.trans (members?_eq_some_iff.mpr same)
          · exact .inr ⟨_, .status json plain refused⟩

end FeatureFlags.Http

/-! ## Brackets that nest too deep -/

namespace FeatureFlags.Json

theorem readValue_brackets {nesting levels depth fuel : Nat} (more : Nat)
    (deep : depth + levels = nesting) (enough : 2 * levels < fuel) :
    readValue nesting depth fuel (List.replicate (levels + 1 + more) '[') = .error .deepArray := by
  induction levels generalizing depth fuel with
  | zero =>
      cases fuel with
      | zero => omega
      | succ fuel =>
          have brackets : List.replicate (0 + 1 + more) '[' = '[' :: List.replicate more '[' := by
            rw [Nat.zero_add, Nat.add_comm, List.replicate_succ]
          rw [brackets, readValue, if_pos (by omega)]
  | succ levels inductionHypothesis =>
      obtain ⟨fuel, rfl⟩ : ∃ left, fuel = left + 2 := ⟨fuel - 2, by omega⟩
      have brackets : List.replicate (levels + 1 + 1 + more) '[' =
          '[' :: List.replicate (levels + 1 + more) '[' := by
        rw [Nat.add_right_comm, List.replicate_succ]
      have noGap : dropGap (List.replicate (levels + 1 + more) '[') =
          '[' :: List.replicate (levels + more) '[' := by
        rw [Nat.add_right_comm, List.replicate_succ]
        rfl
      have inner : readItems nesting (depth + 1) (fuel + 1)
          ('[' :: List.replicate (levels + more) '[') = .error .deepArray := by
        have value : readValue nesting (depth + 1) fuel (List.replicate (levels + 1 + more) '[') =
            .error .deepArray := inductionHypothesis (by omega) (by omega)
        rw [Nat.add_right_comm, List.replicate_succ] at value
        rw [readItems, value]
        rfl
      rw [brackets, readValue, if_neg (by omega), noGap]
      change (readItems nesting (depth + 1) (fuel + 1)
        ('[' :: List.replicate (levels + more) '[') >>= _) = _
      rw [inner]
      rfl

/-- Brackets of which more are open than may be are no JSON, but the depth is found first. -/
theorem ofText_brackets (nesting more : Nat) :
    ofText nesting (List.replicate (nesting + 1 + more) '[') = .error .deepArray := by
  have noGap : dropGap (List.replicate (nesting + 1 + more) '[') =
      List.replicate (nesting + 1 + more) '[' := by
    rw [Nat.add_right_comm, List.replicate_succ]
    rfl
  have deep : readValue nesting 0 (2 * (nesting + 1 + more + 1))
      (List.replicate (nesting + 1 + more) '[') = .error .deepArray :=
    readValue_brackets more (Nat.zero_add nesting) (by omega)
  rw [ofText, noGap, List.length_replicate, deep]
  rfl

theorem replaceSurrogates_brackets (count : Nat) :
    replaceSurrogates (List.replicate count 0x5B) = List.replicate count 0x5B := by
  induction count with
  | zero => rfl
  | succ count inductionHypothesis =>
      rw [List.replicate_succ, replaceSurrogates, inductionHypothesis]
      intro b c rest same
      cases same

theorem encode_brackets (count : Nat) :
    Text.Utf8.encode (List.replicate count '[') = List.replicate count 0x5B := by
  induction count with
  | zero => rfl
  | succ count inductionHypothesis =>
      rw [List.replicate_succ, List.replicate_succ, ← inductionHypothesis]
      rfl

theorem characters?_brackets (count : Nat) :
    characters? (List.replicate (count + 4) 0x5B) = some (List.replicate (count + 4) '[') := by
  have read : Text.Utf8.decode (List.replicate (count + 4) 0x5B) =
      .ok (List.replicate (count + 4) '[') := Text.Utf8.decode_eq_ok_iff.mpr (encode_brackets _)
  change (Text.Utf8.decode (replaceSurrogates (List.replicate (count + 4) 0x5B))).toOption = _
  rw [replaceSurrogates_brackets, read]
  rfl

theorem ofJson_brackets {nesting : Nat} (more : Nat) (enough : 3 ≤ nesting + more) :
    Value.ofJson nesting (List.replicate (nesting + 1 + more) 0x5B) = .error .deepArray := by
  obtain ⟨count, atLeastFour⟩ : ∃ count, nesting + 1 + more = count + 4 :=
    ⟨nesting + more - 3, by omega⟩
  have read : characters? (List.replicate (nesting + 1 + more) 0x5B) =
      some (List.replicate (nesting + 1 + more) '[') := by
    rw [atLeastFour]
    exact characters?_brackets count
  rw [Value.ofJson, read]
  exact ofText_brackets nesting more

end FeatureFlags.Json
