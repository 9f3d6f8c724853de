import KombitSamples.Consumer.StrReferenceSaml2SecurityTokenHandler

/-!
# KombitSamples.Service.StrTransformedSaml2SecurityToken

How the service finds the token that a message refers to, and how this fits
the references that the consumer writes.

Either side undoes its own prefix by erasing all of its occurrences, so an
assertion is found again only when its id holds neither prefix.
-/

namespace KombitSamples.Service

open Fallible Replace

def idPrefix : String := "_avoid_duplicate_"

/-- A token that was read by the service, as far as references go. -/
structure StrTransformedSaml2SecurityToken where
  assertionId : Saml2Id
deriving DecidableEq, Repr

namespace StrTransformedSaml2SecurityToken

/-- `Id`. -/
def id (token : StrTransformedSaml2SecurityToken) : String := idPrefix ++ token.assertionId.value

/-- `MatchesKeyIdentifierClause`. -/
def matchesKeyIdentifierClause (token : StrTransformedSaml2SecurityToken)
    (keyIdentifierClause : SecurityKeyIdentifierClause) : Bool :=
  if !keyIdentifierClause.matchesAssertion token.id then
    if !keyIdentifierClause.matchesAssertion (Text.replace token.id idPrefix "") then
      keyIdentifierClause.matchesToken token.id
    else true
  else true

/-- The id without the service's prefix: all of its occurrences are erased. -/
theorem toList_replace_idPrefix (token : StrTransformedSaml2SecurityToken) :
    (Text.replace token.id idPrefix "").toList =
      eraseAll idPrefix.toList token.assertionId.value.toList := by
  rw [Text.toList_replace_empty, id, String.toList_append]
  exact replaceAll_append _ [] (by decide) _

theorem id_ne_empty (token : StrTransformedSaml2SecurityToken) : token.id ≠ "" := by
  intro h
  have hlist := congrArg String.toList h
  rw [id, String.toList_append] at hlist
  exact absurd (List.append_eq_nil_iff.mp hlist).1 (by decide)

/-- A clause for an assertion matches by the token's `Id`, or by that `Id`
with the prefix erased. -/
theorem matchesKeyIdentifierClause_iff (token : StrTransformedSaml2SecurityToken) (k : String) :
    token.matchesKeyIdentifierClause (.saml2Assertion k) = true ↔
      k = token.id ∨ k ≠ "" ∧ k = Text.replace token.id idPrefix "" := by
  have hid := token.id_ne_empty
  simp only [matchesKeyIdentifierClause, SecurityKeyIdentifierClause.matchesToken,
    SecurityKeyIdentifierClause.matchesAssertion]
  by_cases h1 : k = token.id
  · simp [h1, hid]
  · by_cases h2 : k = Text.replace token.id idPrefix ""
    · by_cases h3 : k = ""
      · simp_all
      · simp_all
    · simp_all

end StrTransformedSaml2SecurityToken

/-! ## The round trip -/

open Consumer

/-- The reference that the consumer writes for assertion `a` finds the token
of assertion `b` exactly when the two are the same. -/
def RoundTrips (a b : Saml2Id) : Prop :=
  ∀ base writer reference,
    writeKeyIdentifierClause base (some writer) (some (customisedClause a)) =
      .ok (reference :: writer) →
    (StrTransformedSaml2SecurityToken.matchesKeyIdentifierClause ⟨b⟩
      (.saml2Assertion reference.keyIdentifier) = true ↔ a = b)

/-- An id in which neither prefix occurs. -/
def Plain (a : Saml2Id) : Prop :=
  ¬ strPrefix.toList <:+: a.value.toList ∧ ¬ idPrefix.toList <:+: a.value.toList

/-- What either side makes of the two ids is the same. -/
def Collide (a b : Saml2Id) : Prop :=
  let sent := eraseAll strPrefix.toList a.value.toList
  sent = idPrefix.toList ++ b.value.toList ∨
    sent ≠ [] ∧ sent = eraseAll idPrefix.toList b.value.toList

theorem matches_keyIdentifierOf_iff {a b : Saml2Id} :
    StrTransformedSaml2SecurityToken.matchesKeyIdentifierClause ⟨b⟩
      (.saml2Assertion (keyIdentifierOf a)) = true ↔ Collide a b := by
  rw [StrTransformedSaml2SecurityToken.matchesKeyIdentifierClause_iff, Collide,
    ← toList_keyIdentifierOf, ← StrTransformedSaml2SecurityToken.toList_replace_idPrefix ⟨b⟩,
    ← String.toList_append, String.toList_inj, String.toList_inj, ne_eq, ne_eq,
    String.toList_eq_nil_iff]
  rfl

theorem roundTrips_iff_collide {a b : Saml2Id} : RoundTrips a b ↔ (Collide a b ↔ a = b) := by
  constructor
  · intro h
    obtain ⟨reference, hwrite, hk⟩ := writeKeyIdentifierClause_customisedClause
      (fun writer _ => .ok writer) [] a
    rw [← matches_keyIdentifierOf_iff, ← hk]
    exact h _ _ _ hwrite
  · intro h base writer reference hwrite
    obtain ⟨reference', hwrite', hk⟩ := writeKeyIdentifierClause_customisedClause base writer a
    obtain ⟨rfl, -⟩ := List.cons.inj (Except.ok.inj (hwrite.symm.trans hwrite'))
    rw [hk, matches_keyIdentifierOf_iff, h]

/-- Each prefix has a letter that the other has not, so the two erasures
only agree where they change nothing. -/
theorem collide_self_iff {a : Saml2Id} : Collide a a ↔ Plain a := by
  have hne : a.value.toList ≠ [] := by
    rw [ne_eq, String.toList_eq_nil_iff]
    exact a.value_ne_empty
  have hs : 's' ∈ strPrefix.toList ∧ 's' ∉ idPrefix.toList := by decide
  have ha : 'a' ∈ idPrefix.toList ∧ 'a' ∉ strPrefix.toList := by decide
  have herase := eraseAll_eq_eraseAll_iff hs.1 hs.2 ha.1 ha.2 a.value.toList
  constructor
  · rintro (h | ⟨-, h⟩)
    · have hle := length_eraseAll_le strPrefix.toList (by decide) a.value.toList
      have hlt : 0 < idPrefix.toList.length := by decide
      rw [h, List.length_append] at hle
      omega
    · exact herase.mp h
  · intro h
    refine Or.inr ⟨?_, herase.mpr h⟩
    rwa [(eraseAll_eq_self_iff _ (by decide) _).mpr h.1]

/-- Plain ids go through as they are. -/
theorem eq_of_collide {a b : Saml2Id} (ha : Plain a) (hb : Plain b) (h : Collide a b) : a = b := by
  have hsent : eraseAll strPrefix.toList a.value.toList = a.value.toList :=
    (eraseAll_eq_self_iff _ (by decide) _).mpr ha.1
  have hkept : eraseAll idPrefix.toList b.value.toList = b.value.toList :=
    (eraseAll_eq_self_iff _ (by decide) _).mpr hb.2
  simp only [Collide, hsent, hkept] at h
  rcases h with h | ⟨-, h⟩
  · have hprefix : idPrefix.toList <+: a.value.toList := ⟨b.value.toList, h.symm⟩
    exact absurd hprefix.isInfix ha.2
  · exact Saml2Id.ext (String.toList_injective h)

theorem roundTrips_iff {a b : Saml2Id} :
    RoundTrips a b ↔ a = b ∧ Plain a ∨ a ≠ b ∧ ¬ Collide a b := by
  rw [roundTrips_iff_collide]
  by_cases h : a = b
  · subst h
    simp [collide_self_iff]
  · simp [h]

/-- The round trip succeeds for all pairs of a set of ids exactly when all of
them are plain. -/
theorem roundTrips_of_set_iff {ids : Set Saml2Id} :
    (∀ a ∈ ids, ∀ b ∈ ids, RoundTrips a b) ↔ ∀ a ∈ ids, Plain a := by
  constructor
  · intro h a ha
    exact collide_self_iff.mp ((roundTrips_iff_collide.mp (h a ha a ha)).mpr rfl)
  · intro h a ha b hb
    rw [roundTrips_iff_collide]
    constructor
    · exact eq_of_collide (h a ha) (h b hb)
    · intro heq
      rw [← heq, collide_self_iff]
      exact h a ha

/-- **The round trip** of a pair of ids succeeds exactly for one plain id,
and for two ids of which different texts are left; that of a set of ids
succeeds exactly when all of them are plain. -/
theorem keyIdentifier_roundTrip_iff (a b : Saml2Id) (ids : Set Saml2Id) :
    (RoundTrips a b ↔ a = b ∧ Plain a ∨ a ≠ b ∧ ¬ Collide a b) ∧
      ((∀ c ∈ ids, ∀ d ∈ ids, RoundTrips c d) ↔ ∀ c ∈ ids, Plain c) :=
  ⟨roundTrips_iff, roundTrips_of_set_iff⟩

/-- An assertion whose id holds the consumer's prefix. -/
def strandId : Saml2Id := ⟨"_strand-1", by decide⟩

/-- The reference to it does not find it. -/
theorem not_roundTrips_strandId : ¬ RoundTrips strandId strandId := by
  rw [roundTrips_iff_collide, collide_self_iff]
  intro h
  exact (h.mpr rfl).1 (by decide)

/-! ## Exact matching -/

/-- The token of an assertion is found by the id of the assertion, with or
without the prefix, and by no other id. -/
def MatchesExactly (a : Saml2Id) (k : String) : Prop :=
  StrTransformedSaml2SecurityToken.matchesKeyIdentifierClause ⟨a⟩ (.saml2Assertion k) = true ↔
    k = a.value ∨ k = idPrefix ++ a.value

/-- What is left of the id when the prefix is erased from the token's `Id`. -/
def unprefixedId (a : Saml2Id) : String :=
  Text.replace (StrTransformedSaml2SecurityToken.id ⟨a⟩) idPrefix ""

/-- That is the id itself exactly when the prefix does not occur in it. -/
theorem unprefixedId_eq_iff {a : Saml2Id} :
    unprefixedId a = a.value ↔ ¬ idPrefix.toList <:+: a.value.toList := by
  rw [← String.toList_inj, unprefixedId,
    StrTransformedSaml2SecurityToken.toList_replace_idPrefix ⟨a⟩]
  exact eraseAll_eq_self_iff _ (by decide) _

/-- A text that is no longer than the id is not the token's `Id`. -/
theorem ne_id_of_length_le {a : Saml2Id} {text : String}
    (h : text.toList.length ≤ a.value.toList.length) : text ≠ idPrefix ++ a.value := by
  intro htext
  have hlt : 0 < idPrefix.toList.length := by decide
  rw [htext, String.toList_append, List.length_append] at h
  omega

theorem unprefixedId_ne_id (a : Saml2Id) : unprefixedId a ≠ idPrefix ++ a.value := by
  refine ne_id_of_length_le ?_
  rw [unprefixedId, StrTransformedSaml2SecurityToken.toList_replace_idPrefix ⟨a⟩]
  exact length_eraseAll_le _ (by decide) _

/-- A clause matches as it should when the prefix does not occur in the
assertion's id, or the clause has neither that id nor what is left of it. -/
theorem matchesExactly_of_id_iff {a : Saml2Id} {k : String} :
    MatchesExactly a k ↔ ¬ idPrefix.toList <:+: a.value.toList ∨
      k ≠ a.value ∧ (k = "" ∨ k ≠ unprefixedId a) := by
  have hempty := a.value_ne_empty
  have hvalue : a.value ≠ idPrefix ++ a.value := ne_id_of_length_le (Nat.le_refl _)
  have hleft := unprefixedId_ne_id a
  have hid : idPrefix ++ a.value ≠ "" := StrTransformedSaml2SecurityToken.id_ne_empty ⟨a⟩
  rw [MatchesExactly, StrTransformedSaml2SecurityToken.matchesKeyIdentifierClause_iff,
    ← unprefixedId_eq_iff]
  change (k = idPrefix ++ a.value ∨ k ≠ "" ∧ k = unprefixedId a ↔ _) ↔ _
  by_cases hself : unprefixedId a = a.value
  · rw [hself]
    grind
  · grind

/-- **Exact matching** of one clause, and of all clauses: a token is found by
its own ids only when the prefix does not occur in the id of its assertion. -/
theorem matchesExactly_iff (a : Saml2Id) (k : String) :
    (MatchesExactly a k ↔ ¬ idPrefix.toList <:+: a.value.toList ∨
      k ≠ a.value ∧ (k = "" ∨ k ≠ unprefixedId a)) ∧
    ((∀ k, MatchesExactly a k) ↔ ¬ idPrefix.toList <:+: a.value.toList) := by
  refine ⟨matchesExactly_of_id_iff, ?_⟩
  constructor
  · intro h
    obtain hplain | ⟨hne, -⟩ := matchesExactly_of_id_iff.mp (h a.value)
    · exact hplain
    · exact absurd rfl hne
  · exact fun hplain k => matchesExactly_of_id_iff.mpr (Or.inl hplain)

/-- An assertion whose id starts with the service's prefix. -/
def duplicateId : Saml2Id := ⟨"_avoid_duplicate_1", by decide⟩

/-- Its token is not found by its id, but by what is left of it. -/
theorem not_matchesExactly_duplicateId :
    ¬ MatchesExactly duplicateId "_avoid_duplicate_1" ∧ ¬ MatchesExactly duplicateId "1" := by
  unfold MatchesExactly
  decide

end KombitSamples.Service
