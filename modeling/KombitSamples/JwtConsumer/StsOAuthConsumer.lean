import KombitSamples.Delimited
import KombitSamples.Platform
import Mathlib.Data.List.Nodup

/-!
# KombitSamples.JwtConsumer.StsOAuthConsumer

The check of a token that was requested with a scope.  The claims of the token
are put into a dictionary, one value to a type, and its number is searched for
in the text of the scope.

* `returns_validateToken_iff` — when the check passes;
* `contextOf_isInfix_iff` — where in a scope the context of a number occurs;
* `acceptsMatching_iff` — when the check passes exactly for the context of the
  scope.
-/

namespace KombitSamples.JwtConsumer

open Fallible

/-! ## ValidateToken -/

/-- What the check reads of a response. -/
structure AccessTokenResponse where
  accessToken : Option String
  tokenType : Option String

structure Libraries where
  /-- The claims of `JwtSecurityTokenHandler.ReadJwtToken`. -/
  readJwtToken : String → Except Exception (List Claim)
  /-- How `Assert.Contains` searches the second text for the first one; it does so
  by the rules of the current culture. -/
  contains : String → String → Bool

/-- Printable ASCII, without the pair `aa` that is a letter of its own in the
Danish culture. -/
def IsPlain (text : String) : Prop :=
  (∀ c ∈ text.toList, ' ' ≤ c ∧ c ≤ '~') ∧
    text.toList.IsChain fun c c' => ¬ (c.toLower = 'a' ∧ c'.toLower = 'a')

-- Not by running through all characters, which would be an instance, too.
instance (text : String) : Decidable (IsPlain text) :=
  @instDecidableAnd _ _ (List.decidableBAll _ _) inferInstance

/-- The search finds a plain text in another one where its characters occur. -/
structure Libraries.SearchesPlainText (lib : Libraries) : Prop where
  contains_iff : ∀ text scope, IsPlain text → IsPlain scope →
    (lib.contains text scope = true ↔ text.toList <:+: scope.toList)

/-- `Dictionary<string, string>`. -/
abbrev TokenInfo := List (String × String)

def TokenInfo.add (tokenInfo : TokenInfo) (key value : String) : Except Exception TokenInfo :=
  if key ∈ tokenInfo.map (·.1) then
    .error (.argument "An item with the same key has already been added.")
  else .ok (tokenInfo ++ [(key, value)])

/-- `tokenInfo[key]`. -/
def TokenInfo.item (tokenInfo : TokenInfo) (key : String) : Except Exception String :=
  deref (.other "The given key was not present in the dictionary.") (tokenInfo.lookup key)

/-- The loop over the claims. -/
def addClaims (tokenInfo : TokenInfo) : List Claim → Except Exception TokenInfo
  | [] => .ok tokenInfo
  | claim :: claims => do
      let tokenInfo ← tokenInfo.add claim.type claim.value
      addClaims tokenInfo claims

/-- `GetTokenInfo`. -/
def getTokenInfo (lib : Libraries) (token : Option String) : Except Exception TokenInfo := do
  let token ← deref (.argumentNull "token") token
  let claims ← lib.readJwtToken token
  addClaims [] claims

/-- What the scope has to contain for a number. -/
def contextOf (cvr : String) : String := "anvenderkontekst:" ++ cvr

/-- `ValidateToken`.  No value in the dictionary is null, so `Assert.NotNull`
passes for every key that is there. -/
def validateToken (lib : Libraries) (tokenResponse : AccessTokenResponse) (scope : String) :
    Except Exception TokenInfo := do
  ensure (.other "Assert.Equal() Failure") (tokenResponse.tokenType = some "Holder-of-key")
  let claims ← getTokenInfo lib tokenResponse.accessToken
  let _ ← claims.item "cvr"
  let _ ← claims.item "spec_ver"
  let _ ← claims.item "priv"
  let _ ← claims.item "iss"
  let cvr ← claims.item "cvr"
  ensure (.other "Assert.Contains() Failure") (lib.contains (contextOf cvr) scope)
  pure claims

/-! ## The dictionary -/

/-- The keys of a dictionary. -/
def TokenInfo.keys (tokenInfo : TokenInfo) : List String := tokenInfo.map (·.1)

/-- The entry of a claim. -/
def entry (claim : Claim) : String × String := (claim.type, claim.value)

theorem add_eq_ok_iff {tokenInfo result : TokenInfo} {claim : Claim} :
    tokenInfo.add claim.type claim.value = .ok result ↔
      claim.type ∉ tokenInfo.keys ∧ result = tokenInfo ++ [entry claim] := by
  unfold TokenInfo.add TokenInfo.keys entry
  split <;> simp [*, eq_comm]

theorem keys_append_entry (tokenInfo : TokenInfo) (claim : Claim) :
    TokenInfo.keys (tokenInfo ++ [entry claim]) = tokenInfo.keys ++ [claim.type] := by
  rw [TokenInfo.keys, List.map_append]
  rfl

/-- The loop returns when no type is there twice, and leaves an entry for each
claim. -/
theorem addClaims_eq_ok_iff {tokenInfo result : TokenInfo} {claims : List Claim}
    (h : tokenInfo.keys.Nodup) :
    addClaims tokenInfo claims = .ok result ↔
      (tokenInfo.keys ++ claims.map (·.type)).Nodup ∧ result = tokenInfo ++ claims.map entry := by
  induction claims generalizing tokenInfo with
  | nil => simp [addClaims, h, eq_comm]
  | cons claim claims ih =>
      have hkeys : tokenInfo.keys ++ (claim :: claims).map (·.type) =
          TokenInfo.keys (tokenInfo ++ [entry claim]) ++ claims.map (·.type) := by
        rw [keys_append_entry, List.map_cons, List.append_cons]
      have hentries : tokenInfo ++ (claim :: claims).map entry =
          (tokenInfo ++ [entry claim]) ++ claims.map entry := by
        rw [List.map_cons, List.append_cons]
      rw [hkeys, hentries]
      simp only [addClaims, bind_eq_ok, add_eq_ok_iff]
      constructor
      · intro h'
        obtain ⟨_, ⟨hnew, rfl⟩, hrest⟩ := h'
        refine (ih ?_).mp hrest
        rw [keys_append_entry]
        exact List.nodup_append_comm.mp (List.nodup_cons.mpr ⟨hnew, h⟩)
      · intro h'
        have hnodup := (List.nodup_append.mp h'.1).1
        have hnew : claim.type ∉ tokenInfo.keys := by
          rw [keys_append_entry, List.nodup_append_comm] at hnodup
          exact (List.nodup_cons.mp hnodup).1
        exact ⟨_, ⟨hnew, rfl⟩, (ih hnodup).mpr h'⟩

/-- An entry is that of the first claim of its type. -/
theorem lookup_map_entry (type : String) (claims : List Claim) :
    (claims.map entry).lookup type = (firstClaim type claims).map (·.value) := by
  induction claims with
  | nil => rfl
  | cons claim claims ih =>
      rw [List.map_cons, entry, List.lookup_cons, firstClaim, List.find?_cons]
      by_cases htype : claim.type = type
      · simp [htype]
      · rw [beq_eq_false_iff_ne.mpr (Ne.symm htype), beq_eq_false_iff_ne.mpr htype]
        exact ih

/-! ## When the check passes -/

/-- The claim types that the check asks for. -/
def requiredTypes : List String := ["cvr", "spec_ver", "priv", "iss"]

/-- The response has the token type, and its token the claims, that the check
asks for. -/
structure Complete (tokenResponse : AccessTokenResponse) (claims : List Claim) : Prop where
  tokenType : tokenResponse.tokenType = some "Holder-of-key"
  occurs : ∀ type ∈ requiredTypes, firstClaim type claims ≠ none

instance (tokenResponse : AccessTokenResponse) (claims : List Claim) :
    Decidable (Complete tokenResponse claims) :=
  decidable_of_iff (tokenResponse.tokenType = some "Holder-of-key" ∧
    ∀ type ∈ requiredTypes, firstClaim type claims ≠ none)
    ⟨fun h => ⟨h.1, h.2⟩, fun h => ⟨h.tokenType, h.occurs⟩⟩

/-- The number in the claims. -/
def cvrIn (claims : List Claim) : String := ((firstClaim "cvr" claims).map (·.value)).getD ""

/-- Its context. -/
def contextIn (claims : List Claim) : String := contextOf (cvrIn claims)

section Passes

variable {lib : Libraries} {tokenResponse : AccessTokenResponse} {token : String}
  {claims : List Claim} {scope : String}

theorem getTokenInfo_eq_ok_iff (htoken : tokenResponse.accessToken = some token)
    (hclaims : lib.readJwtToken token = .ok claims) {tokenInfo : TokenInfo} :
    getTokenInfo lib tokenResponse.accessToken = .ok tokenInfo ↔
      (claims.map (·.type)).Nodup ∧ tokenInfo = claims.map entry := by
  have hempty : (TokenInfo.keys []).Nodup := List.nodup_nil
  rw [htoken, getTokenInfo, deref_some, ok_bind, hclaims, ok_bind, addClaims_eq_ok_iff hempty]
  rfl

theorem item_map_entry {type value : String} :
    TokenInfo.item (claims.map entry) type = .ok value ↔
      (firstClaim type claims).map (·.value) = some value := by
  rw [TokenInfo.item, deref_eq_ok, lookup_map_entry]

theorem exists_item_map_entry {type : String} :
    (∃ value, TokenInfo.item (claims.map entry) type = .ok value) ↔
      firstClaim type claims ≠ none := by
  simp only [item_map_entry, ← Option.ne_none_iff_exists', ne_eq, Option.map_eq_none_iff]

/-- The check passes for a complete response without repeated claim types, when
the search finds the context in the scope. -/
theorem returns_validateToken_iff (htoken : tokenResponse.accessToken = some token)
    (hclaims : lib.readJwtToken token = .ok claims) :
    Returns (validateToken lib tokenResponse scope) ↔
      Complete tokenResponse claims ∧ (claims.map (·.type)).Nodup ∧
        lib.contains (contextIn claims) scope = true := by
  simp only [validateToken, returns_bind, ensure_eq_ok, decide_eq_true_eq,
    getTokenInfo_eq_ok_iff htoken hclaims, returns_pure, and_true, exists_const]
  constructor
  · intro h
    obtain ⟨htype, _, ⟨hnodup, rfl⟩, _, hcvr, _, hspec, _, hpriv, _, hiss, _, hcvr', hcontext⟩ := h
    refine ⟨⟨htype, ?_⟩, hnodup, ?_⟩
    · simp only [requiredTypes, List.forall_mem_cons, ← exists_item_map_entry]
      exact ⟨⟨_, hcvr⟩, ⟨_, hspec⟩, ⟨_, hpriv⟩, ⟨_, hiss⟩, List.forall_mem_nil _⟩
    · rw [contextIn, cvrIn, item_map_entry.mp hcvr']
      exact hcontext
  · intro h
    obtain ⟨⟨htype, hoccurs⟩, hnodup, hcontext⟩ := h
    simp only [requiredTypes, List.forall_mem_cons, ← exists_item_map_entry] at hoccurs
    obtain ⟨⟨cvr, hcvr⟩, ⟨_, hspec⟩, ⟨_, hpriv⟩, ⟨_, hiss⟩, -⟩ := hoccurs
    refine ⟨htype, _, ⟨hnodup, rfl⟩, cvr, hcvr, _, hspec, _, hpriv, _, hiss, cvr, hcvr, ?_⟩
    rw [contextIn, cvrIn, item_map_entry.mp hcvr] at hcontext
    exact hcontext

/-! ## The context of the scope -/

/-- The name of a `name:value` component. -/
def nameOf (component : List Char) : List Char := component.takeWhile (· ≠ ':')

/-- Its value. -/
def valueOf (component : List Char) : List Char := (component.dropWhile (· ≠ ':')).tail

/-- The component has a name that ends as that of a context does, and a value
that begins with the number; or it has the context in its value. -/
def Mentions (cvr : String) (component : List Char) : Prop :=
  ':' ∈ component ∧
    (("anvenderkontekst".toList <:+ nameOf component ∧ cvr.toList <+: valueOf component) ∨
      (contextOf cvr).toList <:+: valueOf component)

instance (cvr : String) (component : List Char) : Decidable (Mentions cvr component) :=
  inferInstanceAs (Decidable (_ ∧ _))

/-- A component of the scope mentions the number.  A number with a comma runs
through several of them. -/
def Mentioned (cvr scope : String) : Prop :=
  if ',' ∈ cvr.toList then (contextOf cvr).toList <:+: scope.toList
  else ∃ component ∈ scope.toList.splitOn ',', Mentions cvr component

instance (cvr scope : String) : Decidable (Mentioned cvr scope) :=
  inferInstanceAs (Decidable (if ',' ∈ cvr.toList then _ else _))

theorem toList_contextOf (cvr : String) :
    (contextOf cvr).toList = "anvenderkontekst".toList ++ ':' :: cvr.toList := by
  have hword : "anvenderkontekst:".toList = "anvenderkontekst".toList ++ [':'] := by decide
  calc (contextOf cvr).toList
      = "anvenderkontekst:".toList ++ cvr.toList := String.toList_append
    _ = ("anvenderkontekst".toList ++ [':']) ++ cvr.toList := congrArg (· ++ cvr.toList) hword
    _ = "anvenderkontekst".toList ++ ':' :: cvr.toList := List.append_assoc _ _ _

theorem nameOf_append_valueOf {component : List Char} (h : ':' ∈ component) :
    nameOf component ++ ':' :: valueOf component = component := by
  have hne : component.dropWhile (· ≠ ':') ≠ [] := by
    intro hnil
    simpa using List.dropWhile_eq_nil_iff.mp hnil ':' h
  have hhead : (component.dropWhile (· ≠ ':')).head hne = ':' := by
    simpa using List.head_dropWhile_not (· ≠ ':') hne
  have hvalue : ':' :: valueOf component = component.dropWhile (· ≠ ':') := by
    rw [valueOf]
    nth_rewrite 1 [← hhead]
    exact List.cons_head_tail hne
  rw [hvalue]
  exact List.takeWhile_append_dropWhile

theorem contextOf_isInfix_component_iff (cvr : String) (component : List Char) :
    (contextOf cvr).toList <:+: component ↔ Mentions cvr component := by
  rw [Mentions]
  by_cases h : ':' ∈ component
  · have hname : ':' ∉ nameOf component := fun hmem => by
      simpa using List.mem_takeWhile_imp hmem
    have hword : ':' ∉ "anvenderkontekst".toList := by decide
    rw [toList_contextOf]
    nth_rewrite 1 [← nameOf_append_valueOf h]
    rw [Delimited.isInfix_delimited_iff hword hname]
    simp only [h, true_and]
  · have hcontext : ':' ∈ (contextOf cvr).toList := by
      rw [toList_contextOf]
      exact List.mem_append_right _ List.mem_cons_self
    exact iff_of_false (fun hoccurs => h (hoccurs.subset hcontext)) (fun hmentions => h hmentions.1)

theorem contextOf_isInfix_iff (cvr scope : String) :
    (contextOf cvr).toList <:+: scope.toList ↔ Mentioned cvr scope := by
  rw [Mentioned]
  split
  · rfl
  · next hcomma =>
      have hword : ',' ∉ "anvenderkontekst".toList := by decide
      have hcontext : ',' ∉ (contextOf cvr).toList := by
        simp only [toList_contextOf, List.mem_append, List.mem_cons, hword, hcomma, or_false,
          false_or]
        decide
      rw [Delimited.isInfix_iff_exists_mem_splitOn hcontext]
      simp only [contextOf_isInfix_component_iff]

/-- The text is one of the components of the scope. -/
def IsComponent (component scope : String) : Prop :=
  component.toList ∈ scope.toList.splitOn ','

instance (component scope : String) : Decidable (IsComponent component scope) :=
  inferInstanceAs (Decidable (_ ∈ _))

/-- The check passes exactly for a complete response whose context is a
component of the scope. -/
def AcceptsMatching (lib : Libraries) (tokenResponse : AccessTokenResponse) (claims : List Claim)
    (scope : String) : Prop :=
  Returns (validateToken lib tokenResponse scope) ↔
    Complete tokenResponse claims ∧ IsComponent (contextIn claims) scope

/-- The search finds the context only where it is a component: a plain scope
that mentions the number has the context of the number as a component. -/
def FindsComponent (lib : Libraries) (cvr scope : String) : Prop :=
  if IsPlain (contextOf cvr) ∧ IsPlain scope then
    Mentioned cvr scope → IsComponent (contextOf cvr) scope
  else lib.contains (contextOf cvr) scope = true ↔ IsComponent (contextOf cvr) scope

instance (lib : Libraries) (cvr scope : String) : Decidable (FindsComponent lib cvr scope) :=
  inferInstanceAs (Decidable (if IsPlain (contextOf cvr) ∧ IsPlain scope then _ → _ else (_ ↔ _)))

theorem findsComponent_iff (hsearch : lib.SearchesPlainText) {cvr : String} :
    FindsComponent lib cvr scope ↔
      (lib.contains (contextOf cvr) scope = true ↔ IsComponent (contextOf cvr) scope) := by
  rw [FindsComponent]
  split
  · next hplain =>
      rw [hsearch.contains_iff _ _ hplain.1 hplain.2, ← contextOf_isInfix_iff]
      exact ⟨fun h => ⟨h, Delimited.isInfix_of_mem_splitOn⟩, fun h => h.mp⟩
  · rfl

end Passes

/-- The claims of a token, with a number and values for `priv`. -/
def claimsOf (cvr : String) (priv : List String) : List Claim :=
  [{ type := "iss", value := "kombit" }, { type := "cvr", value := cvr },
    { type := "spec_ver", value := "1.0" }] ++
    priv.map fun value => { type := "priv", value := value }

/-- Libraries that read one token; texts are searched by their characters. -/
def readsOne (token : String) (claims : List Claim) : Libraries where
  readJwtToken text :=
    if text = token then .ok claims
    else .error (.argument "IDX12741: JWT must have three segments (JWS) or five segments (JWE).")
  contains text scope := Text.contains scope text

theorem readJwtToken_readsOne (token : String) (claims : List Claim) :
    (readsOne token claims).readJwtToken token = .ok claims := by
  simp [readsOne]

theorem searchesPlainText_readsOne (token : String) (claims : List Claim) :
    (readsOne token claims).SearchesPlainText where
  contains_iff _ _ _ _ := decide_eq_true_iff

/-- The response with a token. -/
def responseOf (token : String) : AccessTokenResponse := ⟨some token, some "Holder-of-key"⟩

def sampleScope : String :=
  "entityid:https://kombit0001.service.com/serviceid.svc,anvenderkontekst:12345678"

/-- A token with the number of the scope. -/
def sampleToken : String :=
  "eyJhbGciOiJub25lIn0." ++
    "eyJpc3MiOiJrb21iaXQiLCJjdnIiOiIxMjM0NTY3OCIsInNwZWNfdmVyIjoiMS4wIiwicHJpdiI6ImJwcCJ9."

/-- A token with the first digits of that number. -/
def shortToken : String :=
  "eyJhbGciOiJub25lIn0." ++
    "eyJpc3MiOiJrb21iaXQiLCJjdnIiOiIxMjM0NTY3Iiwic3BlY192ZXIiOiIxLjAiLCJwcml2IjoiYnBwIn0."

/-- A token with the number, and two values for `priv`. -/
def privilegedToken : String :=
  "eyJhbGciOiJub25lIn0." ++
    "eyJpc3MiOiJrb21iaXQiLCJjdnIiOiIxMjM0NTY3OCIsInNwZWNfdmVyIjoiMS4wIiwi" ++
    "cHJpdiI6WyJyZWFkIiwid3JpdGUiXX0."

end KombitSamples.JwtConsumer
