import Ace.Hub
import Ace.NetUrl

/-!
# `HandleAuthz`

An authorization request names a document and a requesting party. The comparator reads the
document's metadata from the vault, registers a `DocQuery` for it at the CSH, mints a child
of its CSH profile capability that lets the requesting party reference that query, and
returns the compressed child as the authorization token.

`authzDocQuery` is everything before the CSH call and `issueToken` everything after it; the
handler is the one call between them. `getKey` reads the first entry of the configured key set
through go-jose (`unmarshalJWK`, which gives the key id and the Ed25519 private key, if the
key is one).
-/

namespace Ace

open Strings

def getKey (unmarshalJWK : Models.JsonValue → Except String (String × Option (List UInt8)))
    (comparatorConfig : Models.Config) : Except Failure (String × List UInt8) :=
  match comparatorConfig.key with
  | .array keys =>
    match Go.index keys 0 with
    | .error msg => .error (.panic msg)
    | .ok key =>
      match unmarshalJWK key with
      | .error e => .error (.error ("failed to unmarshal key to jwk: " ++ e))
      | .ok (keyID, some k) => .ok (keyID, k)
      | .ok (_, none) => .error (.error "key is not ed25519")
  | _ => .error (.error "key is not array")

/-- `toZCaveats`: slot `i` of the result holds caveat `i` converted when it is an
`ExpiryCaveat`, and keeps the zero caveat otherwise. `uint64(t.Duration)` keeps the bits. -/
def toZCaveats (caveats : List Models.Caveat) : List Zcapld.Caveat :=
  caveats.map fun
    | .expiryCaveat d => ⟨(Models.Caveat.expiryCaveat d).type, d⟩
    | .other _ => Zcapld.Caveat.zero

def cshQueryTargetType : String := "urn:confidentialstoragehub:query"

def driveZCAPForCSH (o : Operation) (invokerDID queryIDPath : String)
    (caveats : List Models.Caveat) : Except Failure Zcapld.Capability := do
  let cshZCAP ← (o.zcap.decompressZCAP o.cshProfile.zcap).mapError
    fun e => .error ("failed to parse CSH profile zcap: " ++ e)
  let (keyID, key) ← getKey o.unmarshalJWK o.comparatorConfig
  (Zcapld.newCapability o.zcap ⟨key, o.comparatorConfig.did ++ "#" ++ keyID⟩
    { parent := cshZCAP.id, invoker := invokerDID, allowedAction := ["reference"],
      caveats := toZCaveats caveats,
      invocationTarget := ⟨queryIDPath, cshQueryTargetType⟩,
      capabilityChain := [cshZCAP.id] }).mapError .error

def authzDocQuery (o : Operation) (authz : Models.Authorization) : Except Reply Csh.DocQuery := do
  let docMeta ← (o.getDocMetaData authz.scope.vaultID authz.scope.docID).mapError
    fun e => respondErrorf statusInternalServerError ("failed to get doc meta: " ++ e)
  let kmsURL ← (NetUrl.parse docMeta.encKeyURI).mapError
    fun e => respondErrorf statusInternalServerError ("failed to parse enc key uri: " ++ e)
  let edvURL ← (NetUrl.parse docMeta.uri).mapError
    fun e => respondErrorf statusInternalServerError ("failed to parse doc uri: " ++ e)
  let parts := split docMeta.uri "/"
  let vaultID ← (Go.index parts (parts.length - 3)).mapError .panic
  let docID ← (Go.index parts (parts.length - 1)).mapError .panic
  let part3 ← (Go.index parts 3).mapError .panic
  pure { vaultID, docID, path := authz.scope.docAttrPath,
         edv := ⟨edvURL.scheme ++ "://" ++ edvURL.host ++ "/" ++ part3, authz.scope.authTokens.edv⟩,
         kms := ⟨kmsURL.scheme ++ "://" ++ kmsURL.host, authz.scope.authTokens.kms⟩ }

def issueToken (o : Operation) (authz : Models.Authorization) (location : String) : Reply :=
  match driveZCAPForCSH o authz.requestingParty location authz.scope.caveats with
  | .error (.error e) =>
    respondErrorf statusInternalServerError ("failed to drive child zcap from csh zcap: " ++ e)
  | .error (.panic msg) => .panic msg
  | .ok zcap =>
    match o.zcap.compressZCAP zcap with
    | .error e => respondErrorf statusInternalServerError ("failed to compress zcap: " ++ e)
    | .ok authToken => .respond statusOK (.authorization authz.requestingParty authToken)

def handleAuthz (o : Operation) (authz : Models.Authorization) : CshProgram Reply :=
  match authzDocQuery o authz with
  | .error r => .done r
  | .ok query =>
    .postHubstoreProfilesProfileIDQueries o.cshProfile.id query fun
      | .error e => .done (respondErrorf statusInternalServerError ("failed to create query: " ++ e))
      | .ok location => .done (issueToken o authz location)

end Ace

namespace Ace

open Strings Go

/-! ## The document's coordinates -/

/-- What a handler reads of a document's metadata before it builds the CSH query: the
parsed key and document URLs and three pieces of the `/`-split document URI, each the
result of a step that succeeded. -/
structure DocCoords (docMeta : Vault.DocumentMetadata) where
  kmsURL : NetUrl.URL
  edvURL : NetUrl.URL
  vaultID : String
  docID : String
  part3 : String
  kmsURL_ok : NetUrl.parse docMeta.encKeyURI = .ok kmsURL
  edvURL_ok : NetUrl.parse docMeta.uri = .ok edvURL
  vaultID_ok : Go.index (split docMeta.uri "/") ((split docMeta.uri "/").length - 3) = .ok vaultID
  docID_ok : Go.index (split docMeta.uri "/") ((split docMeta.uri "/").length - 1) = .ok docID
  part3_ok : Go.index (split docMeta.uri "/") 3 = .ok part3

namespace DocCoords

variable {docMeta : Vault.DocumentMetadata}

def edvBaseURL (c : DocCoords docMeta) : String :=
  c.edvURL.scheme ++ "://" ++ c.edvURL.host ++ "/" ++ c.part3

def kmsBaseURL (c : DocCoords docMeta) : String := c.kmsURL.scheme ++ "://" ++ c.kmsURL.host

def query (c : DocCoords docMeta) (path : String) (tokens : Models.AuthTokens) : Csh.DocQuery :=
  { vaultID := c.vaultID, docID := c.docID, path,
    edv := ⟨c.edvBaseURL, tokens.edv⟩, kms := ⟨c.kmsBaseURL, tokens.kms⟩ }

/-- The metadata fixes the coordinates. -/
instance : Subsingleton (DocCoords docMeta) where
  allEq c c' := by
    obtain ⟨k, e, v, d, p, hk, he, hv, hd, hp⟩ := c
    obtain ⟨k', e', v', d', p', hk', he', hv', hd', hp'⟩ := c'
    cases hk.symm.trans hk'
    cases he.symm.trans he'
    cases hv.symm.trans hv'
    cases hd.symm.trans hd'
    cases hp.symm.trans hp'
    rfl

end DocCoords

theorem authzDocQuery_eq_ok {o : Operation} {authz : Models.Authorization} {dq : Csh.DocQuery} :
    authzDocQuery o authz = .ok dq ↔
      ∃ docMeta, o.getDocMetaData authz.scope.vaultID authz.scope.docID = .ok docMeta ∧
        ∃ c : DocCoords docMeta, dq = c.query authz.scope.docAttrPath authz.scope.authTokens := by
  constructor
  · intro h
    unfold authzDocQuery at h
    obtain ⟨docMeta, hm, h⟩ := bind_eq_ok.1 h
    obtain ⟨kmsURL, hk, h⟩ := bind_eq_ok.1 h
    obtain ⟨edvURL, he, h⟩ := bind_eq_ok.1 h
    obtain ⟨vaultID, hv, h⟩ := bind_eq_ok.1 h
    obtain ⟨docID, hd, h⟩ := bind_eq_ok.1 h
    obtain ⟨part3, hp, h⟩ := bind_eq_ok.1 h
    cases h
    exact ⟨docMeta, mapError_eq_ok.1 hm, ⟨kmsURL, edvURL, vaultID, docID, part3,
      mapError_eq_ok.1 hk, mapError_eq_ok.1 he, mapError_eq_ok.1 hv, mapError_eq_ok.1 hd,
      mapError_eq_ok.1 hp⟩, rfl⟩
  · rintro ⟨docMeta, hm, c, rfl⟩
    simp only [authzDocQuery, hm, c.kmsURL_ok, c.edvURL_ok, c.vaultID_ok, c.docID_ok,
      c.part3_ok, mapError_ok, ok_bind]
    rfl

/-- Everything before the CSH call fails with a 500 or a panic. -/
theorem authzDocQuery_error (o : Operation) (authz : Models.Authorization) :
    ∀ r, authzDocQuery o authz = .error r → r.IsError := by
  have h500 : ∀ msg, (respondErrorf statusInternalServerError msg).IsError :=
    fun _ => show statusInternalServerError ≠ statusOK by decide
  unfold authzDocQuery
  refine bind_errors (mapError_errors fun _ => h500 _) fun _ => ?_
  refine bind_errors (mapError_errors fun _ => h500 _) fun _ => ?_
  refine bind_errors (mapError_errors fun _ => h500 _) fun _ => ?_
  refine bind_errors (mapError_errors fun _ => trivial) fun _ => ?_
  refine bind_errors (mapError_errors fun _ => trivial) fun _ => ?_
  refine bind_errors (mapError_errors fun _ => trivial) fun _ => ?_
  rintro _ ⟨⟩

/-! ## The key and the child capability -/

theorem driveZCAPForCSH_eq_ok {o : Operation} {invokerDID queryIDPath : String}
    {caveats : List Models.Caveat} {c : Zcapld.Capability}
    (h : driveZCAPForCSH o invokerDID queryIDPath caveats = .ok c) :
    ∃ cshZCAP : Zcapld.Capability, o.zcap.decompressZCAP o.cshProfile.zcap = .ok cshZCAP ∧
      c.parent = cshZCAP.id ∧ c.invoker = invokerDID ∧ c.allowedAction = ["reference"] ∧
      c.caveats = toZCaveats caveats ∧
      c.invocationTarget = ⟨queryIDPath, cshQueryTargetType⟩ ∧
      c.capabilityChain = [cshZCAP.id] := by
  unfold driveZCAPForCSH at h
  obtain ⟨cshZCAP, hd, h⟩ := bind_eq_ok.1 h
  obtain ⟨⟨keyID, key⟩, -, h⟩ := bind_eq_ok.1 h
  exact ⟨cshZCAP, mapError_eq_ok.1 hd, Zcapld.newCapability_fields (mapError_eq_ok.1 h)⟩

theorem issueToken_eq_ok {o : Operation} {authz : Models.Authorization} {location : String}
    {body : Body} (h : issueToken o authz location = .respond statusOK body) :
    ∃ zcap token,
      driveZCAPForCSH o authz.requestingParty location authz.scope.caveats = .ok zcap ∧
        o.zcap.compressZCAP zcap = .ok token ∧ body = .authorization authz.requestingParty token := by
  unfold issueToken at h
  split at h
  · cases h
  · cases h
  · next zcap hz =>
    split at h
    · cases h
    · next token ht =>
      cases h
      exact ⟨zcap, token, hz, ht, rfl⟩

theorem issueToken_ok_iff {o : Operation} {authz : Models.Authorization}
    {location rp token : String} :
    issueToken o authz location = .respond statusOK (.authorization rp token) ↔
      rp = authz.requestingParty ∧
      ∃ cshZCAP keyID key p,
        o.zcap.decompressZCAP o.cshProfile.zcap = .ok cshZCAP ∧
        getKey o.unmarshalJWK o.comparatorConfig = .ok (keyID, key) ∧
        let child : Zcapld.Capability :=
          { id := o.zcap.newID, invoker := authz.requestingParty, parent := cshZCAP.id,
            allowedAction := ["reference"], invocationTarget := ⟨location, cshQueryTargetType⟩,
            caveats := toZCaveats authz.scope.caveats, capabilityChain := [cshZCAP.id],
            proof := [] }
        o.zcap.signZCAP ⟨key, o.comparatorConfig.did ++ "#" ++ keyID⟩ child = .ok p ∧
          o.zcap.compressZCAP { child with proof := [p] } = .ok token := by
  constructor
  · intro h
    obtain ⟨zcap, t, hz, ht, hb⟩ := issueToken_eq_ok h
    cases hb
    unfold driveZCAPForCSH at hz
    obtain ⟨cshZCAP, hd, hz⟩ := bind_eq_ok.1 hz
    obtain ⟨⟨keyID, key⟩, hk, hz⟩ := bind_eq_ok.1 hz
    obtain ⟨p, hp, rfl⟩ := Zcapld.newCapability_eq_ok.1 (mapError_eq_ok.1 hz)
    exact ⟨rfl, cshZCAP, keyID, key, p, mapError_eq_ok.1 hd, hk, hp, ht⟩
  · rintro ⟨rfl, cshZCAP, keyID, key, p, hd, hk, hp, ht⟩
    simp [issueToken, driveZCAPForCSH, Zcapld.newCapability, hd, hk, hp, ht, mapError_ok, ok_bind]

theorem toNat_eq_toInt_of_nonneg (d : BitVec 64) (h : 0 ≤ d.toInt) : (d.toNat : Int) = d.toInt := by
  rw [BitVec.toInt_eq_toNat_cond, if_pos (BitVec.toInt_pos_iff.1 h)]

/-- The caveats of an authorization request reach the child capability slot for slot: an
`ExpiryCaveat` keeps its type and the bits of its duration, which read as the same integer
when the duration is not negative, and any other caveat becomes the zero caveat. -/
theorem toZCaveats_slots (caveats : List Models.Caveat) :
    (toZCaveats caveats).length = caveats.length ∧
    (∀ (i : Nat) (d : BitVec 64), caveats[i]? = some (.expiryCaveat d) →
      (toZCaveats caveats)[i]? = some ⟨Zcapld.expiryCaveatType, d⟩ ∧
        (0 ≤ d.toInt → (d.toNat : Int) = d.toInt)) ∧
    (∀ (i : Nat) (t : String), caveats[i]? = some (.other t) →
      (toZCaveats caveats)[i]? = some Zcapld.Caveat.zero) ∧
    (∀ o invokerDID queryIDPath c, driveZCAPForCSH o invokerDID queryIDPath caveats = .ok c →
      c.caveats = toZCaveats caveats) := by
  refine ⟨by simp [toZCaveats], fun i d hi => ?_, fun i t hi => by simp [toZCaveats, hi],
    fun o _ _ c h => ?_⟩
  · exact ⟨by simp [toZCaveats, hi, Models.Caveat.type], toNat_eq_toInt_of_nonneg d⟩
  · obtain ⟨_, -, -, -, -, hc, -⟩ := driveZCAPForCSH_eq_ok h
    exact hc

theorem toZCaveats_other_loses_type :
    ¬ ∀ (caveats : List Models.Caveat) (i : Nat) (c : Models.Caveat) (zc : Zcapld.Caveat),
      caveats[i]? = some c → (toZCaveats caveats)[i]? = some zc →
        zc.type = c.type ∧ ∀ d, c = .expiryCaveat d → (zc.duration.toNat : Int) = d.toInt :=
  fun h => absurd (h [.other "Caveat"] 0 _ _ rfl rfl).1 (by decide)

/-! ## The CSH's state after `HandleAuthz` -/

/-- `HandleAuthz` calls the CSH at most once, and what that call leaves is what the CSH
keeps: nothing after the call touches the CSH again. -/
theorem handleAuthz_run {σ : Type} (csh : CshServer σ) (s : σ) (o : Operation)
    (authz : Models.Authorization) :
    (handleAuthz o authz).run csh s =
      match authzDocQuery o authz with
      | .error r => (r, s)
      | .ok q =>
        let r := csh.postHubstoreProfilesProfileIDQueries s o.cshProfile.id q
        (match r.1 with
          | .error e => respondErrorf statusInternalServerError ("failed to create query: " ++ e)
          | .ok location => issueToken o authz location, r.2) := by
  unfold handleAuthz
  split
  · rfl
  · dsimp only [CshProgram.run]
    split <;> rfl

/-- On the CSH's query store, whatever `HandleAuthz` replies, the store afterwards is the
store before plus the query it registered, if it got as far as registering one. -/
theorem handleAuthz_keeps_registered_query (baseURL : String)
    (fresh : List Hub.StoredQuery → String)
    (compare : List Hub.StoredQuery → Csh.ComparisonRequest → Except String Bool)
    (store : List Hub.StoredQuery) (o : Operation) (authz : Models.Authorization) :
    ((handleAuthz o authz).run (Hub.server baseURL fresh compare) store).2 =
      match authzDocQuery o authz with
      | .error _ => store
      | .ok q => store ++ [⟨fresh store, o.cshProfile.id, q⟩] := by
  rw [handleAuthz_run]
  split <;> rfl

/-- With a key set that is not an array, the query is registered, the child capability cannot
be minted, and the 500 reply leaves the query in the store. -/
theorem handleAuthz_error_keeps_query :
    ¬ ∀ (o : Operation) (authz : Models.Authorization) (store : List Hub.StoredQuery),
      let csh := Hub.server "https://csh.example.com" (fun _ => "q1") fun _ _ => .ok true
      ((handleAuthz o authz).run csh store).1.IsError →
        ((handleAuthz o authz).run csh store).2 = store := by
  intro h
  let root : Zcapld.Capability := ⟨"urn:uuid:root", "", "", [], ⟨"", ""⟩, [], [], []⟩
  let o : Operation :=
    { getDocMetaData := fun _ _ => .ok ⟨
        "https://edv.example.com/encrypted-data-vaults/v1/documents/d1",
        "https://kms.example.com/kms/keystores/k1"⟩
      cshProfile := ⟨"p1", "root"⟩
      comparatorConfig := ⟨"did:example:comparator", .string "k"⟩
      zcap := ⟨fun _ => .ok root, fun _ => .ok "", "urn:uuid:c", fun _ _ => .error ""⟩
      unmarshalJWK := fun _ => .error "" }
  exact absurd (h o ⟨"did:example:rp", ⟨"v1", "d1", "", ⟨"", ""⟩, []⟩⟩ [] (by decide))
    (by decide)

/-! ## The reply to a request that succeeds -/

/-- `HandleAuthz` answers 200 exactly when every step succeeds: the query is built and the CSH
registers it at some location, the CSH profile's capability decompresses, the comparator's key
is read, the suite signs the child capability and the signed child compresses. The reply names
the requesting party and carries the compressed child: the library's new id, invocable by the
requesting party for `reference` on the query's location, its parent and its whole chain the
CSH profile capability's id, and the request's caveats. -/
theorem handleAuthz_ok_iff {σ : Type} (csh : CshServer σ) (s : σ) (o : Operation)
    (authz : Models.Authorization) (rp token : String) :
    ((handleAuthz o authz).run csh s).1 = .respond statusOK (.authorization rp token) ↔
      rp = authz.requestingParty ∧
      ∃ q location cshZCAP keyID key p,
        authzDocQuery o authz = .ok q ∧
        (csh.postHubstoreProfilesProfileIDQueries s o.cshProfile.id q).1 = .ok location ∧
        o.zcap.decompressZCAP o.cshProfile.zcap = .ok cshZCAP ∧
        getKey o.unmarshalJWK o.comparatorConfig = .ok (keyID, key) ∧
        let child : Zcapld.Capability :=
          { id := o.zcap.newID, invoker := authz.requestingParty, parent := cshZCAP.id,
            allowedAction := ["reference"], invocationTarget := ⟨location, cshQueryTargetType⟩,
            caveats := toZCaveats authz.scope.caveats, capabilityChain := [cshZCAP.id],
            proof := [] }
        o.zcap.signZCAP ⟨key, o.comparatorConfig.did ++ "#" ++ keyID⟩ child = .ok p ∧
          o.zcap.compressZCAP { child with proof := [p] } = .ok token := by
  rw [handleAuthz_run]
  cases hq : authzDocQuery o authz with
  | error r =>
    refine ⟨fun h => ?_, ?_⟩
    · have he := authzDocQuery_error o authz r hq
      rw [show r = _ from h] at he
      exact absurd rfl he
    · rintro ⟨-, q, -, -, -, -, -, hq', -⟩
      cases hq'
  | ok q =>
    dsimp only
    cases hl : (csh.postHubstoreProfilesProfileIDQueries s o.cshProfile.id q).1 with
    | error e =>
      refine ⟨fun h => ?_, ?_⟩
      · simp [respondErrorf, statusOK, statusInternalServerError] at h
      · rintro ⟨-, q', location, -, -, -, -, hq', hl', -⟩
        cases hq'
        rw [hl] at hl'
        cases hl'
    | ok location =>
      rw [issueToken_ok_iff]
      constructor
      · rintro ⟨hrp, cshZCAP, keyID, key, p, h⟩
        exact ⟨hrp, q, location, cshZCAP, keyID, key, p, rfl, hl, h⟩
      · rintro ⟨hrp, q', location', cshZCAP, keyID, key, p, hq', hl', h⟩
        cases hq'
        rw [hl] at hl'
        cases hl'
        exact ⟨hrp, cshZCAP, keyID, key, p, h⟩

end Ace
