import Ace.HandleEqOp

/-!
# Document coordinates

Both handlers turn a document's URI into the CSH query's coordinates the same way: the vault
and document ids are the third-last and last pieces of the URI split at `/`, and the EDV base
URL is the parsed scheme and host followed by the fourth piece. On a URI
`S://H/b₁/…/bₖ/V/documents/D` the ids are `V` and `D` for every base path, but the fourth
piece is `b₁`, or `V` when the base path is empty, so the base URL names the EDV's root only
when the base path has exactly one segment. The host is a registered name or a bracketed IP
literal, with an optional port.
-/

namespace Ace

open Strings Go NetUrl

/-- A base path of zero or more `/segment` parts. -/
def basePath : List String → String
  | [] => ""
  | b :: bs => "/" ++ b ++ basePath bs

theorem basePath_data (bs : List String) :
    (basePath bs).data = bs.flatMap fun b => '/' :: b.data := by
  induction bs with
  | nil => rfl
  | cons b bs ih => simp [basePath, ih]

/-! ## Splitting a document URI -/

theorem splitOn_append_flatMap (c : Char) (ps : List (List Char)) :
    ∀ x, c ∉ x → (∀ p ∈ ps, c ∉ p) → (x ++ ps.flatMap (c :: ·)).splitOn c = x :: ps := by
  induction ps with
  | nil =>
    intro x hx _
    rw [List.flatMap_nil, List.append_nil]
    exact List.splitOnP_eq_single _ _ fun y hy h => hx (beq_iff_eq.1 h ▸ hy)
  | cons p ps ih =>
    intro x hx hps
    rw [List.flatMap_cons, List.cons_append]
    show List.splitOnP _ _ = _
    rw [List.splitOnP_first (p := (· == c)) _ (fun y hy h => hx (beq_iff_eq.1 h ▸ hy)) c
      (beq_self_eq_true c)]
    exact congrArg (x :: ·) (ih p (hps p (List.mem_cons_self p ps))
      fun q hq => hps q (List.mem_cons_of_mem p hq))

theorem slash_not_mem_scheme {S : String} (hS : ValidScheme S) : '/' ∉ S.data := by
  obtain ⟨c, cs, hd, hc, hcs⟩ := hS
  rw [hd]
  rintro (_ | ⟨_, h⟩)
  · simp at hc
  · simpa [schemeChar] using hcs '/' h

theorem split_docURI {S H V D : String} {bs : List String} (hS : ValidScheme S) (hH : HostPort H)
    (hV : '/' ∉ V.data) (hD : '/' ∉ D.data) (hbs : ∀ b ∈ bs, '/' ∉ b.data) :
    split (S ++ "://" ++ H ++ basePath bs ++ "/" ++ V ++ "/documents/" ++ D) "/" =
      [S ++ ":", "", H] ++ bs ++ [V, "documents", D] := by
  have hdata : (S ++ "://" ++ H ++ basePath bs ++ "/" ++ V ++ "/documents/" ++ D).data =
      (S.data ++ [':']) ++ ([] :: H.data :: bs.map String.data ++
        [V.data, "documents".data, D.data]).flatMap ('/' :: ·) := by
    simp [basePath_data, List.flatMap_map]
  refine (split_single _ '/').trans ?_
  rw [hdata, splitOn_append_flatMap]
  · simp only [List.map_cons, List.map_append, List.map_map, List.cons_append, List.nil_append]
    rw [show String.mk ∘ String.data = id from rfl, List.map_id]
    rfl
  · simpa using slash_not_mem_scheme hS
  · simp only [List.cons_append, List.mem_cons, List.mem_append, List.mem_map]
    rintro p (rfl | rfl | ⟨b, hb, rfl⟩ | rfl | rfl | rfl | h)
    · simp
    · exact not_mem_hostPort hH (by decide)
    · exact hbs b hb
    · exact hV
    · decide
    · exact hD
    · simp at h

/-! ## The coordinates read from such a URI -/

theorem index_docURI_parts (S H V D : String) (bs : List String) :
    let parts := [S ++ ":", "", H] ++ bs ++ [V, "documents", D]
    Go.index parts (parts.length - 3) = .ok V ∧ Go.index parts (parts.length - 1) = .ok D ∧
      Go.index parts 3 = .ok (bs.headD V) := by
  intro parts
  have hlen : parts.length = bs.length + 6 := by simp [parts]
  refine ⟨?_, ?_, ?_⟩
  · rw [hlen, show ((bs.length + 6 : Nat) : Int) - 3 = ((bs.length + 3 : Nat) : Int) by omega,
      index_natCast parts _ (by omega)]
    simp [parts, List.getElem_append_right]
  · rw [hlen, show ((bs.length + 6 : Nat) : Int) - 1 = ((bs.length + 5 : Nat) : Int) by omega,
      index_natCast parts _ (by omega)]
    simp [parts, List.getElem_append_right]
  · rw [show ((3 : Int)) = ((3 : Nat) : Int) from rfl, index_natCast parts _ (by omega)]
    cases bs <;> rfl

theorem docURI_path_head (V D : String) (bs : List String) :
    (basePath bs ++ "/" ++ V ++ "/documents/" ++ D).data.head? = some '/' := by
  cases bs <;> simp [basePath]

/-- On metadata whose URI has that shape and holds no `%` and no control character, and
whose key URI parses, the coordinates exist: both handlers get past every step before they
build the query. -/
def docCoordsOfDocURI {S H V D : String} {bs : List String} (hS : ValidScheme S)
    (hH : HostPort H) (hV : '/' ∉ V.data) (hD : '/' ∉ D.data) (hbs : ∀ b ∈ bs, '/' ∉ b.data)
    {docMeta : Vault.DocumentMetadata}
    (hu : docMeta.uri = S ++ "://" ++ H ++ basePath bs ++ "/" ++ V ++ "/documents/" ++ D)
    (hpct : '%' ∉ docMeta.uri.data) (hctl : containsCTL docMeta.uri.data = false)
    {kmsURL : URL} (hkms : parse docMeta.encKeyURI = .ok kmsURL) : DocCoords docMeta :=
  have hedv : docMeta.uri = S ++ "://" ++ H ++ (basePath bs ++ "/" ++ V ++ "/documents/" ++ D) := by
    simp only [hu, String.append_assoc]
  have hparts := split_docURI hS hH hV hD hbs
  have hidx := index_docURI_parts S H V D bs
  { kmsURL, edvURL := ⟨lower S, H⟩, vaultID := V, docID := D, part3 := bs.headD V,
    kmsURL_ok := hkms,
    edvURL_ok := hedv ▸ parse_authority_ok hS hH (.inr (docURI_path_head V D bs))
      (fun h => hpct (by rw [hedv, String.data_append]; exact List.mem_append_right _ h))
      (hedv ▸ hctl)
    vaultID_ok := by rw [hu, hparts]; exact hidx.1
    docID_ok := by rw [hu, hparts]; exact hidx.2.1
    part3_ok := by rw [hu, hparts]; exact hidx.2.2 }

/-- On metadata whose URI has that shape and holds no `%` and no control character, and
whose key URI parses, both handlers build the query: VaultID `V`, DocID `D`, the EDV base URL
`lower(S)://H/` followed by the first base segment or `V`, and the key URI's scheme and host. -/
theorem docQuery_built {S H V D : String} {bs : List String} (hS : ValidScheme S)
    (hH : HostPort H) (hV : '/' ∉ V.data) (hD : '/' ∉ D.data) (hbs : ∀ b ∈ bs, '/' ∉ b.data)
    {docMeta : Vault.DocumentMetadata}
    (hu : docMeta.uri = S ++ "://" ++ H ++ basePath bs ++ "/" ++ V ++ "/documents/" ++ D)
    (hpct : '%' ∉ docMeta.uri.data) (hctl : containsCTL docMeta.uri.data = false)
    {kmsURL : URL} (hkms : parse docMeta.encKeyURI = .ok kmsURL) (o : Operation) :
    (∀ q : Models.DocQuery, o.getDocMetaData q.vaultID q.docID = .ok docMeta →
      eqOpDocQuery o q = .ok (.docQuery ⟨V, D, q.docAttrPath,
        ⟨lower S ++ "://" ++ H ++ "/" ++ bs.headD V, q.authTokens.edv⟩,
        ⟨kmsURL.scheme ++ "://" ++ kmsURL.host, q.authTokens.kms⟩⟩)) ∧
    (∀ authz : Models.Authorization,
      o.getDocMetaData authz.scope.vaultID authz.scope.docID = .ok docMeta →
      authzDocQuery o authz = .ok ⟨V, D, authz.scope.docAttrPath,
        ⟨lower S ++ "://" ++ H ++ "/" ++ bs.headD V, authz.scope.authTokens.edv⟩,
        ⟨kmsURL.scheme ++ "://" ++ kmsURL.host, authz.scope.authTokens.kms⟩⟩) :=
  let dc := docCoordsOfDocURI hS hH hV hD hbs hu hpct hctl hkms
  ⟨fun _ hm => eqOpDocQuery_eq_ok.2 ⟨docMeta, hm, dc, rfl⟩,
    fun _ hm => authzDocQuery_eq_ok.2 ⟨docMeta, hm, dc, rfl⟩⟩

theorem docQuery_built_ip_literal :
    let docMeta : Vault.DocumentMetadata :=
      ⟨"https://[::1]:8080/edv/v1/documents/d1", "https://kms.example.com/kms/keystores/k1"⟩
    let o : Operation := ⟨fun _ _ => .ok docMeta, ⟨"p1", ""⟩, ⟨"", .null⟩,
      ⟨fun _ => .error "", fun _ => .error "", "", fun _ _ => .error ""⟩, fun _ => .error ""⟩
    eqOpDocQuery o ⟨"v1", "d1", "$.name", ⟨"edv", "kms"⟩⟩ = .ok (.docQuery ⟨"v1", "d1", "$.name",
      ⟨"https://[::1]:8080/edv", "edv"⟩, ⟨"https://kms.example.com", "kms"⟩⟩) := by
  intro docMeta o
  exact (@docQuery_built "https" "[::1]:8080" "v1" "d1" ["edv"]
    ⟨'h', "ttps".data, rfl, rfl, by decide⟩ ⟨":8080".data, rfl, .inr ⟨"::1".data, rfl, by decide⟩⟩
    (by decide) (by decide) (by decide) docMeta rfl (by decide) (by decide)
    ⟨"https", "kms.example.com"⟩ rfl o).1 _ rfl

/-- Where the EDV base path has two segments both handlers build the query, but its base URL
keeps the first segment only: the CSH would read `https://edv.example.com/a/v1/documents/d1`,
not the document. -/
theorem docQuery_base_path_truncated :
    let o : Operation := ⟨fun _ _ => .ok ⟨"https://edv.example.com/a/b/v1/documents/d1",
        "https://kms.example.com/kms/keystores/k1"⟩, ⟨"p1", ""⟩, ⟨"", .null⟩,
      ⟨fun _ => .error "", fun _ => .error "", "", fun _ _ => .error ""⟩, fun _ => .error ""⟩
    let q : Models.DocQuery := ⟨"v1", "d1", "$.name", ⟨"edv", "kms"⟩⟩
    let authz : Models.Authorization := ⟨"did:example:rp", ⟨"v1", "d1", "$.name", ⟨"edv", "kms"⟩, []⟩⟩
    ∃ dq : Csh.DocQuery, eqOpDocQuery o q = .ok (.docQuery dq) ∧ authzDocQuery o authz = .ok dq ∧
      dq.vaultID = "v1" ∧ dq.docID = "d1" ∧ dq.edv.baseURL = "https://edv.example.com/a" ∧
      dq.edv.baseURL ++ "/" ++ dq.vaultID ++ "/documents/" ++ dq.docID ≠
        "https://edv.example.com/a/b/v1/documents/d1" := by
  intro o q authz
  exact ⟨_, rfl, rfl, rfl, rfl, rfl, by decide⟩

/-- From the same metadata the two handlers build the same CSH query coordinates. -/
theorem docQuery_same_coordinates {o : Operation} {q : Models.DocQuery}
    {authz : Models.Authorization} {dq₁ dq₂ : Csh.DocQuery}
    (hv : authz.scope.vaultID = q.vaultID) (hd : authz.scope.docID = q.docID)
    (h₁ : eqOpDocQuery o q = .ok (.docQuery dq₁)) (h₂ : authzDocQuery o authz = .ok dq₂) :
    dq₁.vaultID = dq₂.vaultID ∧ dq₁.docID = dq₂.docID ∧ dq₁.edv.baseURL = dq₂.edv.baseURL ∧
      dq₁.kms.baseURL = dq₂.kms.baseURL := by
  obtain ⟨m₁, hm₁, c₁, hc₁⟩ := eqOpDocQuery_eq_ok.1 h₁
  obtain ⟨m₂, hm₂, c₂, rfl⟩ := authzDocQuery_eq_ok.1 h₂
  rw [hv, hd, hm₁] at hm₂
  cases hm₂
  cases hc₁
  rw [Subsingleton.elim c₁ c₂]
  exact ⟨rfl, rfl, rfl, rfl⟩

theorem docQuery_same_coordinates_two_segments :
    let o : Operation := ⟨fun _ _ => .ok ⟨"https://edv.example.com/a/b/v1/documents/d1",
        "https://kms.example.com/kms/keystores/k1"⟩, ⟨"p1", ""⟩, ⟨"", .null⟩,
      ⟨fun _ => .error "", fun _ => .error "", "", fun _ _ => .error ""⟩, fun _ => .error ""⟩
    let q : Models.DocQuery := ⟨"v1", "d1", "$.name", ⟨"edv", "kms"⟩⟩
    let authz : Models.Authorization := ⟨"did:example:rp", ⟨"v1", "d1", "$.age", ⟨"edv2", "kms2"⟩, []⟩⟩
    ∃ dq₁ dq₂, eqOpDocQuery o q = .ok (.docQuery dq₁) ∧ authzDocQuery o authz = .ok dq₂ ∧
      dq₁.vaultID = dq₂.vaultID ∧ dq₁.docID = dq₂.docID ∧ dq₁.edv.baseURL = dq₂.edv.baseURL ∧
        dq₁.kms.baseURL = dq₂.kms.baseURL := by
  intro o q authz
  exact ⟨_, _, rfl, rfl, @docQuery_same_coordinates o q authz _ _ rfl rfl rfl rfl⟩

end Ace
