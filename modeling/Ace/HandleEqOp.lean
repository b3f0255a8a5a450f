import Ace.HandleAuthz

/-!
# `HandleEqOp`

A comparison request carries arguments of two kinds. For a `DocQuery` the comparator reads
the document's metadata and rebuilds the query with EDV and KMS coordinates taken from it;
for an `AuthorizedQuery` it decompresses the token and takes the query reference, the second
piece of the capability's invocation target split at `/queries/`. The rebuilt arguments go to
the CSH's `PostCompare`, whose result is relayed. The type switch has no default case, and
nothing checks the token beyond decompressing it.
-/

namespace Ace

open Strings Go

def eqOpDocQuery (o : Operation) (q : Models.DocQuery) : Except Reply Csh.Query := do
  let docMeta ← (o.getDocMetaData q.vaultID q.docID).mapError
    fun e => respondErrorf statusInternalServerError ("failed to get doc meta: " ++ e)
  let parts := split docMeta.uri "/"
  let vaultID ← (Go.index parts (parts.length - 3)).mapError .panic
  let docID ← (Go.index parts (parts.length - 1)).mapError .panic
  let kmsURL ← (NetUrl.parse docMeta.encKeyURI).mapError
    fun e => respondErrorf statusInternalServerError ("failed to parse url: " ++ e)
  let edvURL ← (NetUrl.parse docMeta.uri).mapError
    fun e => respondErrorf statusInternalServerError ("failed to parse url: " ++ e)
  let part3 ← (Go.index parts 3).mapError .panic
  let query : Csh.DocQuery :=
    { vaultID, docID, path := q.docAttrPath,
      edv := ⟨edvURL.scheme ++ "://" ++ edvURL.host ++ "/" ++ part3, q.authTokens.edv⟩,
      kms := ⟨kmsURL.scheme ++ "://" ++ kmsURL.host, q.authTokens.kms⟩ }
  pure (.docQuery query)

def eqOpAuthorizedQuery (o : Operation) (authToken : String) : Except Reply Csh.Query := do
  let orgZCAP ← (o.zcap.decompressZCAP authToken).mapError
    fun e => respondErrorf statusInternalServerError ("failed to parse org zcap: " ++ e)
  let queryPath := split orgZCAP.invocationTarget.id "/queries/"
  let ref ← (Go.index queryPath 1).mapError .panic
  pure (.refQuery ref)

def eqOpArg (o : Operation) : Models.Query → Except Reply (Option Csh.Query)
  | .docQuery q => some <$> eqOpDocQuery o q
  | .authorizedQuery authToken => some <$> eqOpAuthorizedQuery o authToken
  | .other _ => pure none
  | .nil => pure none

def eqOpQueries (o : Operation) : List Models.Query → Except Reply (List Csh.Query)
  | [] => pure []
  | q :: qs => do
    let c ← eqOpArg o q
    let rest ← eqOpQueries o qs
    pure (c.toList ++ rest)

def handleEqOp (o : Operation) (op : Models.EqOp) : CshProgram Reply :=
  match eqOpQueries o op.args with
  | .error r => .done r
  | .ok queries =>
    .postCompare ⟨queries⟩ fun
      | .error e =>
        .done (respondErrorf statusInternalServerError ("failed to execute comparison: " ++ e))
      | .ok result => .done (.respond statusOK (.comparisonResult result))

def Models.Query.Handled : Models.Query → Bool
  | .docQuery _ | .authorizedQuery _ => true
  | .other _ | .nil => false

/-! ## The loop -/

/-- The loop succeeds exactly when every argument converts, and it submits the converted
arguments in order, leaving out those of no handled kind. -/
theorem eqOpQueries_eq_ok {o : Operation} {args : List Models.Query} {qs : List Csh.Query} :
    eqOpQueries o args = .ok qs ↔
      ∃ cs : List (Option Csh.Query), List.Forall₂ (fun a c => eqOpArg o a = .ok c) args cs ∧
        qs = cs.reduceOption := by
  induction args generalizing qs with
  | nil =>
    constructor
    · rintro ⟨⟩
      exact ⟨[], .nil, rfl⟩
    · rintro ⟨cs, hcs, rfl⟩
      cases hcs
      rfl
  | cons a as ih =>
    rw [eqOpQueries]
    constructor
    · intro h
      obtain ⟨c, hc, h⟩ := bind_eq_ok.1 h
      obtain ⟨rest, hrest, h⟩ := bind_eq_ok.1 h
      obtain ⟨cs, hcs, rfl⟩ := ih.1 hrest
      cases h
      exact ⟨c :: cs, .cons hc hcs, by cases c <;> rfl⟩
    · rintro ⟨_, _ | @⟨_, c, _, cs, hc, hcs⟩, rfl⟩
      rw [hc]
      show (eqOpQueries o as >>= fun rest => pure (c.toList ++ rest)) = _
      rw [ih.2 ⟨cs, hcs, rfl⟩]
      cases c <;> rfl

theorem eqOpQueries_unhandled (o : Operation) (a : Models.Query) (ha : a.Handled = false)
    (qs : List Models.Query) : eqOpQueries o (a :: qs) = eqOpQueries o qs := by
  have hnone : eqOpArg o a = .ok none := by
    cases a with
    | other _ | nil => rfl
    | docQuery _ | authorizedQuery _ => cases ha
  rw [eqOpQueries, hnone]
  cases eqOpQueries o qs <;> rfl

theorem eqOpQueries_skip (o : Operation) (pre post : List Models.Query) (a : Models.Query)
    (ha : a.Handled = false) : eqOpQueries o (pre ++ a :: post) = eqOpQueries o (pre ++ post) := by
  induction pre with
  | nil => exact eqOpQueries_unhandled o a ha post
  | cons q qs ih => rw [List.cons_append, List.cons_append, eqOpQueries, eqOpQueries, ih]

theorem eqOpQueries_unhandled_append (o : Operation) (pre l : List Models.Query)
    (hpre : ∀ x ∈ pre, x.Handled = false) : eqOpQueries o (pre ++ l) = eqOpQueries o l := by
  induction pre with
  | nil => rfl
  | cons x xs ih =>
    rw [List.cons_append, eqOpQueries_unhandled o x (hpre x (List.mem_cons_self x xs)),
      ih fun y hy => hpre y (List.mem_cons_of_mem x hy)]

/-- `HandleEqOp` treats an argument of no handled kind, anywhere in the request, as absent. -/
theorem handleEqOp_skips_unhandled (o : Operation) (pre post : List Models.Query)
    (a : Models.Query) (ha : a.Handled = false) :
    handleEqOp o ⟨pre ++ a :: post⟩ = handleEqOp o ⟨pre ++ post⟩ := by
  unfold handleEqOp
  rw [eqOpQueries_skip o pre post a ha]

theorem handleEqOp_skips_nil :
    let o : Operation := ⟨fun _ _ => .error "", ⟨"p1", ""⟩, ⟨"", .null⟩,
      ⟨fun _ => .ok ⟨"urn:uuid:1", "", "", [], ⟨"https://csh.example.com/queries/q1", ""⟩, [], [],
        []⟩, fun _ => .error "", "", fun _ _ => .error ""⟩, fun _ => .error ""⟩
    handleEqOp o ⟨[.authorizedQuery "t"] ++ .nil :: [.authorizedQuery "u"]⟩ =
      handleEqOp o ⟨[.authorizedQuery "t"] ++ [.authorizedQuery "u"]⟩ := by
  intro o
  exact handleEqOp_skips_unhandled o _ _ .nil rfl

/-- `HandleEqOp` calls `PostCompare` exactly when its loop succeeds, with the loop's
queries, and relays the CSH's result or reports its error. -/
theorem handleEqOp_run {σ : Type} (csh : CshServer σ) (s : σ) (o : Operation)
    (op : Models.EqOp) :
    (handleEqOp o op).run csh s =
      match eqOpQueries o op.args with
      | .error r => (r, s)
      | .ok queries =>
        let r := csh.postCompare s ⟨queries⟩
        (match r.1 with
          | .error e =>
            respondErrorf statusInternalServerError ("failed to execute comparison: " ++ e)
          | .ok result => .respond statusOK (.comparisonResult result), r.2) := by
  unfold handleEqOp
  split
  · rfl
  · dsimp only [CshProgram.run]
    split <;> rfl

/-! ## The two handled cases -/

theorem eqOpDocQuery_eq_ok {o : Operation} {q : Models.DocQuery} {c : Csh.Query} :
    eqOpDocQuery o q = .ok c ↔
      ∃ docMeta, o.getDocMetaData q.vaultID q.docID = .ok docMeta ∧
        ∃ dc : DocCoords docMeta, c = .docQuery (dc.query q.docAttrPath q.authTokens) := by
  constructor
  · intro h
    unfold eqOpDocQuery at h
    obtain ⟨docMeta, hm, h⟩ := bind_eq_ok.1 h
    obtain ⟨vaultID, hv, h⟩ := bind_eq_ok.1 h
    obtain ⟨docID, hd, h⟩ := bind_eq_ok.1 h
    obtain ⟨kmsURL, hk, h⟩ := bind_eq_ok.1 h
    obtain ⟨edvURL, he, h⟩ := bind_eq_ok.1 h
    obtain ⟨part3, hp, h⟩ := bind_eq_ok.1 h
    cases h
    exact ⟨docMeta, mapError_eq_ok.1 hm, ⟨kmsURL, edvURL, vaultID, docID, part3,
      mapError_eq_ok.1 hk, mapError_eq_ok.1 he, mapError_eq_ok.1 hv, mapError_eq_ok.1 hd,
      mapError_eq_ok.1 hp⟩, rfl⟩
  · rintro ⟨docMeta, hm, c, rfl⟩
    simp only [eqOpDocQuery, hm, c.kmsURL_ok, c.edvURL_ok, c.vaultID_ok, c.docID_ok,
      c.part3_ok, mapError_ok, ok_bind]
    rfl

theorem eqOpAuthorizedQuery_eq (o : Operation) (authToken : String) :
    eqOpAuthorizedQuery o authToken =
      match (fun c => c.invocationTarget.id) <$> o.zcap.decompressZCAP authToken with
      | .error e => .error (respondErrorf statusInternalServerError ("failed to parse org zcap: " ++ e))
      | .ok target =>
        (fun ref => .refQuery ref) <$> (Go.index (split target "/queries/") 1).mapError .panic := by
  unfold eqOpAuthorizedQuery
  cases o.zcap.decompressZCAP authToken with
  | error e => rfl
  | ok c => cases Go.index (split c.invocationTarget.id "/queries/") 1 <;> rfl

/-- A token whose capability decompresses makes `HandleEqOp` panic exactly when its target
has no `/queries/`: the split then has one piece and `queryPath[1]` is out of range. -/
theorem eqOpAuthorizedQuery_panics {o : Operation} {authToken : String} {c : Zcapld.Capability}
    (hc : o.zcap.decompressZCAP authToken = .ok c) :
    (∃ msg, eqOpAuthorizedQuery o authToken = .error (.panic msg)) ↔
      ¬ Occurs "/queries/" c.invocationTarget.id := by
  rw [eqOpAuthorizedQuery_eq, hc]
  dsimp only [Functor.map, Except.map]
  constructor
  · rintro ⟨msg, h⟩ hocc
    have h2 := two_le_length_split (by decide) hocc
    rw [show Go.index (split c.invocationTarget.id "/queries/") 1 = .ok _ from
      index_natCast _ 1 h2] at h
    cases h
  · intro hn
    rw [split_eq_single _ _ hn]
    exact ⟨_, rfl⟩

theorem eqOpAuthorizedQuery_panics_urn :
    let o : Operation := ⟨fun _ _ => .error "", ⟨"p1", ""⟩, ⟨"", .null⟩,
      ⟨fun _ => .ok ⟨"urn:uuid:1", "", "", [], ⟨"urn:uuid:2", ""⟩, [], [], []⟩,
        fun _ => .error "", "", fun _ _ => .error ""⟩, fun _ => .error ""⟩
    ∃ msg, eqOpAuthorizedQuery o "t" = .error (.panic msg) := by
  intro o
  exact (eqOpAuthorizedQuery_panics rfl).2 (by decide)

/-- What argument `a` becomes at the CSH: a `DocQuery` with `a`'s attribute path and tokens,
or a `RefQuery` for an `AuthorizedQuery`. -/
def Submitted : Models.Query → Csh.Query → Prop
  | .docQuery d, .docQuery dq =>
    dq.path = d.docAttrPath ∧ dq.edv.zcap = d.authTokens.edv ∧ dq.kms.zcap = d.authTokens.kms
  | .authorizedQuery _, .refQuery _ => True
  | _, _ => False

theorem eqOpArg_submitted {o : Operation} {a : Models.Query} {c : Option Csh.Query}
    (h : eqOpArg o a = .ok c) (ha : a.Handled = true) : ∃ q, c = some q ∧ Submitted a q := by
  cases a with
  | docQuery d =>
    obtain ⟨q, hq, rfl⟩ := map_eq_ok h
    obtain ⟨_, -, dc, rfl⟩ := eqOpDocQuery_eq_ok.1 hq
    exact ⟨_, rfl, rfl, rfl, rfl⟩
  | authorizedQuery t =>
    obtain ⟨q, hq, rfl⟩ := map_eq_ok h
    rw [eqOpAuthorizedQuery_eq] at hq
    split at hq
    · cases hq
    · obtain ⟨ref, -, rfl⟩ := map_eq_ok hq
      exact ⟨_, rfl, trivial⟩
  | other _ => cases ha
  | nil => cases ha

theorem forall₂_submitted {o : Operation} {args : List Models.Query} {cs : List (Option Csh.Query)}
    (hcs : List.Forall₂ (fun a c => eqOpArg o a = .ok c) args cs)
    (hkinds : ∀ a ∈ args, a.Handled = true) : List.Forall₂ Submitted args cs.reduceOption := by
  induction hcs with
  | nil => exact .nil
  | cons hc _ ih =>
    obtain ⟨q, rfl, hsub⟩ := eqOpArg_submitted hc (hkinds _ (List.mem_cons_self _ _))
    exact .cons hsub (ih fun a ha => hkinds a (List.mem_cons_of_mem _ ha))

/-- When every argument is a `DocQuery` or an `AuthorizedQuery` and `HandleEqOp` calls
`PostCompare`, the CSH receives exactly one query per argument in the same order, each the
conversion of its argument, and a 200 reply relays the CSH's result. -/
theorem handleEqOp_submits_each_arg {o : Operation} {op : Models.EqOp}
    {request : Csh.ComparisonRequest} {next : Except String Bool → CshProgram Reply}
    (hkinds : ∀ a ∈ op.args, a.Handled = true) (h : handleEqOp o op = .postCompare request next) :
    List.Forall₂ Submitted op.args request.args ∧
      ∀ result, next (.ok result) = .done (.respond statusOK (.comparisonResult result)) := by
  unfold handleEqOp at h
  split at h
  · cases h
  · next queries hq =>
    cases h
    refine ⟨?_, fun _ => rfl⟩
    obtain ⟨cs, hcs, rfl⟩ := eqOpQueries_eq_ok.1 hq
    exact forall₂_submitted hcs hkinds

theorem handleEqOp_submits_each_arg_two :
    let o : Operation := ⟨fun _ _ => .ok ⟨"https://edv.example.com/edv/v1/documents/d1",
        "https://kms.example.com/kms/keystores/k1"⟩, ⟨"p1", ""⟩, ⟨"", .null⟩,
      ⟨fun _ => .ok ⟨"urn:uuid:1", "", "", [], ⟨"https://csh.example.com/queries/q1", ""⟩, [], [],
        []⟩, fun _ => .error "", "", fun _ _ => .error ""⟩, fun _ => .error ""⟩
    let op : Models.EqOp := ⟨[.docQuery ⟨"v1", "d1", "$.name", ⟨"edv", "kms"⟩⟩, .authorizedQuery "t"]⟩
    ∃ request next, handleEqOp o op = .postCompare request next ∧
      List.Forall₂ Submitted op.args request.args ∧
      ∀ result, next (.ok result) = .done (.respond statusOK (.comparisonResult result)) := by
  intro o op
  exact ⟨_, _, rfl, @handleEqOp_submits_each_arg o op _ _ (by decide) rfl⟩

/-- An argument the type switch does not name, one of the decodable base type `Query` or a nil
one, is left out rather than refused: a one-argument comparison reaches the CSH as a comparison
of no arguments, and the CSH's answer is relayed with status 200. -/
theorem handleEqOp_drops_unhandled_arg (o : Operation) :
    [Models.Query.other "Query", .nil].Forall fun a =>
      ∃ next, handleEqOp o ⟨[a]⟩ = .postCompare ⟨[]⟩ next ∧
        ∀ result, next (.ok result) = .done (.respond statusOK (.comparisonResult result)) :=
  And.intro ⟨_, rfl, fun _ => rfl⟩ ⟨_, rfl, fun _ => rfl⟩

/-! ## Tokens are not checked -/

theorem eqOpArg_congr {o₁ o₂ : Operation} (hmeta : o₁.getDocMetaData = o₂.getDocMetaData)
    (htok : ∀ t, (fun c => c.invocationTarget.id) <$> o₁.zcap.decompressZCAP t =
      (fun c => c.invocationTarget.id) <$> o₂.zcap.decompressZCAP t) (a : Models.Query) :
    eqOpArg o₁ a = eqOpArg o₂ a := by
  cases a with
  | docQuery d => simp only [eqOpArg, eqOpDocQuery, hmeta]
  | authorizedQuery t => simp only [eqOpArg, eqOpAuthorizedQuery_eq, htok]
  | other _ => rfl
  | nil => rfl

/-- `HandleEqOp` checks no token: what it sends to the CSH, and whether it sends anything,
depends on an `AuthorizedQuery`'s token only through whether it decompresses and the id of
its capability's invocation target, never on the capability's proof, actions or caveats. -/
theorem handleEqOp_reads_only_target (o₁ o₂ : Operation)
    (hmeta : o₁.getDocMetaData = o₂.getDocMetaData)
    (htok : ∀ t, (fun c => c.invocationTarget.id) <$> o₁.zcap.decompressZCAP t =
      (fun c => c.invocationTarget.id) <$> o₂.zcap.decompressZCAP t) (op : Models.EqOp) :
    handleEqOp o₁ op = handleEqOp o₂ op := by
  have hq : ∀ args, eqOpQueries o₁ args = eqOpQueries o₂ args := by
    intro args
    induction args with
    | nil => rfl
    | cons a as ih => rw [eqOpQueries, eqOpQueries, eqOpArg_congr hmeta htok a, ih]
  unfold handleEqOp
  rw [hq]

theorem handleEqOp_same_for_forged_token :
    let signed : Zcapld.Capability := ⟨"urn:uuid:1", "did:example:rp", "urn:uuid:root",
      ["reference"], ⟨"https://csh.example.com/hubstore/profiles/p1/queries/q1",
        cshQueryTargetType⟩, [⟨"ExpiryCaveat", 3600⟩], ["urn:uuid:root"],
      [⟨1000, "did:example:comparator#k1", [7]⟩]⟩
    let forged : Zcapld.Capability := { signed with allowedAction := [], proof := [] }
    let o : Zcapld.Capability → Operation := fun c => ⟨fun _ _ => .error "", ⟨"p1", ""⟩,
      ⟨"", .null⟩, ⟨fun _ => .ok c, fun _ => .error "", "", fun _ _ => .error ""⟩,
      fun _ => .error ""⟩
    handleEqOp (o signed) ⟨[.authorizedQuery "t"]⟩ = handleEqOp (o forged) ⟨[.authorizedQuery "t"]⟩ := by
  intro signed forged o
  exact handleEqOp_reads_only_target _ _ rfl (fun _ => rfl) _

/-- A token for a capability that is not signed and does not allow `reference` still
reaches the CSH as a `RefQuery`. -/
theorem handleEqOp_relays_unverified_token :
    ¬ ∀ (o : Operation) (verifyProof : Zcapld.Capability → Bool) (now : Nat) (op : Models.EqOp)
        (request : Csh.ComparisonRequest) (next : Except String Bool → CshProgram Reply),
      handleEqOp o op = .postCompare request next →
        ∀ authToken, .authorizedQuery authToken ∈ op.args →
          ∃ c, o.zcap.decompressZCAP authToken = .ok c ∧
            Zcapld.ValidAt verifyProof now "reference" c := by
  intro h
  let c : Zcapld.Capability := ⟨"urn:uuid:1", "did:example:rp", "", [],
    ⟨"https://csh.example.com/hubstore/profiles/p1/queries/q1", cshQueryTargetType⟩, [], [], []⟩
  let o : Operation := ⟨fun _ _ => .error "", ⟨"", ""⟩, ⟨"", .null⟩,
    ⟨fun _ => .ok c, fun _ => .error "", "", fun _ _ => .error ""⟩, fun _ => .error ""⟩
  obtain ⟨c', hc', hv⟩ :=
    h o (fun _ => false) 0 ⟨[.authorizedQuery "t"]⟩ _ _ rfl "t" (List.mem_singleton_self _)
  cases hc'
  exact absurd hv.proof_verifies (by decide)

/-! ## Index expressions -/

/-- Four requests that index past a slice, each of which the handlers meet with a runtime
panic instead of a reply: a document URI with one `/`-piece, a token whose target has no
`/queries/`, a document URI with three pieces, and an empty comparator key set. -/
theorem handlers_index_out_of_range :
    handleEqOp ⟨fun _ _ => .ok ⟨"a", "a"⟩, ⟨"p1", ""⟩, ⟨"", .null⟩,
        ⟨fun _ => .error "", fun _ => .error "", "", fun _ _ => .error ""⟩, fun _ => .error ""⟩
      ⟨[.docQuery ⟨"v1", "d1", "", ⟨"", ""⟩⟩]⟩ =
      .done (.panic "runtime error: index out of range [-2]") ∧
    handleEqOp ⟨fun _ _ => .error "", ⟨"p1", ""⟩, ⟨"", .null⟩,
        ⟨fun _ => .ok ⟨"urn:uuid:1", "", "", [], ⟨"urn:uuid:2", ""⟩, [], [], []⟩,
          fun _ => .error "", "", fun _ _ => .error ""⟩, fun _ => .error ""⟩
      ⟨[.authorizedQuery "t"]⟩ =
      .done (.panic "runtime error: index out of range [1] with length 1") ∧
    handleAuthz ⟨fun _ _ => .ok ⟨"a/b/c", "a/b/c"⟩, ⟨"p1", ""⟩, ⟨"", .null⟩,
        ⟨fun _ => .error "", fun _ => .error "", "", fun _ _ => .error ""⟩, fun _ => .error ""⟩
      ⟨"did:example:rp", ⟨"v1", "d1", "", ⟨"", ""⟩, []⟩⟩ =
      .done (.panic "runtime error: index out of range [3] with length 3") ∧
    issueToken ⟨fun _ _ => .error "", ⟨"p1", ""⟩, ⟨"did:example:comparator", .array []⟩,
        ⟨fun _ => .ok ⟨"urn:uuid:1", "", "", [], ⟨"", ""⟩, [], [], []⟩,
          fun _ => .error "", "", fun _ _ => .error ""⟩, fun _ => .error ""⟩
      ⟨"did:example:rp", ⟨"v1", "d1", "", ⟨"", ""⟩, []⟩⟩ "https://csh.example.com/queries/q1" =
      .panic "runtime error: index out of range [0] with length 0" :=
  ⟨rfl, rfl, rfl, rfl⟩

end Ace
