import Mathlib.Data.List.Forall2
import Ace.Comparator

/-!
# The comparison protocol against the CSH's `Compare`

With the CSH's `Compare` as the spec describes it (`Hub.compareEq`), the comparator's two
handlers make one protocol: `HandleAuthz` registers the owner's query and hands the requesting
party a token, and `HandleEqOp` turns the token back into a reference to that query. Over any
run against a CSH that draws fresh ids, the reference resolves, at any later point, to exactly
the query registered for the authorization, so a later comparison whose arguments name queries,
documents or tokens issued earlier in the run, compares exactly the fragments those queries
name. Because `HandleEqOp` drops arguments of the kinds it does not handle, a comparison of one
document with such arguments holds whatever the document holds.
-/

namespace Ace

open Strings Go

/-! ## A CSH that draws ids longer than every stored one -/

namespace Hub

def idsLength (store : List StoredQuery) : Nat :=
  store.foldr (fun sq n => sq.id.length + n) 0

theorem length_le_idsLength {store : List StoredQuery} {sq : StoredQuery} (h : sq ∈ store) :
    sq.id.length ≤ idsLength store := by
  induction store with
  | nil => cases h
  | cons sq' store ih =>
    rcases List.mem_cons.1 h with rfl | h
    · exact Nat.le_add_right _ _
    · exact (ih h).trans (Nat.le_add_left _ _)

def freshLonger (store : List StoredQuery) : String :=
  ⟨List.replicate (idsLength store + 1) 'q'⟩

theorem freshLonger_fresh : Fresh freshLonger := fun store hmem => by
  obtain ⟨sq, hsq, he⟩ := List.mem_map.1 hmem
  have hle := length_le_idsLength hsq
  have hlen := congrArg String.length he
  simp only [freshLonger, String.length_mk, List.length_replicate] at hlen
  omega

theorem freshLonger_plain (store : List StoredQuery) : ¬ Occurs "/queries/" (freshLonger store) :=
  fun h => by simpa [freshLonger] using h.subset (show '/' ∈ "/queries/".data by decide)

end Hub

section Run

variable (baseURL : String) (fresh : List Hub.StoredQuery → String)
  (compare : List Hub.StoredQuery → Csh.ComparisonRequest → Except String Bool)

/-- Over any run, the query registered for a token `HandleAuthz` answered with stays in the
store under the id the CSH drew for it, behind the queries stored before it, and the token,
presented back, becomes a reference to that id. -/
theorem serve_registers_token {o : Operation} (hlib : o.zcap.KeepsTarget)
    (hloc : Hub.PlainLocations baseURL fresh o) (reqs : List Request)
    (store : List Hub.StoredQuery) (authz : Models.Authorization) (rp token : String)
    (h : (Request.authz authz, Reply.respond statusOK (.authorization rp token)) ∈
      reqs.zip (serve o (Hub.server baseURL fresh compare) reqs store).1) :
    ∃ q pre post, authzDocQuery o authz = .ok q ∧
      eqOpArg o (.authorizedQuery token) = .ok (some (.refQuery (fresh pre))) ∧
      (serve o (Hub.server baseURL fresh compare) reqs store).2 =
        pre ++ ⟨fresh pre, o.cshProfile.id, q⟩ :: post := by
  induction reqs generalizing store with
  | nil => cases h
  | cons r rs ih =>
    rcases List.mem_cons.1 h with he | h
    · obtain ⟨rfl, hreply⟩ := Prod.mk.inj he
      obtain ⟨q, hq, hs, harg⟩ :=
        handleAuthz_token_stored baseURL fresh compare hlib hloc hreply.symm
      obtain ⟨post, hpost⟩ := serve_store_grows baseURL fresh compare o rs
        (store ++ [⟨fresh store, o.cshProfile.id, q⟩])
      refine ⟨q, store, post, hq, harg, ?_⟩
      show (serve o _ rs ((handleAuthz o authz).run _ store).2).2 = _
      rw [hs, ← hpost, List.append_assoc, List.singleton_append]
    · exact ih _ h

/-- Over any run against a CSH that draws fresh ids, every token `HandleAuthz` answered with,
presented back to `HandleEqOp`, becomes a reference that the CSH resolves, at the end of the run
and whatever it reads documents with, through exactly the query `HandleAuthz` built for that
authorization. -/
theorem serve_token_resolves (hfresh : Hub.Fresh fresh) {o : Operation}
    (hlib : o.zcap.KeepsTarget) (hloc : Hub.PlainLocations baseURL fresh o) (reqs : List Request)
    (store : List Hub.StoredQuery) (authz : Models.Authorization) (rp token : String)
    (h : (Request.authz authz, Reply.respond statusOK (.authorization rp token)) ∈
      reqs.zip (serve o (Hub.server baseURL fresh compare) reqs store).1) :
    ∃ q ref, authzDocQuery o authz = .ok q ∧
      eqOpArg o (.authorizedQuery token) = .ok (some (.refQuery ref)) ∧
      ∀ (α : Type) (read : Csh.DocQuery → Except String α),
        Hub.resolve read (serve o (Hub.server baseURL fresh compare) reqs store).2
          (.refQuery ref) = read q := by
  obtain ⟨q, pre, post, hq, harg, hs⟩ :=
    serve_registers_token baseURL fresh compare hlib hloc reqs store authz rp token h
  exact ⟨q, _, hq, harg, fun _ read => hs ▸ Hub.resolve_ref_first read (hfresh pre)⟩

theorem serve_token_resolves_one_request :
    let o : Operation :=
      { getDocMetaData := fun _ _ => .ok ⟨
          "https://edv.example.com/encrypted-data-vaults/v1/documents/d1",
          "https://kms.example.com/kms/keystores/k1"⟩
        cshProfile := ⟨"p1", "root"⟩
        comparatorConfig := ⟨"did:example:comparator", .array [.null]⟩
        zcap := ⟨fun t => .ok ⟨"urn:uuid:1", "", "", [], ⟨t, ""⟩, [], [], []⟩,
          fun c => .ok c.invocationTarget.id, "urn:uuid:2", fun _ _ => .ok ⟨0, "", []⟩⟩
        unmarshalJWK := fun _ => .ok ("k1", some []) }
    let csh := Hub.server "https://csh.example.com" Hub.freshLonger fun _ _ => .ok true
    let authz : Models.Authorization := ⟨"did:example:rp", ⟨"v1", "d1", "$.name", ⟨"edv", "kms"⟩, []⟩⟩
    ∃ q ref, authzDocQuery o authz = .ok q ∧
      eqOpArg o (.authorizedQuery "https://csh.example.com/hubstore/profiles/p1/queries/q") =
        .ok (some (.refQuery ref)) ∧
      ∀ (α : Type) (read : Csh.DocQuery → Except String α),
        Hub.resolve read (serve o csh [.authz authz] []).2 (.refQuery ref) = read q := by
  intro o csh authz
  exact serve_token_resolves _ _ _ Hub.freshLonger_fresh (o := o)
    (fun c t h => ⟨_, rfl, by cases h; rfl⟩) ⟨by decide, Hub.freshLonger_plain⟩ [.authz authz] []
    authz "did:example:rp" _ (List.mem_singleton.2 rfl)

end Run

section Spec

variable (baseURL : String) (fresh : List Hub.StoredQuery → String) {α : Type} [DecidableEq α]
  (read : Csh.DocQuery → Except String α)

/-- Against the spec's CSH, a comparison whose arguments are all of kinds `HandleEqOp` does not
handle but one, which converts and resolves, is answered `true`, whatever that document holds:
the dropped arguments leave the CSH one fragment to compare. -/
theorem handleEqOp_one_handled_true (store : List Hub.StoredQuery) (o : Operation)
    (pre post : List Models.Query) (a : Models.Query) (hpre : ∀ x ∈ pre, x.Handled = false)
    (hpost : ∀ x ∈ post, x.Handled = false) {c : Csh.Query} (hc : eqOpArg o a = .ok (some c))
    {v : α} (hv : Hub.resolve read store c = .ok v) :
    ((handleEqOp o ⟨pre ++ a :: post⟩).run (Hub.server baseURL fresh (Hub.compareEq read))
      store).1 = .respond statusOK (.comparisonResult true) := by
  have hpost' : eqOpQueries o post = .ok [] := by
    simpa using eqOpQueries_unhandled_append o post [] hpost
  have hqs : eqOpQueries o (pre ++ a :: post) = .ok [c] := by
    rw [eqOpQueries_unhandled_append o pre _ hpre, eqOpQueries, hc, ok_bind, hpost']
    rfl
  rw [handleEqOp_run, hqs]
  dsimp only [Hub.server, Hub.compareEq]
  rw [List.mapM_cons, List.mapM_nil, hv]
  rfl

theorem handleEqOp_one_handled_true_beside_nil :
    let o : Operation :=
      { getDocMetaData := fun _ _ => .ok ⟨
          "https://edv.example.com/encrypted-data-vaults/v1/documents/d1",
          "https://kms.example.com/kms/keystores/k1"⟩
        cshProfile := ⟨"p1", "root"⟩
        comparatorConfig := ⟨"did:example:comparator", .null⟩
        zcap := ⟨fun _ => .error "", fun _ => .error "", "", fun _ _ => .error ""⟩
        unmarshalJWK := fun _ => .error "" }
    let read : Csh.DocQuery → Except String String := fun q => .ok q.path
    ((handleEqOp o ⟨[.nil] ++ .docQuery ⟨"v1", "d1", "$.name", ⟨"edv", "kms"⟩⟩ :: [.other "Q"]⟩).run
      (Hub.server "https://csh.example.com" Hub.freshLonger (Hub.compareEq read)) []).1 =
      .respond statusOK (.comparisonResult true) := by
  intro o read
  exact handleEqOp_one_handled_true _ _ read [] o [.nil] [.other "Q"] _ (by decide) (by decide)
    (c := .docQuery ⟨"v1", "d1", "$.name",
      ⟨"https://edv.example.com/encrypted-data-vaults", "edv"⟩, ⟨"https://kms.example.com", "kms"⟩⟩)
    rfl rfl

end Spec


end Ace
