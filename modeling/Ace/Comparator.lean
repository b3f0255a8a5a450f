import Ace.TokenRoundTrip

/-!
# Runs of the comparator against the CSH

Each of the comparator's handlers makes at most one call to the CSH, so concurrent requests act
on the CSH's store as some sequence of whole requests does. Over every such run against the
CSH's query store the store only grows, and a 200 reply of `HandleAuthz` means the query was
appended under the id the CSH drew, with the token naming that id once presented back to
`HandleEqOp`.
-/

namespace Ace

open Strings

inductive Request where
  | authz (request : Models.Authorization)
  | eqOp (op : Models.EqOp)

def Request.handle (o : Operation) : Request → CshProgram Reply
  | .authz request => handleAuthz o request
  | .eqOp op => handleEqOp o op

/-- Requests served one after another against a CSH state: the replies and the state left. -/
def serve {σ : Type} (o : Operation) (csh : CshServer σ) : List Request → σ → List Reply × σ
  | [], s => ([], s)
  | r :: rs, s =>
    let step := (r.handle o).run csh s
    let rest := serve o csh rs step.2
    (step.1 :: rest.1, rest.2)

section Hub

variable (baseURL : String) (fresh : List Hub.StoredQuery → String)
  (compare : List Hub.StoredQuery → Csh.ComparisonRequest → Except String Bool)

/-- One request leaves the store as it was or appends the query it registered. -/
theorem handle_store (o : Operation) (r : Request) (store : List Hub.StoredQuery) :
    ((r.handle o).run (Hub.server baseURL fresh compare) store).2 = store ∨
      ∃ q, ((r.handle o).run (Hub.server baseURL fresh compare) store).2 =
        store ++ [⟨fresh store, o.cshProfile.id, q⟩] := by
  cases r with
  | authz authz =>
    rw [Request.handle, handleAuthz_run]
    split
    · exact .inl rfl
    · exact .inr ⟨_, rfl⟩
  | eqOp op =>
    rw [Request.handle, handleEqOp_run]
    split <;> exact .inl rfl

theorem serve_store_grows (o : Operation) (reqs : List Request) (store : List Hub.StoredQuery) :
    store <+: (serve o (Hub.server baseURL fresh compare) reqs store).2 := by
  induction reqs generalizing store with
  | nil => exact List.prefix_refl store
  | cons r rs ih =>
    refine List.IsPrefix.trans ?_ (ih _)
    rcases handle_store baseURL fresh compare o r store with h | ⟨q, h⟩
    · rw [h]
    · rw [h]
      exact List.prefix_append store _

/-- The location the CSH answers starts with no misplaced `/queries/`, and its ids hold none. -/
structure Hub.PlainLocations (o : Operation) : Prop where
  base : ¬ "/queries/".data <:+: (baseURL ++ "/hubstore/profiles/" ++ o.cshProfile.id).data ++
    "/queries".data
  ids : ∀ store, ¬ Occurs "/queries/" (fresh store)

/-- A 200 reply of `HandleAuthz` means the query was built and appended under the id the CSH
drew, and the token, presented back, becomes a reference to that id. -/
theorem handleAuthz_token_stored {o : Operation} (hlib : o.zcap.KeepsTarget)
    (hloc : Hub.PlainLocations baseURL fresh o) {authz : Models.Authorization}
    {store : List Hub.StoredQuery} {rp token : String}
    (h : ((handleAuthz o authz).run (Hub.server baseURL fresh compare) store).1 =
      .respond statusOK (.authorization rp token)) :
    ∃ q, authzDocQuery o authz = .ok q ∧
      ((handleAuthz o authz).run (Hub.server baseURL fresh compare) store).2 =
        store ++ [⟨fresh store, o.cshProfile.id, q⟩] ∧
      eqOpArg o (.authorizedQuery token) = .ok (some (.refQuery (fresh store))) := by
  rw [handleAuthz_run] at h ⊢
  cases hq : authzDocQuery o authz with
  | error r =>
    rw [hq] at h
    have he := authzDocQuery_error o authz r hq
    rw [show r = _ from h] at he
    exact absurd rfl he
  | ok q =>
    rw [hq] at h
    dsimp only [Hub.server] at h ⊢
    obtain ⟨c, hc, hid⟩ := issueToken_target hlib h
    exact ⟨q, rfl, rfl, eqOpArg_refQuery hc hid hloc.base (hloc.ids store)⟩

end Hub

end Ace
