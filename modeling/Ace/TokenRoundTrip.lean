import Ace.HandleEqOp

/-!
# Tokens presented back to the comparator

`HandleAuthz` hands out a capability whose invocation target is the location the CSH gave the
new query, `…/queries/<id>`. `HandleEqOp` recovers the reference from a presented token as the
second piece of that target split at `/queries/`: the text between the first occurrence and the
next one. It is the query's id when no occurrence of `/queries/` starts before the one in front
of the id and the id holds none.
-/

namespace Ace

open Strings Go

theorem split_queries {P q : String} (hP : ¬ "/queries/".data <:+: P.data ++ "/queries".data)
    (hq : ¬ Occurs "/queries/" q) : split (P ++ "/queries/" ++ q) "/queries/" = [P, q] := by
  rw [split_append_sep _ _ _ (by decide) hP, split_eq_single _ _ hq]

/-- A token `HandleAuthz` answers with decompresses, when compression keeps the invocation
target, to a capability whose target is the location it was issued for. -/
theorem issueToken_target {o : Operation} {authz : Models.Authorization} {location rp token : String}
    (hlib : o.zcap.KeepsTarget)
    (h : issueToken o authz location = .respond statusOK (.authorization rp token)) :
    ∃ c, o.zcap.decompressZCAP token = .ok c ∧ c.invocationTarget.id = location := by
  obtain ⟨-, _, _, _, _, -, -, -, ht⟩ := issueToken_ok_iff.1 h
  exact hlib _ token ht

theorem eqOpArg_refQuery {o : Operation} {token P q : String} {c : Zcapld.Capability}
    (hc : o.zcap.decompressZCAP token = .ok c) (hid : c.invocationTarget.id = P ++ "/queries/" ++ q)
    (hP : ¬ "/queries/".data <:+: P.data ++ "/queries".data) (hq : ¬ Occurs "/queries/" q) :
    eqOpArg o (.authorizedQuery token) = .ok (some (.refQuery q)) := by
  show some <$> eqOpAuthorizedQuery o token = _
  rw [eqOpAuthorizedQuery_eq, hc]
  simp only [Functor.map, Except.map, hid, split_queries hP hq]
  rfl

end Ace
