import Ace.Models

/-!
# The CSH's query store

The CSH's own code is not part of this model; its query store is modelled from the spec
(§4.4 `CreateQuery`, `Compare`). Creating a query persists `{id, profileID, spec}` under a
fresh opaque id and answers with a location pointing at it, the creation path followed by
the id. A comparison reads the store and leaves it as it was.

`compareEq` is the spec's `Compare` with `EqOp`: each argument resolves to the fragment a read
of a `DocQuery` gives, a `RefQuery` through the stored query with its id; the first failure
aborts the comparison, and `EqOp` holds when every fragment equals the first.
-/

namespace Ace.Hub

structure StoredQuery where
  id : String
  profileID : String
  query : Csh.DocQuery
  deriving DecidableEq, Repr

/-- Modelled from the spec: the location the CSH answers for a created query. -/
def location (baseURL profileID id : String) : String :=
  baseURL ++ "/hubstore/profiles/" ++ profileID ++ "/queries/" ++ id

/-- Modelled from the spec: the CSH's `CreateQuery` and `Compare` on its query store.
`fresh` draws the new query's opaque id and `compare` evaluates a comparison against the
store. The spec keys the store by id and gives every new query a new one; the server appends
whatever `fresh` draws, and every result over a run whose ids matter assumes `Fresh`. -/
def server (baseURL : String) (fresh : List StoredQuery → String)
    (compare : List StoredQuery → Csh.ComparisonRequest → Except String Bool) :
    CshServer (List StoredQuery) where
  postHubstoreProfilesProfileIDQueries store pid q :=
    (.ok (location baseURL pid (fresh store)), store ++ [⟨fresh store, pid, q⟩])
  postCompare store req := (compare store req, store)

/-- The CSH draws an id no stored query has. -/
def Fresh (fresh : List StoredQuery → String) : Prop :=
  ∀ store, fresh store ∉ store.map (·.id)

section Compare

variable {α : Type} (read : Csh.DocQuery → Except String α)

/-- Modelled from the spec: the fragment an argument of `Compare` names; a `RefQuery` reads
the first stored query with its id. -/
def resolve (store : List StoredQuery) : Csh.Query → Except String α
  | .docQuery q => read q
  | .refQuery ref =>
    match store.find? (·.id == ref) with
    | some sq => read sq.query
    | none => .error ("no such query: " ++ ref)

/-- Modelled from the spec: `EqOp` holds when every fragment equals the first, so vacuously
for fewer than two. -/
def allEqual [DecidableEq α] : List α → Bool
  | [] => true
  | v :: vs => vs.all fun w => decide (w = v)

/-- Modelled from the spec: `Compare` with `EqOp`, resolving the arguments in order and
stopping at the first failure. -/
def compareEq [DecidableEq α] (store : List StoredQuery) (request : Csh.ComparisonRequest) :
    Except String Bool :=
  allEqual <$> request.args.mapM (resolve read store)

/-- A reference reads the stored query it names when no query before it has its id. -/
theorem resolve_ref_first {pre post : List StoredQuery} {sq : StoredQuery}
    (h : sq.id ∉ pre.map (·.id)) :
    resolve read (pre ++ sq :: post) (.refQuery sq.id) = read sq.query := by
  have hnone : pre.find? (·.id == sq.id) = none :=
    List.find?_eq_none.2 fun x hx he => h (beq_iff_eq.1 he ▸ List.mem_map_of_mem _ hx)
  simp [resolve, List.find?_append, hnone]

end Compare

end Ace.Hub
