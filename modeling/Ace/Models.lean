import Ace.Zcapld

/-!
# Request models, CSH client models and the comparator's collaborators

The comparator receives `models` requests (`EqOp` arguments, `Authorization`s) and talks to
the confidential storage hub (CSH) through `cshclientmodels`. Polymorphic Go interfaces are
inductives with one constructor per implementation the handlers' type switches name, and one
for any other implementation (a `Caveat` of another kind keeps the type it reports). Pointer
fields the handlers dereference are plain values. A CSH `DocQuery`'s `UpstreamAuth` is
flattened into its EDV and KMS parts, and a decoded JSON value (`interface{}`) is a
`JsonValue`. A reply is an error when it is not a 200 response.

A handler's calls to the CSH are a `CshProgram`: each call carries the continuation that
receives the CSH's answer, so what a handler does before, between and after its calls is
part of its definition, and `CshProgram.run` plays it against a CSH state.
-/

namespace Ace

/-- How a Go call ends when it does not return a value: a returned `error`, or a runtime
panic that unwinds the goroutine. -/
inductive Failure where
  | error (msg : String)
  | panic (msg : String)
  deriving DecidableEq, Repr

namespace Models

inductive Caveat where
  | expiryCaveat (duration : BitVec 64)
  | other (type : String)
  deriving DecidableEq, Repr

def Caveat.type : Caveat → String
  | .expiryCaveat _ => Zcapld.expiryCaveatType
  | .other t => t

structure AuthTokens where
  edv : String
  kms : String
  deriving DecidableEq, Repr

structure DocQuery where
  vaultID : String
  docID : String
  docAttrPath : String
  authTokens : AuthTokens
  deriving DecidableEq, Repr

/-- `models.Query`: the two implementations `HandleEqOp` switches on, another
implementation of the interface, or a nil interface value. -/
inductive Query where
  | docQuery (q : DocQuery)
  | authorizedQuery (authToken : String)
  | other (type : String)
  | nil
  deriving DecidableEq, Repr

structure EqOp where
  args : List Query
  deriving DecidableEq, Repr

structure Scope where
  vaultID : String
  docID : String
  docAttrPath : String
  authTokens : AuthTokens
  caveats : List Caveat
  deriving DecidableEq, Repr

structure Authorization where
  requestingParty : String
  scope : Scope
  deriving DecidableEq, Repr

inductive JsonValue where
  | null
  | bool (b : Bool)
  | number (n : Int)
  | string (s : String)
  | array (xs : List JsonValue)
  | object (fields : List (String × JsonValue))

structure Config where
  did : String
  key : JsonValue

end Models

namespace Csh

structure UpstreamAuthorization where
  baseURL : String
  zcap : String
  deriving DecidableEq, Repr

structure DocQuery where
  vaultID : String
  docID : String
  path : String
  edv : UpstreamAuthorization
  kms : UpstreamAuthorization
  deriving DecidableEq, Repr

inductive Query where
  | docQuery (q : DocQuery)
  | refQuery (ref : String)
  deriving DecidableEq, Repr

structure ComparisonRequest where
  args : List Query
  deriving DecidableEq, Repr

structure Profile where
  id : String
  zcap : String
  deriving DecidableEq, Repr

end Csh

namespace Vault

/-- `vault.DocumentMetadata`, with the two fields the handlers read. -/
structure DocumentMetadata where
  uri : String
  encKeyURI : String
  deriving DecidableEq, Repr

end Vault

inductive Body where
  | error (message : String)
  | authorization (requestingParty authToken : String)
  | comparisonResult (result : Bool)
  deriving DecidableEq, Repr

/-- What an HTTP handler leaves behind: the response it wrote, or the runtime panic that
unwound it before it wrote one. -/
inductive Reply where
  | respond (status : Nat) (body : Body)
  | panic (msg : String)
  deriving DecidableEq, Repr

def statusOK : Nat := 200

def statusInternalServerError : Nat := 500

def respondErrorf (status : Nat) (msg : String) : Reply := .respond status (.error msg)

def Reply.IsError : Reply → Prop
  | .respond status _ => status ≠ statusOK
  | .panic _ => True

instance : DecidablePred Reply.IsError
  | .respond status _ => inferInstanceAs (Decidable (status ≠ statusOK))
  | .panic _ => isTrue trivial

/-- A handler's calls to the CSH client, each with the continuation that takes its result:
`PostHubstoreProfilesProfileIDQueries` answers with the new query's `Location`. -/
inductive CshProgram (α : Type) where
  | done (a : α)
  | postHubstoreProfilesProfileIDQueries (profileID : String) (request : Csh.DocQuery)
      (next : Except String String → CshProgram α)
  | postCompare (request : Csh.ComparisonRequest) (next : Except String Bool → CshProgram α)

/-- The CSH as its clients see it: a state, and its answer to each call with the state it
leaves. A call that fails at the client may still have reached the server. -/
structure CshServer (σ : Type) where
  postHubstoreProfilesProfileIDQueries : σ → String → Csh.DocQuery → Except String String × σ
  postCompare : σ → Csh.ComparisonRequest → Except String Bool × σ

def CshProgram.run {α σ : Type} (csh : CshServer σ) : CshProgram α → σ → α × σ
  | .done a, s => (a, s)
  | .postHubstoreProfilesProfileIDQueries pid q next, s =>
    let r := csh.postHubstoreProfilesProfileIDQueries s pid q
    (next r.1).run csh r.2
  | .postCompare q next, s =>
    let r := csh.postCompare s q
    (next r.1).run csh r.2

/-- The vault client, the CSH profile the comparator acts as, its configuration, and the
libraries whose results depend on the deployment: `zcapld`, and go-jose reading a JSON key. -/
structure Operation where
  getDocMetaData : String → String → Except String Vault.DocumentMetadata
  cshProfile : Csh.Profile
  comparatorConfig : Models.Config
  zcap : Zcapld.Lib
  unmarshalJWK : Models.JsonValue → Except String (String × Option (List UInt8))

end Ace
