import Ace.GoStrings

/-!
# Authorization capabilities

The parts of the `zcapld` package that the comparator uses: the capability document and its
caveats, `NewCapability` with the options `driveZCAPForCSH` passes, and the compressed wire
form. Compression, the URN a new capability draws and the JSON-LD signature suite are
functions of the deployment, collected in `Lib`; a `Signer` is reduced to the Ed25519 key
behind its suite and the verification method it names. Validity of a presented capability is
the spec's check (§4.2 `Verify`) on the presented link.
-/

namespace Ace.Zcapld

structure Caveat where
  type : String
  duration : BitVec 64
  deriving DecidableEq, Repr

def Caveat.zero : Caveat := ⟨"", 0⟩

structure InvocationTarget where
  id : String
  type : String
  deriving DecidableEq, Repr

structure Proof where
  created : Nat
  verificationMethod : String
  proofValue : List UInt8
  deriving DecidableEq, Repr

/-- `zcapld.Capability`, without the JSON-LD context and controller, which nothing here
reads or sets. -/
structure Capability where
  id : String
  invoker : String
  parent : String
  allowedAction : List String
  invocationTarget : InvocationTarget
  caveats : List Caveat
  capabilityChain : List String
  proof : List Proof
  deriving DecidableEq, Repr

structure Signer where
  key : List UInt8
  verificationMethod : String
  deriving DecidableEq, Repr

structure CapabilityOptions where
  parent : String
  invoker : String
  allowedAction : List String
  caveats : List Caveat
  invocationTarget : InvocationTarget
  capabilityChain : List String
  deriving DecidableEq, Repr

/-- The `zcapld` functions whose results depend on the deployment: `DecompressZCAP` and
`CompressZCAP` (gzip and base64url of the JSON document), the URN `NewCapability` draws for a
capability with no id, and the signature suite that signs a capability. -/
structure Lib where
  decompressZCAP : String → Except String Capability
  compressZCAP : Capability → Except String String
  newID : String
  signZCAP : Signer → Capability → Except String Proof

def newCapability (lib : Lib) (signer : Signer) (opts : CapabilityOptions) :
    Except String Capability :=
  let zcap : Capability :=
    { id := lib.newID, invoker := opts.invoker, parent := opts.parent,
      allowedAction := opts.allowedAction, invocationTarget := opts.invocationTarget,
      caveats := opts.caveats, capabilityChain := opts.capabilityChain, proof := [] }
  (fun p => { zcap with proof := [p] }) <$> lib.signZCAP signer zcap

theorem newCapability_fields {lib : Lib} {signer : Signer} {opts : CapabilityOptions}
    {c : Capability} (h : newCapability lib signer opts = .ok c) :
    c.parent = opts.parent ∧ c.invoker = opts.invoker ∧ c.allowedAction = opts.allowedAction ∧
      c.caveats = opts.caveats ∧ c.invocationTarget = opts.invocationTarget ∧
      c.capabilityChain = opts.capabilityChain := by
  obtain ⟨_, -, rfl⟩ := Go.map_eq_ok h
  exact ⟨rfl, rfl, rfl, rfl, rfl, rfl⟩

/-- `NewCapability` succeeds exactly when the suite signs the document the options describe,
and it returns that document with the proof attached. -/
theorem newCapability_eq_ok {lib : Lib} {signer : Signer} {opts : CapabilityOptions}
    {c : Capability} :
    newCapability lib signer opts = .ok c ↔
      let zcap : Capability :=
        { id := lib.newID, invoker := opts.invoker, parent := opts.parent,
          allowedAction := opts.allowedAction, invocationTarget := opts.invocationTarget,
          caveats := opts.caveats, capabilityChain := opts.capabilityChain, proof := [] }
      ∃ p, lib.signZCAP signer zcap = .ok p ∧ c = { zcap with proof := [p] } := by
  constructor
  · intro h
    obtain ⟨p, hp, rfl⟩ := Go.map_eq_ok h
    exact ⟨p, hp, rfl⟩
  · rintro ⟨p, hp, rfl⟩
    simp only [newCapability, hp]
    rfl

/-- Compression followed by decompression keeps the invocation target's id. -/
def Lib.KeepsTarget (lib : Lib) : Prop :=
  ∀ c token, lib.compressZCAP c = .ok token →
    ∃ c', lib.decompressZCAP token = .ok c' ∧ c'.invocationTarget.id = c.invocationTarget.id

/-- Modelled from the spec: the caveat type of an `ExpiryCaveat{duration}` (§4.2). -/
def expiryCaveatType : String := "ExpiryCaveat"

/-- The spec's check of a presented capability at time `now` (§4.2 `Verify`, on the
presented link): its proof verifies, it allows the action, and every expiry caveat still
holds at every proof's creation time plus the caveat's duration. -/
structure ValidAt (verifyProof : Capability → Bool) (now : Nat) (action : String)
    (c : Capability) : Prop where
  proof_verifies : verifyProof c = true
  action_allowed : action ∈ c.allowedAction
  unexpired : ∀ p ∈ c.proof, ∀ cv ∈ c.caveats, cv.type = expiryCaveatType →
    now < p.created + cv.duration.toNat

end Ace.Zcapld
