import Ace.Models

/-!
# Signatures bound to DID URLs

`DIDSignatureHashAlgorithms` signs and verifies bytes under a DID URL: the URL is split at `#`
into a DID and a fragment, the first resolver that accepts the DID's method reads its document,
the first capability-delegation method whose id is the fragment or the whole URL is taken, and
its type and curve fix the key type. Signing looks the private key up in the KMS under the KID
of the public key; verifying turns the public key itself into a handle. The KMS, the crypto
suite, the resolvers and `localkms.CreateKID` are collaborators: functions of the deployment.

A `DID` leaves the scheme `did` implicit. A JSON Web Key is reduced to its curve and an
`httpsignatures.Secret` to its key id, the only fields the operations read; a
`JsonWebKey2020` method's key may be nil, and `supportedJWKCurves` dereferences it.
-/

namespace Ace

def Failure.wrap (msg : String) : Failure → Failure
  | .error e => .error (msg ++ e)
  | .panic m => .panic m

def nilDereference : String := "runtime error: invalid memory address or nil pointer dereference"

end Ace

namespace Ace.Zcapld

open Strings

/-! ## DIDs and DID documents -/

structure DID where
  method : String
  methodSpecificID : String
  deriving DecidableEq, Repr

def DID.toString (id : DID) : String := "did:" ++ id.method ++ ":" ++ id.methodSpecificID

def idChar (c : Char) : Bool := c.isAlphanum || c == '-' || c == '_' || c == '.'

def methodChar (c : Char) : Bool := c.isLower || c.isDigit

/-- A method-specific id as `did.Parse`'s pattern `(:+|[:idchar]+)*[%:idchar]+[^:]` reads one:
at least two characters, the last not a colon, the others colons, `%` or `idchar`s. -/
def validMethodSpecificID (msid : List Char) : Bool :=
  2 ≤ msid.length && msid.getLast? != some ':' &&
    msid.dropLast.all fun c => c == '%' || c == ':' || idChar c

/-- `did.Parse`: `did:`, a method of lower-case letters and digits, `:`, and a method-specific
id, split by `strings.SplitN(did, ":", 3)`. The error keeps the first sentence of the
library's message. -/
def parseDID (did : String) : Except String DID :=
  match did.data with
  | 'd' :: 'i' :: 'd' :: ':' :: rest =>
    let method := rest.takeWhile (· ≠ ':')
    let msid := (rest.dropWhile (· ≠ ':')).drop 1
    if method ≠ [] ∧ method.all methodChar ∧ ':' ∈ rest ∧ validMethodSpecificID msid then
      .ok ⟨String.mk method, String.mk msid⟩
    else .error ("invalid did: " ++ did)
  | _ => .error ("invalid did: " ++ did)

/-- A DID as `parseDID` reads one: a non-empty method of lower-case letters and digits, and a
method-specific id of the pattern's shape. -/
def DID.Valid (id : DID) : Prop :=
  id.method.data ≠ [] ∧ id.method.data.all methodChar ∧
    validMethodSpecificID id.methodSpecificID.data

instance (id : DID) : Decidable id.Valid := inferInstanceAs (Decidable (_ ∧ _ ∧ _))

inductive VerificationRelationship where
  | general
  | authentication
  | assertionMethod
  | capabilityDelegation
  | capabilityInvocation
  | keyAgreement
  deriving DecidableEq, Repr

def VerificationRelationship.code : VerificationRelationship → Nat
  | .general => 0
  | .authentication => 1
  | .assertionMethod => 2
  | .capabilityDelegation => 3
  | .capabilityInvocation => 4
  | .keyAgreement => 5

structure JWK where
  crv : String
  deriving DecidableEq, Repr

structure VerificationMethod where
  id : String
  type : String
  value : List UInt8
  jsonWebKey : Option JWK
  deriving DecidableEq, Repr

structure Verification where
  verificationMethod : VerificationMethod
  deriving DecidableEq, Repr

structure Doc where
  verificationMethod : List VerificationMethod
  authentication : List Verification
  assertionMethod : List Verification
  capabilityDelegation : List Verification
  capabilityInvocation : List Verification
  keyAgreement : List Verification
  deriving DecidableEq, Repr

def Doc.verificationMethods (doc : Doc) : VerificationRelationship → List Verification
  | .general => doc.verificationMethod.map (⟨·⟩)
  | .authentication => doc.authentication
  | .assertionMethod => doc.assertionMethod
  | .capabilityDelegation => doc.capabilityDelegation
  | .capabilityInvocation => doc.capabilityInvocation
  | .keyAgreement => doc.keyAgreement

/-! ## Collaborators -/

inductive KeyType where
  | ed25519
  | ecdsaP256IEEEP1363
  | ecdsaP384IEEEP1363
  | ecdsaP521IEEEP1363
  deriving DecidableEq, Repr

structure DIDResolver where
  accept : String → Bool
  read : String → Except String Doc

structure KMS (κ : Type) where
  get : String → Except String κ
  pubKeyBytesToHandle : List UInt8 → KeyType → Except String κ

structure Crypto (κ : Type) where
  sign : List UInt8 → κ → Except String (List UInt8)
  verify : List UInt8 → List UInt8 → κ → Except String Unit

structure DIDSignatureHashAlgorithms (κ : Type) where
  kms : KMS κ
  crypto : Crypto κ
  resolvers : List DIDResolver

structure Secret where
  keyID : String
  deriving DecidableEq, Repr

/-! ## The operations -/

def parseDIDURL (didURL : String) : Except String (DID × String) :=
  match split didURL "#" with
  | [p, fragment] =>
    (fun id => (id, fragment)) <$> (parseDID p).mapError
      fun e => "failed to parse DID [" ++ p ++ "]: " ++ e
  | _ => .error ("not a did URL: " ++ didURL)

def jwkCurves : String → Option KeyType
  | "P-256" => some .ecdsaP256IEEEP1363
  | "P-384" => some .ecdsaP384IEEEP1363
  | "P-521" => some .ecdsaP521IEEEP1363
  | "Ed25519" => some .ed25519
  | _ => none

def supportedJWKCurves : Option JWK → Except Failure KeyType
  | none => .error (.panic nilDereference)
  | some j =>
    match jwkCurves j.crv with
    | some keyType => .ok keyType
    | none => .error (.error ("unsupported JsonWebKey2020 crv: " ++ j.crv))

def kmsKeyType (verMethod : VerificationMethod) : Except Failure KeyType :=
  match verMethod.type with
  | "Ed25519VerificationKey2018" => .ok .ed25519
  | "JsonWebKey2020" => supportedJWKCurves verMethod.jsonWebKey
  | t => .error (.error ("unsupported verificationMethod type: " ++ t))

variable {κ : Type}

/-- `derefVerMethod`: the first method listed under `rel` whose id is the fragment or the whole
URL, in the document that the first resolver accepting the DID's method reads. -/
def DIDSignatureHashAlgorithms.derefVerMethod (a : DIDSignatureHashAlgorithms κ) (didURL : String)
    (rel : VerificationRelationship) : Except String VerificationMethod := do
  let (id, fragment) ← (parseDIDURL didURL).mapError ("failed to parse DID URL: " ++ ·)
  match a.resolvers.find? (·.accept id.method) with
  | none => .error ("no resolver configured for method [" ++ id.method ++ "]")
  | some resolver =>
    let doc ← (resolver.read id.toString).mapError
      fun e => "failed to resolve [" ++ id.toString ++ "]: " ++ e
    match ((doc.verificationMethods rel).map (·.verificationMethod)).find?
        (fun vm => fragment == vm.id || didURL == vm.id) with
    | some vm => .ok vm
    | none => .error ("unable to dereference [" ++ didURL ++ "] to a verificationMethod in DID [" ++
        id.toString ++ "] with relation [" ++ toString rel.code ++ "]")

def DIDSignatureHashAlgorithms.create (createKID : List UInt8 → KeyType → Except String String)
    (a : DIDSignatureHashAlgorithms κ) (secret : Secret) (data : List UInt8) :
    Except Failure (List UInt8) := do
  let verificationMethod ← (a.derefVerMethod secret.keyID .capabilityDelegation).mapError
    fun e => .error ("failed to dereference verificationMethod from didURL " ++ secret.keyID ++
      ": " ++ e)
  let keyType ← (kmsKeyType verificationMethod).mapError
    (Failure.wrap "failed to map verificationMethod to a KMS keyType: ")
  let kid ← (createKID verificationMethod.value keyType).mapError
    fun e => .error ("failed to create KID from didURL " ++ secret.keyID ++ ": " ++ e)
  let kh ← (a.kms.get kid).mapError
    fun e => .error ("failed to get key handle for kid " ++ kid ++ ": " ++ e)
  (a.crypto.sign data kh).mapError fun e => .error ("failed to sign data: " ++ e)

def DIDSignatureHashAlgorithms.verify (a : DIDSignatureHashAlgorithms κ) (secret : Secret)
    (data signature : List UInt8) : Except Failure Unit := do
  let verificationMethod ← (a.derefVerMethod secret.keyID .capabilityDelegation).mapError
    fun e => .error ("failed to dereference verificationMethod from didURL " ++ secret.keyID ++
      ": " ++ e)
  let keyType ← (kmsKeyType verificationMethod).mapError
    (Failure.wrap "failed to map verificationMethod to a KMS keyType: ")
  let kh ← (a.kms.pubKeyBytesToHandle verificationMethod.value keyType).mapError
    fun e => .error ("failed to convert didURL " ++ secret.keyID ++
      " pubkey to aries kms handle: " ++ e)
  (a.crypto.verify signature data kh).mapError fun e => .error ("failed to verify signature: " ++ e)

/-! ## What each step returns -/

open Go

theorem colon_split (rest : List Char) (h : ':' ∈ rest) :
    rest = rest.takeWhile (· ≠ ':') ++ ':' :: (rest.dropWhile (· ≠ ':')).drop 1 := by
  induction rest with
  | nil => cases h
  | cons c cs ih =>
    by_cases hc : c = ':'
    · subst hc; simp
    · simpa [List.takeWhile_cons, List.dropWhile_cons, hc] using
        ih ((List.mem_cons.1 h).resolve_left (Ne.symm hc))

/-- A parsed DID prints back as the text it was parsed from. -/
theorem parseDID_toString {did : String} {id : DID} (h : parseDID did = .ok id) :
    id.toString = did := by
  unfold parseDID at h
  split at h
  · next rest hd =>
    dsimp only at h
    split at h
    · next hv =>
      cases h
      apply String.ext
      rw [hd]
      conv_rhs => rw [colon_split rest hv.2.2.1]
      simp only [DID.toString, String.data_append, List.append_assoc]
      rfl
    · cases h
  · cases h

theorem parseDIDURL_eq_ok {didURL fragment : String} {id : DID}
    (h : parseDIDURL didURL = .ok (id, fragment)) :
    ∃ p, split didURL "#" = [p, fragment] ∧ parseDID p = .ok id := by
  unfold parseDIDURL at h
  split at h
  · next p f hs =>
    obtain ⟨id', hid, he⟩ := map_eq_ok h
    cases he
    exact ⟨p, hs, mapError_eq_ok.1 hid⟩
  · cases h

theorem DID.toString_data (id : DID) : id.toString.data =
    'd' :: 'i' :: 'd' :: ':' :: (id.method.data ++ ':' :: id.methodSpecificID.data) := by
  simp only [DID.toString, String.data_append, List.append_assoc, List.cons_append,
    List.singleton_append]
  rfl

theorem DID.Valid.not_mem_method {id : DID} (hv : id.Valid) {c : Char} (hc : methodChar c = false) :
    c ∉ id.method.data := fun h => by
  rw [List.all_eq_true.1 hv.2.1 c h] at hc
  cases hc

theorem parseDID_valid {id : DID} (hv : id.Valid) : parseDID id.toString = .ok id := by
  have hcol : ∀ c ∈ id.method.data, decide (c ≠ ':') = true := fun c hc =>
    decide_eq_true fun he => hv.not_mem_method (c := ':') rfl (he ▸ hc)
  rw [show id.toString = ⟨_⟩ from String.ext (DID.toString_data id)]
  simp only [parseDID]
  rw [List.takeWhile_append_of_pos hcol, List.dropWhile_append_of_pos hcol,
    List.takeWhile_cons_of_neg (by decide), List.dropWhile_cons_of_neg (by decide),
    List.append_nil, if_pos ⟨hv.1, hv.2.1, by simp, hv.2.2⟩]
  rfl

/-- `parseDID` accepts exactly the texts of valid DIDs, and reads each back as the DID it
prints. -/
theorem parseDID_eq_ok_iff {did : String} {id : DID} :
    parseDID did = .ok id ↔ id.Valid ∧ id.toString = did := by
  constructor
  · intro h
    refine ⟨?_, parseDID_toString h⟩
    unfold parseDID at h
    split at h
    · dsimp only at h
      split at h
      · next hv => cases h; exact ⟨hv.1, hv.2.1, hv.2.2.2⟩
      · cases h
    · cases h
  · rintro ⟨hv, rfl⟩
    exact parseDID_valid hv

/-- `parseDIDURL` accepts exactly a valid DID whose method-specific id holds no `#`, then `#`,
then a fragment without `#`, and reads back that DID and that fragment. -/
theorem parseDIDURL_eq_ok_iff {didURL fragment : String} {id : DID} :
    parseDIDURL didURL = .ok (id, fragment) ↔
      id.Valid ∧ '#' ∉ id.methodSpecificID.data ∧ '#' ∉ fragment.data ∧
        didURL = id.toString ++ "#" ++ fragment := by
  constructor
  · intro h
    obtain ⟨p, hs, hp⟩ := parseDIDURL_eq_ok h
    obtain ⟨rfl, hp₁, hf₁⟩ := split_eq_pair hs
    obtain ⟨hv, rfl⟩ := parseDID_eq_ok_iff.1 hp
    exact ⟨hv, fun h => hp₁ (by simp [DID.toString_data, h]), hf₁, rfl⟩
  · rintro ⟨hv, hm, hf, rfl⟩
    have hp : '#' ∉ id.toString.data := by
      simp [DID.toString_data, hv.not_mem_method (c := '#') rfl, hm]
    rw [parseDIDURL, show split (id.toString ++ "#" ++ fragment) "#" = [id.toString, fragment] from
      split_pair hp hf]
    simp only [parseDID_valid hv, mapError_ok]
    rfl

theorem derefVerMethod_eq_ok {a : DIDSignatureHashAlgorithms κ} {didURL : String}
    {rel : VerificationRelationship} {vm : VerificationMethod}
    (h : a.derefVerMethod didURL rel = .ok vm) :
    ∃ id fragment, parseDIDURL didURL = .ok (id, fragment) ∧
      ∃ resolver, a.resolvers.find? (·.accept id.method) = some resolver ∧
        ∃ doc, resolver.read id.toString = .ok doc ∧
          ((doc.verificationMethods rel).map (·.verificationMethod)).find?
            (fun vm => fragment == vm.id || didURL == vm.id) = some vm := by
  unfold DIDSignatureHashAlgorithms.derefVerMethod at h
  obtain ⟨⟨id, fragment⟩, hp, h⟩ := bind_eq_ok.1 h
  refine ⟨id, fragment, mapError_eq_ok.1 hp, ?_⟩
  dsimp only at h
  split at h
  · cases h
  · next resolver hr =>
    obtain ⟨doc, hd, h⟩ := bind_eq_ok.1 h
    refine ⟨resolver, hr, doc, mapError_eq_ok.1 hd, ?_⟩
    split at h
    · next vm' hvm => cases h; exact hvm
    · cases h

variable {createKID : List UInt8 → KeyType → Except String String}

theorem create_eq_ok {a : DIDSignatureHashAlgorithms κ} {secret : Secret} {data sig : List UInt8}
    (h : a.create createKID secret data = .ok sig) :
    ∃ vm kt kid kh, a.derefVerMethod secret.keyID .capabilityDelegation = .ok vm ∧
      kmsKeyType vm = .ok kt ∧ createKID vm.value kt = .ok kid ∧ a.kms.get kid = .ok kh ∧
        a.crypto.sign data kh = .ok sig := by
  unfold DIDSignatureHashAlgorithms.create at h
  obtain ⟨vm, hvm, h⟩ := bind_eq_ok.1 h
  obtain ⟨kt, hkt, h⟩ := bind_eq_ok.1 h
  obtain ⟨kid, hkid, h⟩ := bind_eq_ok.1 h
  obtain ⟨kh, hkh, h⟩ := bind_eq_ok.1 h
  exact ⟨vm, kt, kid, kh, mapError_eq_ok.1 hvm, mapError_eq_ok.1 hkt, mapError_eq_ok.1 hkid,
    mapError_eq_ok.1 hkh, mapError_eq_ok.1 h⟩

theorem verify_eq_ok {a : DIDSignatureHashAlgorithms κ} {secret : Secret}
    {data signature : List UInt8} :
    a.verify secret data signature = .ok () ↔
      ∃ vm kt kh, a.derefVerMethod secret.keyID .capabilityDelegation = .ok vm ∧
        kmsKeyType vm = .ok kt ∧ a.kms.pubKeyBytesToHandle vm.value kt = .ok kh ∧
          a.crypto.verify signature data kh = .ok () := by
  constructor
  · intro h
    unfold DIDSignatureHashAlgorithms.verify at h
    obtain ⟨vm, hvm, h⟩ := bind_eq_ok.1 h
    obtain ⟨kt, hkt, h⟩ := bind_eq_ok.1 h
    obtain ⟨kh, hkh, h⟩ := bind_eq_ok.1 h
    exact ⟨vm, kt, kh, mapError_eq_ok.1 hvm, mapError_eq_ok.1 hkt, mapError_eq_ok.1 hkh,
      mapError_eq_ok.1 h⟩
  · rintro ⟨vm, kt, kh, hvm, hkt, hkh, hv⟩
    simp only [DIDSignatureHashAlgorithms.verify, hvm, hkt, hkh, hv, mapError_ok, ok_bind]

/-! ## Signing and verifying agree -/

/-- The KMS and the crypto suite agree: a signature made with the private key that the KMS
holds under the KID of a public key verifies under the handle the KMS builds from that public
key. -/
def DIDSignatureHashAlgorithms.Consistent (a : DIDSignatureHashAlgorithms κ)
    (createKID : List UInt8 → KeyType → Except String String) : Prop :=
  ∀ (m pk : List UInt8) (kt : KeyType) (kid : String) (kh : κ) (sig : List UInt8),
    createKID pk kt = .ok kid → a.kms.get kid = .ok kh → a.crypto.sign m kh = .ok sig →
      ∃ kh', a.kms.pubKeyBytesToHandle pk kt = .ok kh' ∧ a.crypto.verify sig m kh' = .ok ()

/-- A signature `Create` returns under a DID URL is accepted by `Verify` under the same URL:
both dereference the same verification method and derive the same key type. -/
theorem verify_create {a : DIDSignatureHashAlgorithms κ} (hc : a.Consistent createKID)
    {u : String} {data sig : List UInt8} (h : a.create createKID ⟨u⟩ data = .ok sig) :
    a.verify ⟨u⟩ data sig = .ok () := by
  obtain ⟨vm, kt, kid, kh, hvm, hkt, hkid, hkh, hs⟩ := create_eq_ok h
  obtain ⟨kh', hpub, hv⟩ := hc data vm.value kt kid kh sig hkid hkh hs
  exact verify_eq_ok.2 ⟨vm, kt, kh', hvm, hkt, hpub, hv⟩

theorem verify_create_did_key :
    let vm : VerificationMethod := ⟨"did:key:z6Mk#z6Mk", "Ed25519VerificationKey2018", [1, 2, 3], none⟩
    let a : DIDSignatureHashAlgorithms (List UInt8) :=
      ⟨⟨fun _ => .ok [9], fun _ _ => .ok [9]⟩,
        ⟨fun m kh => .ok (kh ++ m), fun sig m kh => if sig = kh ++ m then .ok () else .error ""⟩,
        [⟨fun method => method == "key", fun _ => .ok ⟨[vm], [], [], [⟨vm⟩], [], []⟩⟩]⟩
    a.verify ⟨"did:key:z6Mk#z6Mk"⟩ [5] [9, 5] = .ok () := by
  intro vm a
  exact @verify_create (List UInt8) (fun _ _ => .ok "kid1") a
    (fun _ _ _ _ _ _ _ hkh hsig => by cases hkh; cases hsig; exact ⟨[9], rfl, if_pos rfl⟩)
    "did:key:z6Mk#z6Mk" [5] [9, 5] rfl

/-! ## Which key `Verify` accepts a signature under -/

/-- `Verify` succeeds only when the URL is a DID and a fragment around its one `#`, the first
resolver accepting the DID's method read the DID's document, and the crypto suite accepted the
signature under the public key of a capability-delegation method of that document whose id is
the fragment or the URL, with the key type `kmsKeyType` gives it. -/
theorem verify_uses_delegation_key {a : DIDSignatureHashAlgorithms κ} {u : String}
    {data signature : List UInt8} (h : a.verify ⟨u⟩ data signature = .ok ()) :
    ∃ p fragment, u = p ++ "#" ++ fragment ∧ '#' ∉ p.data ∧ '#' ∉ fragment.data ∧
      ∃ id resolver doc, parseDID p = .ok id ∧
        a.resolvers.find? (·.accept id.method) = some resolver ∧ resolver.read p = .ok doc ∧
        ∃ vm ∈ doc.capabilityDelegation.map (·.verificationMethod),
          (vm.id = fragment ∨ vm.id = u) ∧
          ∃ kt kh, kmsKeyType vm = .ok kt ∧ a.kms.pubKeyBytesToHandle vm.value kt = .ok kh ∧
            a.crypto.verify signature data kh = .ok () := by
  obtain ⟨vm, kt, kh, hvm, hkt, hkh, hv⟩ := verify_eq_ok.1 h
  obtain ⟨id, fragment, hu, resolver, hr, doc, hd, hfind⟩ := derefVerMethod_eq_ok hvm
  obtain ⟨p, hs, hp⟩ := parseDIDURL_eq_ok hu
  obtain ⟨rfl, hp₁, hf₁⟩ := split_eq_pair hs
  rw [parseDID_toString hp] at hd
  have hmatch := List.find?_some hfind
  simp only [Bool.or_eq_true, beq_iff_eq] at hmatch
  exact ⟨p, fragment, rfl, hp₁, hf₁, id, resolver, doc, hp, hr, hd, vm, List.mem_of_find?_eq_some hfind,
    hmatch.imp Eq.symm Eq.symm, kt, kh, hkt, hkh, hv⟩

theorem verify_uses_delegation_key_did_key :
    let vm : VerificationMethod := ⟨"z6Mk", "Ed25519VerificationKey2018", [1, 2, 3], none⟩
    let a : DIDSignatureHashAlgorithms (List UInt8) :=
      ⟨⟨fun _ => .error "", fun pk _ => .ok pk⟩,
        ⟨fun _ _ => .error "", fun sig m kh => if sig = kh ++ m then .ok () else .error ""⟩,
        [⟨fun _ => false, fun _ => .error ""⟩,
          ⟨fun method => method == "key", fun _ => .ok ⟨[vm], [⟨vm⟩], [], [⟨vm⟩], [], []⟩⟩]⟩
    ∃ p fragment, "did:key:z6Mk#z6Mk" = p ++ "#" ++ fragment ∧ '#' ∉ p.data ∧ '#' ∉ fragment.data ∧
      ∃ id resolver doc, parseDID p = .ok id ∧
        a.resolvers.find? (·.accept id.method) = some resolver ∧ resolver.read p = .ok doc ∧
        ∃ vm ∈ doc.capabilityDelegation.map (·.verificationMethod),
          (vm.id = fragment ∨ vm.id = "did:key:z6Mk#z6Mk") ∧
          ∃ kt kh, kmsKeyType vm = .ok kt ∧ a.kms.pubKeyBytesToHandle vm.value kt = .ok kh ∧
            a.crypto.verify [1, 2, 3, 5] [5] kh = .ok () := by
  intro vm a
  exact verify_uses_delegation_key (a := a) rfl

end Ace.Zcapld
