import Datacat.State

/-!
# Verification of Tokens

The verifier chooses a key from the header, asks the library to check the token against a list of
demands, and then reads the two names it relies on. The library is a parameter: what it is asked
is the program's, what it answers is documented.

The demands leave gaps. The library compares an issuer or an audience with the expected one when
the token has one, and the verifier requires the expiry only; the instant of issue is read and
never looked at.

## Main results

- `verify_ok`: what an accepted token went through.
- `verify_guaranteed_iff`: an accepted token meets the rules when it carries the claims that are
  compared and was not issued in the future.
-/

namespace Datacat.Security

open Basics

/-! ## What the library sees -/

/-- `jsonwebtoken::Algorithm`. -/
inductive Algorithm where
  | HS256 | HS384 | HS512
  | ES256 | ES384
  | RS256 | RS384 | RS512
  | PS256 | PS384 | PS512
  | EdDSA
deriving DecidableEq, Repr

/-- The `Debug` text. -/
def Algorithm.debug : Algorithm → String
  | HS256 => "HS256"
  | HS384 => "HS384"
  | HS512 => "HS512"
  | ES256 => "ES256"
  | ES384 => "ES384"
  | RS256 => "RS256"
  | RS384 => "RS384"
  | RS512 => "RS512"
  | PS256 => "PS256"
  | PS384 => "PS384"
  | PS512 => "PS512"
  | EdDSA => "EdDSA"

/-- `jsonwebtoken::Header`, the fields that are read. -/
structure Header where
  alg : Algorithm
  kid : Option String

/-- `jsonwebtoken::Validation`, the fields that the verifier sets or leaves at a default that the
library looks at. -/
structure Validation where
  algorithms : List Algorithm
  leeway : Nat
  validateExp : Bool
  validateAud : Bool
  requiredSpecClaims : List String
  iss : Option (List String)
  aud : Option (List String)

/-- `Validation::new`. -/
def Validation.new (alg : Algorithm) : Validation where
  algorithms := [alg]
  leeway := 60
  validateExp := true
  validateAud := true
  requiredSpecClaims := ["exp"]
  iss := none
  aud := none

/-- `ErrorKind`, as far as it is told apart. -/
inductive JwtError where
  | expiredSignature
  | invalidSignature
  | invalidIssuer
  | invalidAudience
  | missingRequiredClaim (name : String)
  | invalidToken
  | other

/-- The claims that the program reads. -/
structure Claims where
  actorId : String
  sessionId : String
  tenantId : Option String
  /-- An `i64`. -/
  iat : Int

/-- `jsonwebtoken`, with the type of its keys. -/
structure JwtLibrary (κ : Type) where
  decodeHeader : String → Except String Header
  /-- `decode::<Claims>` at an instant, in seconds. -/
  decode : String → κ → Validation → Nat → Except JwtError Claims

/-- The payload of a token: its registered claims, and those of the program when they can be
read. -/
structure Payload where
  exp : Option Nat
  iss : Option String
  aud : Option (List String)
  claims : Option Claims

/-- The claim is present. -/
def Payload.has (payload : Payload) (name : String) : Bool :=
  match name with
  | "exp" => payload.exp.isSome
  | "iss" => payload.iss.isSome
  | "aud" => payload.aud.isSome
  | _ => true

/-- What the library documents of a token that it decodes. -/
structure Documented {κ : Type} (jwt : JwtLibrary κ) (payload : String → Payload)
    (signed : String → κ → Algorithm → Prop) : Prop where
  /-- The signature is checked, with an algorithm of the list. -/
  signature : ∀ token key validation now claims, jwt.decode token key validation now = .ok claims →
    ∃ alg ∈ validation.algorithms, signed token key alg
  deserialized : ∀ token key validation now claims,
    jwt.decode token key validation now = .ok claims → (payload token).claims = some claims
  /-- Presence is required of the listed claims only. -/
  required : ∀ token key validation now claims, jwt.decode token key validation now = .ok claims →
    ∀ name ∈ validation.requiredSpecClaims, (payload token).has name = true
  expiry : ∀ token key validation now claims, jwt.decode token key validation now = .ok claims →
    validation.validateExp = true →
    ∀ exp, (payload token).exp = some exp → now ≤ exp + validation.leeway
  /-- An issuer is compared when there is one. -/
  issuer : ∀ token key validation now claims, jwt.decode token key validation now = .ok claims →
    ∀ expected iss, validation.iss = some expected → (payload token).iss = some iss →
      iss ∈ expected
  /-- An audience is compared when there is one. -/
  audience : ∀ token key validation now claims, jwt.decode token key validation now = .ok claims →
    validation.validateAud = true → ∀ expected aud, validation.aud = some expected →
      (payload token).aud = some aud → ∃ name ∈ aud, name ∈ expected

/-! ## The verifier -/

structure KeyEntry (κ : Type) where
  kid : Option String
  alg : Algorithm
  key : κ

/-- `TokenVerifier`, with its current keys. -/
structure KeyVerifier (κ : Type) where
  enabled : Bool
  algorithms : List Algorithm
  issuer : Option String
  audience : Option String
  leeway : Nat
  keys : List (KeyEntry κ)

/-- `select_key`: a token that names its key is verified with this one. -/
def selectKey {κ : Type} (keys : List (KeyEntry κ)) (kid : Option String) (alg : Algorithm) :
    Option (KeyEntry κ) :=
  match kid with
  | some kid => keys.find? fun k => k.kid == some kid && k.alg == alg
  | none => keys.find? fun k => k.alg == alg

/-- `map_jwt_err`. -/
def mapJwtErr : JwtError → String
  | .expiredSignature => "token expiré"
  | .invalidSignature => "signature invalide"
  | .invalidIssuer => "issuer invalide"
  | .invalidAudience => "audience invalide"
  | .missingRequiredClaim name => "claim requis manquant: " ++ name
  | .invalidToken => "token malformé"
  | .other => "token invalide"

/-- `s.trim().is_empty()`. -/
def isBlank (s : String) : Bool := (trim s.toList).isEmpty

namespace KeyVerifier

variable {κ : Type}

/-- What the library is asked to check. -/
def validation (v : KeyVerifier κ) (alg : Algorithm) : Validation :=
  { Validation.new alg with
    leeway := v.leeway
    validateExp := true
    requiredSpecClaims := ["exp"]
    iss := v.issuer.map fun iss => [iss]
    aud := v.audience.map fun aud => [aud]
    validateAud := v.audience.isSome }

/-- `verify`, at an instant in seconds. -/
def verify (v : KeyVerifier κ) (jwt : JwtLibrary κ) (now : Nat) (token : String) :
    Except String VerifiedToken :=
  match jwt.decodeHeader token with
  | .error e => .error ("en-tête JWT invalide: " ++ e)
  | .ok header =>
    if !v.algorithms.contains header.alg then
      .error ("algorithme non autorisé: " ++ header.alg.debug)
    else
      match selectKey v.keys header.kid header.alg with
      | none => .error "clé de signature inconnue"
      | some entry =>
        match jwt.decode token entry.key (v.validation header.alg) now with
        | .error e => .error (mapJwtErr e)
        | .ok c =>
          if isBlank c.actorId || isBlank c.sessionId then
            .error "claims requis manquants (actor_id/session_id)"
          else .ok ⟨c.actorId, c.sessionId, c.tenantId⟩

/-- The verifier as the handlers see it. -/
def toTokenVerifier (v : KeyVerifier κ) (jwt : JwtLibrary κ) : TokenVerifier where
  enabled := v.enabled
  verify at_ token := v.verify jwt (at_.nanos / DateTime.nanosPerSec).toNat token

end KeyVerifier

/-! ## What is promised of an accepted token -/

section Soundness

variable {κ : Type} {v : KeyVerifier κ} {jwt : JwtLibrary κ} {payload : String → Payload}
  {signed : String → κ → Algorithm → Prop} {now : Nat} {token : String}
  {identity : VerifiedToken}

/-- The key chosen has the algorithm, and the name when one is given. -/
theorem selectKey_spec {keys : List (KeyEntry κ)} {kid : Option String} {alg : Algorithm}
    {entry : KeyEntry κ} (h : selectKey keys kid alg = some entry) :
    entry ∈ keys ∧ entry.alg = alg ∧ ∀ name, kid = some name → entry.kid = some name := by
  unfold selectKey at h
  cases kid with
  | none =>
    have halg := List.find?_some h
    exact ⟨List.mem_of_find?_eq_some h, eq_of_beq halg, nofun⟩
  | some name =>
    have hboth := List.find?_some h
    rw [Bool.and_eq_true] at hboth
    refine ⟨List.mem_of_find?_eq_some h, eq_of_beq hboth.2, fun name' hname => ?_⟩
    rw [← hname]
    exact eq_of_beq hboth.1

/-- The rules of the contract for a token: algorithm, key, signature, times, names, issuer and
audience. -/
structure Guaranteed (v : KeyVerifier κ) (jwt : JwtLibrary κ) (payload : String → Payload)
    (signed : String → κ → Algorithm → Prop) (now : Nat) (token : String) (header : Header)
    (entry : KeyEntry κ) (claims : Claims) : Prop where
  decoded : jwt.decodeHeader token = .ok header
  allowed : header.alg ∈ v.algorithms
  selected : selectKey v.keys header.kid header.alg = some entry
  listed : entry ∈ v.keys
  algorithm : entry.alg = header.alg
  kid : ∀ name, header.kid = some name → entry.kid = some name
  signature : signed token entry.key header.alg
  notExpired : ∃ exp, (payload token).exp = some exp ∧ now ≤ exp + v.leeway
  deserialized : (payload token).claims = some claims
  notFuture : claims.iat ≤ now + v.leeway
  actor : isBlank claims.actorId = false
  session : isBlank claims.sessionId = false
  issuer : ∀ iss, v.issuer = some iss → (payload token).iss = some iss
  audience : ∀ aud, v.audience = some aud → ∃ names, (payload token).aud = some names ∧ aud ∈ names

/-- The token carries the claims that the verifier wants compared, and was not issued in the
future. -/
structure Carries (v : KeyVerifier κ) (payload : Payload) (now : Nat) : Prop where
  issuer : v.issuer.isSome = true → payload.iss.isSome = true
  audience : v.audience.isSome = true → payload.aud.isSome = true
  notFuture : ∀ claims, payload.claims = some claims → claims.iat ≤ now + v.leeway

/-- What an accepted token went through. -/
theorem verify_ok (h : v.verify jwt now token = .ok identity) :
    ∃ header entry claims, jwt.decodeHeader token = .ok header ∧ header.alg ∈ v.algorithms ∧
      selectKey v.keys header.kid header.alg = some entry ∧
      jwt.decode token entry.key (v.validation header.alg) now = .ok claims ∧
      isBlank claims.actorId = false ∧ isBlank claims.sessionId = false ∧
      identity = ⟨claims.actorId, claims.sessionId, claims.tenantId⟩ := by
  unfold KeyVerifier.verify at h
  -- The early returns in turn; only the last branch accepts.
  cases hheader : jwt.decodeHeader token with
  | error e =>
    rw [hheader] at h
    cases h
  | ok header =>
    rw [hheader] at h
    dsimp only at h
    split at h
    · cases h
    · rename_i hallowed
      rw [Bool.not_eq_true, Bool.not_eq_false', List.contains_iff_mem] at hallowed
      cases hkey : selectKey v.keys header.kid header.alg with
      | none =>
        rw [hkey] at h
        cases h
      | some entry =>
        rw [hkey] at h
        dsimp only at h
        cases hdecode : jwt.decode token entry.key (v.validation header.alg) now with
        | error e =>
          rw [hdecode] at h
          cases h
        | ok claims =>
          rw [hdecode] at h
          dsimp only at h
          split at h
          · cases h
          · rename_i hnames
            rw [Bool.not_eq_true, Bool.or_eq_false_iff] at hnames
            exact ⟨header, entry, claims, rfl, hallowed, hkey, hdecode, hnames.1, hnames.2,
              (Except.ok.inj h).symm⟩

/-- **Soundness of verification.** An accepted token meets every rule of the contract if and only
if it carries the issuer and the audience that are configured, under any name, and was not issued
in the future. -/
theorem verify_guaranteed_iff (hjwt : Documented jwt payload signed)
    (h : v.verify jwt now token = .ok identity) :
    (∃ header entry claims, Guaranteed v jwt payload signed now token header entry claims) ↔
      Carries v (payload token) now := by
  constructor
  · -- The rules of the contract name the issuer and the audience, so they are there.
    rintro ⟨header, entry, claims, hall⟩
    refine ⟨fun hissuer => ?_, fun haudience => ?_, fun claims' hclaims => ?_⟩
    · obtain ⟨iss, hiss⟩ := Option.isSome_iff_exists.mp hissuer
      rw [hall.issuer iss hiss]
      rfl
    · obtain ⟨aud, haud⟩ := Option.isSome_iff_exists.mp haudience
      obtain ⟨names, hnames, -⟩ := hall.audience aud haud
      rw [hnames]
      rfl
    · obtain rfl : claims = claims' := Option.some.inj (hall.deserialized.symm.trans hclaims)
      exact hall.notFuture
  · -- Conversely each rule is a check of the verifier or of the library.
    intro hcarries
    obtain ⟨header, entry, claims, hheader, hallowed, hkey, hdecode, hactor, hsession, -⟩ :=
      verify_ok h
    obtain ⟨hlisted, halg, hkid⟩ := selectKey_spec hkey
    have hclaims := hjwt.deserialized _ _ _ _ _ hdecode
    refine ⟨header, entry, claims, hheader, hallowed, hkey, hlisted, halg, hkid, ?_, ?_, hclaims,
      hcarries.notFuture claims hclaims, hactor, hsession, ?_, ?_⟩
    · -- The only algorithm that the library may use is the one of the header.
      obtain ⟨alg, hmem, hsigned⟩ := hjwt.signature _ _ _ _ _ hdecode
      obtain rfl : alg = header.alg := List.mem_singleton.mp hmem
      exact hsigned
    · -- The expiry is the one claim that the library is asked to require.
      have hpresent : (payload token).exp.isSome = true :=
        hjwt.required _ _ _ _ _ hdecode "exp" (List.mem_singleton_self _)
      obtain ⟨exp, hexp⟩ := Option.isSome_iff_exists.mp hpresent
      exact ⟨exp, hexp, hjwt.expiry _ _ _ _ _ hdecode rfl exp hexp⟩
    · -- The library compares the issuer only when the token carries one.
      intro iss hiss
      obtain ⟨found, hfound⟩ :=
        Option.isSome_iff_exists.mp (hcarries.issuer (by rw [hiss]; rfl))
      have hmem := hjwt.issuer _ _ _ _ _ hdecode [iss] found
        (congrArg (Option.map fun iss => [iss]) hiss) hfound
      rw [hfound, List.mem_singleton.mp hmem]
    · intro aud haud
      obtain ⟨found, hfound⟩ :=
        Option.isSome_iff_exists.mp (hcarries.audience (by rw [haud]; rfl))
      have hasked : (v.validation header.alg).validateAud = true := congrArg Option.isSome haud
      obtain ⟨name, hname, hexpected⟩ := hjwt.audience _ _ _ _ _ hdecode hasked [aud] found
        (congrArg (Option.map fun aud => [aud]) haud) hfound
      rw [List.mem_singleton.mp hexpected] at hname
      exact ⟨found, hfound, hname⟩

end Soundness

/-! ## A library over known tokens -/

structure KnownToken where
  header : Header
  payload : Payload
  /-- The only key that verifies its signature. -/
  signer : Nat

section Known

variable (known : String → Option KnownToken)

/-- A library that checks known tokens as documented. -/
def knownLibrary : JwtLibrary Nat where
  decodeHeader token :=
    match known token with
    | some t => .ok t.header
    | none => .error "InvalidToken"
  decode token key validation now :=
    match known token with
    | none => .error .invalidToken
    | some t =>
      if !(validation.algorithms.contains t.header.alg && t.signer == key) then
        .error .invalidSignature
      else if !validation.requiredSpecClaims.all t.payload.has then
        .error (.missingRequiredClaim "exp")
      else if validation.validateExp && t.payload.exp.any (fun exp => exp + validation.leeway < now) then
        .error .expiredSignature
      else if validation.iss.any (fun expected => t.payload.iss.any fun iss => !expected.contains iss)
        then .error .invalidIssuer
      else if validation.validateAud && validation.aud.any (fun expected =>
          t.payload.aud.any fun aud => !aud.any expected.contains) then
        .error .invalidAudience
      else
        match t.payload.claims with
        | some claims => .ok claims
        | none => .error .invalidToken

def knownPayload (token : String) : Payload :=
  match known token with
  | some t => t.payload
  | none => ⟨none, none, none, none⟩

def KnownSigned (token : String) (key : Nat) (alg : Algorithm) : Prop :=
  ∃ t, known token = some t ∧ t.signer = key ∧ t.header.alg = alg

/-- What the library of known tokens asked before it gave claims. -/
theorem knownLibrary_decode {token : String} {key now : Nat} {validation : Validation}
    {claims : Claims} (h : (knownLibrary known).decode token key validation now = .ok claims) :
    ∃ t, known token = some t ∧ t.header.alg ∈ validation.algorithms ∧ t.signer = key ∧
      validation.requiredSpecClaims.all t.payload.has = true ∧
      (validation.validateExp &&
        t.payload.exp.any (fun exp => exp + validation.leeway < now)) = false ∧
      validation.iss.any (fun expected => t.payload.iss.any fun iss => !expected.contains iss) =
        false ∧
      (validation.validateAud && validation.aud.any (fun expected =>
        t.payload.aud.any fun aud => !aud.any expected.contains)) = false ∧
      t.payload.claims = some claims := by
  -- Each check of the library returns an error, so a token with claims passed them all.
  unfold knownLibrary at h
  dsimp only at h
  cases ht : known token with
  | none =>
    rw [ht] at h
    cases h
  | some t =>
    rw [ht] at h
    dsimp only at h
    split at h
    · cases h
    rename_i hsigned
    split at h
    · cases h
    rename_i hrequired
    split at h
    · cases h
    rename_i hexp
    split at h
    · cases h
    rename_i hiss
    split at h
    · cases h
    rename_i haud
    rw [Bool.not_eq_true, Bool.not_eq_false', Bool.and_eq_true, List.contains_iff_mem,
      beq_iff_eq] at hsigned
    rw [Bool.not_eq_true, Bool.not_eq_false'] at hrequired
    rw [Bool.not_eq_true] at hexp hiss haud
    cases hclaims : t.payload.claims with
    | none =>
      rw [hclaims] at h
      cases h
    | some found =>
      rw [hclaims] at h
      obtain rfl := Except.ok.inj h
      exact ⟨t, rfl, hsigned.1, hsigned.2, hrequired, hexp, hiss, haud, hclaims⟩

theorem knownLibrary_documented :
    Documented (knownLibrary known) (knownPayload known) (KnownSigned known) where
  signature token key validation now claims h := by
    obtain ⟨t, ht, halg, hsigner, -⟩ := knownLibrary_decode known h
    exact ⟨t.header.alg, halg, t, ht, hsigner, rfl⟩
  deserialized token key validation now claims h := by
    obtain ⟨t, ht, -, -, -, -, -, -, hclaims⟩ := knownLibrary_decode known h
    rw [knownPayload, ht]
    exact hclaims
  required token key validation now claims h name hname := by
    obtain ⟨t, ht, -, -, hrequired, -⟩ := knownLibrary_decode known h
    rw [knownPayload, ht]
    exact List.all_eq_true.mp hrequired name hname
  expiry token key validation now claims h hasked exp hexp := by
    obtain ⟨t, ht, -, -, -, hnot, -⟩ := knownLibrary_decode known h
    rw [knownPayload, ht] at hexp
    rw [hasked, Bool.true_and, show t.payload.exp = some exp from hexp] at hnot
    simpa using hnot
  issuer token key validation now claims h expected iss hexpected hiss := by
    obtain ⟨t, ht, -, -, -, -, hnot, -⟩ := knownLibrary_decode known h
    rw [knownPayload, ht] at hiss
    rw [hexpected, show t.payload.iss = some iss from hiss] at hnot
    simpa using hnot
  audience token key validation now claims h hasked expected aud hexpected haud := by
    obtain ⟨t, ht, -, -, -, -, -, hnot, -⟩ := knownLibrary_decode known h
    rw [knownPayload, ht] at haud
    rw [hasked, Bool.true_and, hexpected, show t.payload.aud = some aud from haud] at hnot
    simpa using hnot

end Known

/-- A verifier with an issuer and an audience. -/
def strictVerifier : KeyVerifier Nat where
  enabled := true
  algorithms := [.EdDSA, .RS256]
  issuer := some "main"
  audience := some "datacat-ingest"
  leeway := 60
  keys := [⟨some "k1", .EdDSA, 7⟩]

/-- A token of the issuer, and one that names neither issuer nor audience and was issued two hours
ahead. -/
def sampleTokens (token : String) : Option KnownToken :=
  if token = "complete" then
    some ⟨⟨.EdDSA, some "k1"⟩, ⟨some 1900, some "main", some ["datacat-ingest"],
      some ⟨"a", "s", none, 1000⟩⟩, 7⟩
  else if token = "bare" then
    some ⟨⟨.EdDSA, none⟩, ⟨some 1900, none, none, some ⟨"a", "s", none, 8200⟩⟩, 7⟩
  else none

theorem verify_guaranteed_iff_complete :
    ∃ header entry claims, Guaranteed strictVerifier (knownLibrary sampleTokens)
      (knownPayload sampleTokens) (KnownSigned sampleTokens) 1000 "complete" header entry claims := by
  have haccepted : strictVerifier.verify (knownLibrary sampleTokens) 1000 "complete" =
      .ok ⟨"a", "s", none⟩ := rfl
  refine (verify_guaranteed_iff (knownLibrary_documented sampleTokens) haccepted).mpr
    ⟨fun _ => rfl, fun _ => rfl, fun claims hclaims => ?_⟩
  obtain rfl : (⟨"a", "s", none, 1000⟩ : Claims) = claims := Option.some.inj hclaims
  decide

/-- A token that names neither issuer nor audience, issued in the future, is accepted. -/
theorem verify_not_guaranteed_bare :
    strictVerifier.verify (knownLibrary sampleTokens) 1000 "bare" = .ok ⟨"a", "s", none⟩ ∧
      Documented (knownLibrary sampleTokens) (knownPayload sampleTokens) (KnownSigned sampleTokens) ∧
      ¬ ∃ header entry claims, Guaranteed strictVerifier (knownLibrary sampleTokens)
        (knownPayload sampleTokens) (KnownSigned sampleTokens) 1000 "bare" header entry claims := by
  refine ⟨rfl, knownLibrary_documented sampleTokens, ?_⟩
  rintro ⟨header, entry, claims, hall⟩
  have hissuer := hall.issuer "main" rfl
  exact absurd hissuer (by decide)

end Datacat.Security
