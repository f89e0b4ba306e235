import Datacat.Basics.Run
import Datacat.Security.Token
import Datacat.Settings

/-!
# The Keys of the Verifier

Where the keys come from: the section of the configuration, the key in it or the set that is
published at an address, and the task that fetches the set again and again while tokens are
verified. Parsing a key is the library's; which keys are kept, and under which algorithm, is the
program's.

## Main results

- `refreshed_eq_new`: after any number of refreshes the verifier is the one that a restart would
  build from the last set that could be used.
- `accepted_trusted`: a token that is accepted at any time is signed by the configured key, or by
  one of that set, with an asymmetric algorithm of the configuration.
-/

namespace Datacat.Security

open Basics Settings

/-! ## Configuration -/

/-- `parse_alg`. -/
def parseAlg : String → Except Contexts Algorithm
  | "EdDSA" | "eddsa" | "Ed25519" => .ok .EdDSA
  | "RS256" | "rs256" => .ok .RS256
  | other => .error ["algorithme non supporté (asymétrique requis): " ++ other]

/-- The algorithms that a configuration can name. -/
def Algorithm.Asymmetric (alg : Algorithm) : Prop := alg = .EdDSA ∨ alg = .RS256

theorem parseAlg_asymmetric {s : String} {alg : Algorithm} (h : parseAlg s = .ok alg) :
    alg.Asymmetric := by
  unfold parseAlg at h
  split at h
  · exact .inl (Except.ok.inj h).symm
  · exact .inl (Except.ok.inj h).symm
  · exact .inl (Except.ok.inj h).symm
  · exact .inr (Except.ok.inj h).symm
  · exact .inr (Except.ok.inj h).symm
  · cases h

inductive KeySource where
  | pem (pem : String) (alg : Algorithm) (kid : Option String)
  | jwks (url : String)

structure TokenConfig where
  enabled : Bool
  keySource : Option KeySource
  algorithms : List Algorithm
  issuer : Option String
  audience : Option String
  leewaySecs : Nat
  /-- In nanoseconds. -/
  jwksRefresh : Nat

structure TokenSection where
  enabled : Bool := true
  algorithms : List String := ["EdDSA", "RS256"]
  issuer : Option String := none
  audience : Option String := none
  leeway : String := "60s"
  jwksRefresh : String := "1h"
  jwksUrl : Option String := none
  publicKeyPem : Option String := none
  publicKeyFile : Option String := none
  alg : String := "EdDSA"
  kid : Option String := none

namespace TokenSection

/-- `pem_alg`: the algorithm of a key has to be one that is accepted. -/
def pemAlg (t : TokenSection) (algorithms : List Algorithm) : Except Contexts Algorithm := do
  let alg ← parseAlg t.alg
  if !algorithms.contains alg then
    .error ["[token].alg = " ++ alg.debug ++ " absent de [token].algorithms ["
      ++ ", ".intercalate (algorithms.map Algorithm.debug) ++ "] : la clé ne serait jamais utilisée"]
  else return alg

/-- Where the keys come from. `readFile` reads a file, or says why it cannot. -/
def keySource (t : TokenSection) (readFile : String → Except String String)
    (algorithms : List Algorithm) : Except Contexts (Option KeySource) :=
  match t.jwksUrl, t.publicKeyPem, t.publicKeyFile with
  | some url, _, _ => return some (.jwks url)
  | none, some pem, _ => do
    let alg ← t.pemAlg algorithms
    return some (.pem pem alg t.kid)
  | none, none, some file => do
    let alg ← t.pemAlg algorithms
    match readFile file with
    | .error e => .error ["lecture de [token].public_key_file = " ++ file, e]
    | .ok pem => return some (.pem pem alg t.kid)
  | none, none, none => return none

/-- `build_token`. -/
def build (t : TokenSection) (readFile : String → Except String String) :
    Except Contexts TokenConfig := do
  let algorithms ← t.algorithms.mapM parseAlg
  if algorithms.isEmpty then .error ["[token].algorithms ne doit pas être vide"]
  else
    let keySource ← t.keySource readFile algorithms
    if t.enabled && keySource.isNone then
      .error ["vérification du token activée mais aucune clé fournie : définir [token].jwks_url, "
        ++ "ou [token].public_key_pem / [token].public_key_file (ou enabled = false en dev)"]
    else
      let leeway ← dur t.leeway "token.leeway"
      let jwksRefresh ← dur t.jwksRefresh "token.jwks_refresh"
      return {
        enabled := t.enabled
        keySource := keySource
        algorithms := algorithms
        issuer := t.issuer
        audience := t.audience
        leewaySecs := leeway / 1000000000
        jwksRefresh := jwksRefresh }

end TokenSection

/-- What the section of an accepted configuration ensures. -/
structure TokenConfig.Sound (cfg : TokenConfig) : Prop where
  asymmetric : ∀ alg ∈ cfg.algorithms, alg.Asymmetric
  some_algorithm : cfg.algorithms ≠ []
  /-- The key of the configuration is one that tokens can select. -/
  pem_listed : ∀ pem alg kid, cfg.keySource = some (.pem pem alg kid) → alg ∈ cfg.algorithms
  keyed : cfg.enabled = true → cfg.keySource.isSome = true

theorem TokenSection.pemAlg_mem {t : TokenSection} {algorithms : List Algorithm} {alg : Algorithm}
    (h : t.pemAlg algorithms = .ok alg) : alg ∈ algorithms := by
  unfold pemAlg at h
  obtain ⟨found, -, h⟩ := Contexts.bind_eq_ok h
  split at h
  · cases h
  · rename_i hcontains
    rw [Bool.not_eq_true, Bool.not_eq_false', List.contains_iff_mem] at hcontains
    rwa [← Except.ok.inj h]

theorem TokenSection.keySource_listed {t : TokenSection} {readFile : String → Except String String}
    {algorithms : List Algorithm} {source : Option KeySource}
    (h : t.keySource readFile algorithms = .ok source) {pem : String} {alg : Algorithm}
    {kid : Option String} (hsource : source = some (.pem pem alg kid)) : alg ∈ algorithms := by
  unfold keySource at h
  split at h
  · rw [← Except.ok.inj h] at hsource
    cases hsource
  · obtain ⟨found, hfound, h⟩ := Contexts.bind_eq_ok h
    rw [← Except.ok.inj h] at hsource
    cases hsource
    exact pemAlg_mem hfound
  · obtain ⟨found, hfound, h⟩ := Contexts.bind_eq_ok h
    split at h
    · cases h
    · rw [← Except.ok.inj h] at hsource
      cases hsource
      exact pemAlg_mem hfound
  · rw [← Except.ok.inj h] at hsource
    cases hsource

theorem TokenSection.build_sound {t : TokenSection} {readFile : String → Except String String}
    {cfg : TokenConfig} (h : t.build readFile = .ok cfg) : cfg.Sound := by
  unfold build at h
  obtain ⟨algorithms, halgorithms, h⟩ := Contexts.bind_eq_ok h
  split at h
  · cases h
  rename_i hnonempty
  obtain ⟨source, hsource, h⟩ := Contexts.bind_eq_ok h
  split at h
  · cases h
  rename_i hkeyed
  obtain ⟨leeway, -, h⟩ := Contexts.bind_eq_ok h
  obtain ⟨jwksRefresh, -, h⟩ := Contexts.bind_eq_ok h
  obtain rfl := Except.ok.inj h
  refine ⟨?_, fun hnil => hnonempty (List.isEmpty_iff.mpr hnil), fun pem alg kid heq => ?_,
    fun henabled => ?_⟩
  · -- Each algorithm was parsed from a name.
    intro alg hmem
    obtain ⟨name, -, hname⟩ := Contexts.exists_of_mapM halgorithms hmem
    exact parseAlg_asymmetric hname
  · exact keySource_listed hsource heq
  · dsimp only at henabled ⊢
    rw [henabled, Bool.true_and, Option.isNone_iff_eq_none] at hkeyed
    exact Option.isSome_iff_ne_none.mpr hkeyed

/-! ## Keys -/

/-- `AlgorithmParameters`, the kinds that are told apart. -/
inductive AlgorithmParameters where
  | ellipticCurve
  | rsa
  | octetKeyPair
  /-- A symmetric key. -/
  | octetKey
deriving DecidableEq

/-- `Jwk`, with the material of the key as the library reads it. -/
structure Jwk where
  keyId : Option String
  parameters : AlgorithmParameters
  material : String

/-- `DecodingKey`, the constructors that are used. -/
structure KeyLibrary (κ : Type) where
  fromEdPem : String → Except String κ
  fromRsaPem : String → Except String κ
  fromJwk : Jwk → Except String κ

/-- What a request for the published set gives: a set, or why there is none. -/
abbrev Answer := Except Contexts (List Jwk)

variable {κ : Type}

/-- A result of the library, with the context that is put around its error. -/
def KeyLibrary.wrap (text : String) (result : Except String κ) : Except Contexts κ :=
  Contexts.wrap text (result.mapError fun e => [e])

/-- `build_pem_key`. -/
def buildPemKey (library : KeyLibrary κ) (pem : String) (alg : Algorithm) (kid : Option String) :
    Except Contexts (KeyEntry κ) :=
  match alg with
  | .EdDSA => do
    let key ← KeyLibrary.wrap "clé publique Ed25519 (PEM) invalide" (library.fromEdPem pem)
    return ⟨kid, .EdDSA, key⟩
  | .RS256 => do
    let key ← KeyLibrary.wrap "clé publique RSA (PEM) invalide" (library.fromRsaPem pem)
    return ⟨kid, .RS256, key⟩
  | other => .error ["algorithme non supporté pour une clé PEM: " ++ other.debug]

/-- The algorithm that a published key is used with; none for a key that is passed over. -/
def Jwk.algorithm (jwk : Jwk) : Option Algorithm :=
  match jwk.parameters with
  | .octetKeyPair => some .EdDSA
  | .rsa => some .RS256
  | _ => none

theorem Jwk.algorithm_asymmetric {jwk : Jwk} {alg : Algorithm} (h : jwk.algorithm = some alg) :
    alg.Asymmetric := by
  unfold algorithm at h
  split at h
  · exact .inl (Option.some.inj h).symm
  · exact .inr (Option.some.inj h).symm
  · cases h

/-- The loop of `fetch_jwks`. -/
def jwksEntries (library : KeyLibrary κ) : List Jwk → Except Contexts (List (KeyEntry κ))
  | [] => return []
  | jwk :: rest =>
    match jwk.algorithm with
    | none => jwksEntries library rest
    | some alg => do
      let key ← KeyLibrary.wrap "clé JWKS invalide" (library.fromJwk jwk)
      let entries ← jwksEntries library rest
      return ⟨jwk.keyId, alg, key⟩ :: entries

/-- `fetch_jwks`, once the request is answered. -/
def fetchJwks (library : KeyLibrary κ) (answer : Answer) : Except Contexts (List (KeyEntry κ)) := do
  let set ← answer
  let entries ← jwksEntries library set
  if entries.isEmpty then .error ["JWKS ne contient aucune clé asymétrique exploitable"]
  else return entries

namespace KeyVerifier

/-- The keys at the start; `answer` is what the first request for the set gives. -/
def initialKeys (library : KeyLibrary κ) (answer : Answer) :
    Option KeySource → Except Contexts (List (KeyEntry κ))
  | none => return []
  | some (.pem pem alg kid) => do
    let entry ← buildPemKey library pem alg kid
    return [entry]
  | some (.jwks _) => fetchJwks library answer

/-- `TokenVerifier::new`. -/
def new (library : KeyLibrary κ) (answer : Answer) (cfg : TokenConfig) :
    Except Contexts (KeyVerifier κ) := do
  let keys ← initialKeys library answer cfg.keySource
  return {
    enabled := cfg.enabled
    algorithms := cfg.algorithms
    issuer := cfg.issuer
    audience := cfg.audience
    leeway := cfg.leewaySecs
    keys := keys }

/-- One turn of `spawn_refresh`: a set that cannot be used leaves the keys as they are. -/
def refresh (library : KeyLibrary κ) (v : KeyVerifier κ) (answer : Answer) : KeyVerifier κ :=
  match fetchJwks library answer with
  | .ok keys => { v with keys := keys }
  | .error _ => v

end KeyVerifier

/-! ## Which key is which -/

/-- A key comes from a published one. -/
def Jwk.Gives (library : KeyLibrary κ) (jwk : Jwk) (entry : KeyEntry κ) : Prop :=
  jwk.algorithm = some entry.alg ∧ library.fromJwk jwk = .ok entry.key ∧ entry.kid = jwk.keyId

theorem KeyLibrary.wrap_eq_ok {text : String} {result : Except String κ} {key : κ}
    (h : KeyLibrary.wrap text result = .ok key) : result = .ok key := by
  have hmap := Contexts.wrap_eq_ok h
  cases result with
  | error e => cases hmap
  | ok found => exact congrArg Except.ok (Except.ok.inj hmap)

theorem gives_of_jwksEntries {library : KeyLibrary κ} {set : List Jwk} {entries : List (KeyEntry κ)}
    (h : jwksEntries library set = .ok entries) {entry : KeyEntry κ} (hentry : entry ∈ entries) :
    ∃ jwk ∈ set, jwk.Gives library entry := by
  induction set generalizing entries with
  | nil =>
    obtain rfl := Except.ok.inj h
    cases hentry
  | cons jwk rest ih =>
    rw [jwksEntries] at h
    cases halg : jwk.algorithm with
    | none =>
      rw [halg] at h
      obtain ⟨found, hfound, hgives⟩ := ih h hentry
      exact ⟨found, List.mem_cons_of_mem _ hfound, hgives⟩
    | some alg =>
      rw [halg] at h
      obtain ⟨key, hkey, h⟩ := Contexts.bind_eq_ok h
      obtain ⟨others, hothers, h⟩ := Contexts.bind_eq_ok h
      obtain rfl := Except.ok.inj h
      rcases List.mem_cons.mp hentry with rfl | hentry
      · exact ⟨jwk, List.mem_cons_self, halg, KeyLibrary.wrap_eq_ok hkey, rfl⟩
      · obtain ⟨found, hfound, hgives⟩ := ih hothers hentry
        exact ⟨found, List.mem_cons_of_mem _ hfound, hgives⟩

theorem fetchJwks_eq_ok {library : KeyLibrary κ} {answer : Answer} {entries : List (KeyEntry κ)}
    (h : fetchJwks library answer = .ok entries) :
    ∃ set, answer = .ok set ∧ jwksEntries library set = .ok entries := by
  unfold fetchJwks at h
  obtain ⟨set, hset, h⟩ := Contexts.bind_eq_ok h
  obtain ⟨found, hfound, h⟩ := Contexts.bind_eq_ok h
  split at h
  · cases h
  · obtain rfl := Except.ok.inj h
    exact ⟨set, hset, hfound⟩

theorem buildPemKey_eq_ok {library : KeyLibrary κ} {pem : String} {alg : Algorithm}
    {kid : Option String} {entry : KeyEntry κ} (h : buildPemKey library pem alg kid = .ok entry) :
    alg.Asymmetric ∧ entry.alg = alg ∧ entry.kid = kid := by
  unfold buildPemKey at h
  split at h
  · obtain ⟨key, -, h⟩ := Contexts.bind_eq_ok h
    obtain rfl := Except.ok.inj h
    exact ⟨.inl rfl, rfl, rfl⟩
  · obtain ⟨key, -, h⟩ := Contexts.bind_eq_ok h
    obtain rfl := Except.ok.inj h
    exact ⟨.inr rfl, rfl, rfl⟩
  · cases h

/-! ## Refreshes -/

/-- What happens to a running verifier: an answer of the address of the set, or a token. -/
inductive KeyEvent where
  | fetched (answer : Answer)
  | verified (now : Nat) (token : String) (answer : Except String VerifiedToken)

/-- The refresh task runs only where the keys are published. -/
inductive KeyStep (library : KeyLibrary κ) (jwt : JwtLibrary κ) (cfg : TokenConfig) :
    KeyVerifier κ → KeyEvent → KeyVerifier κ → Prop where
  | fetched {v : KeyVerifier κ} {url : String} (answer : Answer) :
      cfg.keySource = some (.jwks url) →
      KeyStep library jwt cfg v (.fetched answer) (v.refresh library answer)
  | verified {v : KeyVerifier κ} (now : Nat) (token : String) :
      KeyStep library jwt cfg v (.verified now token (v.verify jwt now token)) v

def KeyEvent.answer? : KeyEvent → Option Answer
  | .fetched answer => some answer
  | .verified .. => none

/-- The answers of a history, the one at the start first. -/
def answers (first : Answer) (events : List KeyEvent) : List Answer :=
  first :: events.filterMap KeyEvent.answer?

/-- The last of the answers that could be used. -/
def LastUsable (library : KeyLibrary κ) (history : List Answer) (answer : Answer) : Prop :=
  ∃ before after, history = before ++ answer :: after ∧
    (∃ entries, fetchJwks library answer = .ok entries) ∧
    ∀ later ∈ after, ∃ e, fetchJwks library later = .error e

theorem LastUsable.snoc_error {library : KeyLibrary κ} {history : List Answer} {answer later : Answer}
    (h : LastUsable library history answer) {e : Contexts}
    (he : fetchJwks library later = .error e) : LastUsable library (history ++ [later]) answer := by
  obtain ⟨before, after, rfl, husable, hafter⟩ := h
  refine ⟨before, after ++ [later], by simp, husable, ?_⟩
  intro x hx
  rcases List.mem_append.mp hx with hx | hx
  · exact hafter x hx
  · rw [List.mem_singleton.mp hx]
    exact ⟨e, he⟩

theorem LastUsable.snoc_ok {library : KeyLibrary κ} (history : List Answer) {later : Answer}
    {entries : List (KeyEntry κ)} (h : fetchJwks library later = .ok entries) :
    LastUsable library (history ++ [later]) later :=
  ⟨history, [], rfl, ⟨entries, h⟩, List.forall_mem_nil _⟩

/-- The answer that the keys come from: the one at the start, where they are configured. -/
def Current (library : KeyLibrary κ) (cfg : TokenConfig) (first : Answer) (events : List KeyEvent)
    (answer : Answer) : Prop :=
  (∃ url, cfg.keySource = some (.jwks url)) → LastUsable library (answers first events) answer

theorem KeyVerifier.new_eq {library : KeyLibrary κ} {cfg : TokenConfig} (answer : Answer) :
    KeyVerifier.new library answer cfg = (initialKeys library answer cfg.keySource).map fun keys =>
      ⟨cfg.enabled, cfg.algorithms, cfg.issuer, cfg.audience, cfg.leewaySecs, keys⟩ := by
  unfold new
  cases initialKeys library answer cfg.keySource with
  | error e => rfl
  | ok keys => rfl

theorem KeyVerifier.new_jwks {library : KeyLibrary κ} {cfg : TokenConfig} {url : String}
    (hsource : cfg.keySource = some (.jwks url)) (answer : Answer) :
    KeyVerifier.new library answer cfg = (fetchJwks library answer).map fun keys =>
      ⟨cfg.enabled, cfg.algorithms, cfg.issuer, cfg.audience, cfg.leewaySecs, keys⟩ := by
  rw [new_eq, hsource]
  rfl

/-- Once built, a verifier differs from another of the same configuration in its keys. -/
theorem KeyVerifier.refresh_eq_new {library : KeyLibrary κ} {cfg : TokenConfig} {url : String}
    {answer later : Answer} {v : KeyVerifier κ} {entries : List (KeyEntry κ)}
    (hsource : cfg.keySource = some (.jwks url)) (h : KeyVerifier.new library answer cfg = .ok v)
    (hlater : fetchJwks library later = .ok entries) :
    KeyVerifier.new library later cfg = .ok (v.refresh library later) := by
  rw [new_jwks hsource] at h ⊢
  unfold refresh
  rw [hlater]
  cases hkeys : fetchJwks library answer with
  | error e =>
    rw [hkeys] at h
    cases h
  | ok keys =>
    rw [hkeys] at h
    obtain rfl := Except.ok.inj h
    rfl

section Runs

variable {library : KeyLibrary κ} {jwt : JwtLibrary κ} {cfg : TokenConfig} {first : Answer}
  {v v' : KeyVerifier κ}

/-- After any number of refreshes, good or bad, the verifier is the one that a restart would build
from the last set that could be used. -/
theorem refreshed_eq_new {events : List KeyEvent} (hnew : KeyVerifier.new library first cfg = .ok v)
    (h : Run (KeyStep library jwt cfg) v events v') :
    ∃ answer, Current library cfg first events answer ∧
      KeyVerifier.new library answer cfg = .ok v' := by
  induction h with
  | nil =>
    refine ⟨first, ?_, hnew⟩
    rintro ⟨url, hsource⟩
    rw [KeyVerifier.new_jwks hsource] at hnew
    cases hkeys : fetchJwks library first with
    | error e =>
      rw [hkeys] at hnew
      cases hnew
    | ok keys => exact LastUsable.snoc_ok [] hkeys
  | @snoc events s s' event _ hstep ih =>
    obtain ⟨answer, hcurrent, hs⟩ := ih
    have hanswers : ∀ e : KeyEvent, answers first (events ++ [e]) =
        answers first events ++ e.answer?.toList := by
      intro e
      unfold answers
      rw [List.filterMap_append, List.cons_append]
      cases e <;> rfl
    cases hstep with
    | verified now token =>
      refine ⟨answer, fun hsource => ?_, hs⟩
      rw [hanswers]
      exact (List.append_nil _).symm ▸ hcurrent hsource
    | fetched later hsource =>
      cases hkeys : fetchJwks library later with
      | error e =>
        -- The keys stay those of the earlier answer.
        refine ⟨answer, fun hjwks => ?_, ?_⟩
        · rw [hanswers]
          exact (hcurrent hjwks).snoc_error hkeys
        · unfold KeyVerifier.refresh
          rw [hkeys]
          exact hs
      | ok entries =>
        refine ⟨later, fun _ => ?_, KeyVerifier.refresh_eq_new hsource hs hkeys⟩
        rw [hanswers]
        exact LastUsable.snoc_ok _ hkeys

/-- A key that tokens may be verified with when the keys come from this answer: the configured one,
or one of the set. -/
inductive Trusted (library : KeyLibrary κ) (cfg : TokenConfig) (answer : Answer) :
    KeyEntry κ → Prop where
  | pem {pem : String} {alg : Algorithm} {kid : Option String} {entry : KeyEntry κ} :
      cfg.keySource = some (.pem pem alg kid) → buildPemKey library pem alg kid = .ok entry →
      Trusted library cfg answer entry
  | jwks {url : String} {set : List Jwk} {jwk : Jwk} {entry : KeyEntry κ} :
      cfg.keySource = some (.jwks url) → answer = .ok set → jwk ∈ set →
      jwk.Gives library entry → Trusted library cfg answer entry

theorem trusted_of_new {answer : Answer} (h : KeyVerifier.new library answer cfg = .ok v)
    {entry : KeyEntry κ} (hentry : entry ∈ v.keys) :
    Trusted library cfg answer entry ∧ entry.alg.Asymmetric := by
  obtain ⟨keys, hkeys, h⟩ := Contexts.bind_eq_ok h
  obtain rfl := Except.ok.inj h
  cases hsource : cfg.keySource with
  | none =>
    rw [hsource] at hkeys
    obtain rfl := Except.ok.inj hkeys
    cases hentry
  | some source =>
    rw [hsource] at hkeys
    cases source with
    | pem pem alg kid =>
      obtain ⟨found, hfound, hkeys⟩ := Contexts.bind_eq_ok hkeys
      obtain rfl := Except.ok.inj hkeys
      obtain rfl := List.mem_singleton.mp hentry
      obtain ⟨hasymmetric, halg, -⟩ := buildPemKey_eq_ok hfound
      exact ⟨.pem hsource hfound, halg ▸ hasymmetric⟩
    | jwks url =>
      obtain ⟨set, hset, hentries⟩ := fetchJwks_eq_ok hkeys
      obtain ⟨jwk, hjwk, hgives⟩ := gives_of_jwksEntries hentries hentry
      exact ⟨.jwks hsource hset hjwk hgives, Jwk.algorithm_asymmetric hgives.1⟩

theorem KeyVerifier.new_fields {answer : Answer} (h : KeyVerifier.new library answer cfg = .ok v) :
    v.algorithms = cfg.algorithms ∧ v.leeway = cfg.leewaySecs := by
  obtain ⟨keys, -, h⟩ := Contexts.bind_eq_ok h
  obtain rfl := Except.ok.inj h
  exact ⟨rfl, rfl⟩

variable {payload : String → Payload} {signed : String → κ → Algorithm → Prop}

/-- **Accepted tokens.** Whatever the address of the set answers and however often it is asked, a
token that is accepted is signed by the configured key or by one of the last set that could be
used, with an asymmetric algorithm of the configuration, and has not expired. -/
theorem accepted_trusted {t : TokenSection} {readFile : String → Except String String}
    {before after : List KeyEvent} {now : Nat} {token : String} {identity : VerifiedToken}
    (hcfg : t.build readFile = .ok cfg) (hnew : KeyVerifier.new library first cfg = .ok v)
    (hjwt : Documented jwt payload signed)
    (h : Run (KeyStep library jwt cfg) v (before ++ .verified now token (.ok identity) :: after)
      v') :
    ∃ answer header entry, Current library cfg first before answer ∧
      Trusted library cfg answer entry ∧ jwt.decodeHeader token = .ok header ∧
      entry.alg = header.alg ∧ (∀ name, header.kid = some name → entry.kid = some name) ∧
      header.alg.Asymmetric ∧ header.alg ∈ cfg.algorithms ∧ signed token entry.key header.alg ∧
      ∃ exp, (payload token).exp = some exp ∧ now ≤ exp + cfg.leewaySecs := by
  obtain ⟨mid, hmid, hrest⟩ := Run.append_iff.mp h
  obtain ⟨next, hstep, -⟩ := Run.cons_iff.mp hrest
  -- The verifier that accepts is one built from the last set that could be used.
  obtain ⟨answer, hcurrent, hbuilt⟩ := refreshed_eq_new hnew hmid
  obtain ⟨halgorithms, hleeway⟩ := KeyVerifier.new_fields hbuilt
  have haccepted : mid.verify jwt now token = .ok identity := by
    generalize hevent : KeyEvent.verified now token (.ok identity) = event at hstep
    cases hstep with
    | fetched later hsource => cases hevent
    | verified now' token' =>
      obtain ⟨rfl, rfl, hanswer⟩ := KeyEvent.verified.inj hevent
      exact hanswer.symm
  obtain ⟨header, entry, claims, hheader, hallowed, hkey, hdecode, -, -, -⟩ := verify_ok haccepted
  obtain ⟨hlisted, halg, hkid⟩ := selectKey_spec hkey
  rw [halgorithms] at hallowed
  refine ⟨answer, header, entry, hcurrent, (trusted_of_new hbuilt hlisted).1, hheader, halg, hkid,
    (TokenSection.build_sound hcfg).asymmetric _ hallowed, hallowed, ?_, ?_⟩
  · -- The only algorithm that the library may use is the one of the header.
    obtain ⟨alg, hmem, hsigned⟩ := hjwt.signature _ _ _ _ _ hdecode
    obtain rfl : alg = header.alg := List.mem_singleton.mp hmem
    exact hsigned
  · have hpresent : (payload token).exp.isSome = true :=
      hjwt.required _ _ _ _ _ hdecode "exp" (List.mem_singleton_self _)
    obtain ⟨exp, hexp⟩ := Option.isSome_iff_exists.mp hpresent
    rw [← hleeway]
    exact ⟨exp, hexp, hjwt.expiry _ _ _ _ _ hdecode rfl exp hexp⟩

end Runs

/-! ## A key that is rotated -/

section Sample

/-- A library whose keys are numbers written out. -/
def numberedKeys : KeyLibrary Nat where
  fromEdPem pem := .ok pem.length
  fromRsaPem pem := .ok pem.length
  fromJwk jwk := .ok jwk.material.length

def rotatingSection : TokenSection where
  issuer := some "main"
  audience := some "datacat-ingest"
  jwksUrl := some "https://keys"

def rotatingConfig : TokenConfig where
  enabled := true
  keySource := some (.jwks "https://keys")
  algorithms := [.EdDSA, .RS256]
  issuer := some "main"
  audience := some "datacat-ingest"
  leewaySecs := 60
  jwksRefresh := 3600 * 1000000000

/-- The set before the rotation, and the one after it, next to a symmetric key. -/
def oldSet : List Jwk := [⟨some "k0", .octetKeyPair, "six---"⟩]

def newSet : List Jwk := [⟨some "k1", .octetKey, "seven--"⟩, ⟨some "k1", .octetKeyPair, "seven--"⟩]

/-- The address is asked three times, and gives no set that can be used the last two. -/
def rotation : List KeyEvent :=
  [.fetched (.ok newSet), .fetched (.error ["timeout"]), .fetched (.ok [])]

def rotatingVerifier (keys : List (KeyEntry Nat)) : KeyVerifier Nat :=
  ⟨true, [.EdDSA, .RS256], some "main", some "datacat-ingest", 60, keys⟩

theorem accepted_trusted_rotated :
    ∃ answer header entry, Current numberedKeys rotatingConfig (.ok oldSet) rotation answer ∧
      Trusted numberedKeys rotatingConfig answer entry ∧
      (knownLibrary sampleTokens).decodeHeader "complete" = .ok header ∧
      entry.alg = header.alg ∧ (∀ name, header.kid = some name → entry.kid = some name) ∧
      header.alg.Asymmetric ∧ header.alg ∈ rotatingConfig.algorithms ∧
      KnownSigned sampleTokens "complete" entry.key header.alg ∧
      ∃ exp, (knownPayload sampleTokens "complete").exp = some exp ∧
        1000 ≤ exp + rotatingConfig.leewaySecs := by
  have hcfg : rotatingSection.build (fun _ => .error "absent") = .ok rotatingConfig := rfl
  have hnew : KeyVerifier.new numberedKeys (.ok oldSet) rotatingConfig =
      .ok (rotatingVerifier [⟨some "k0", .EdDSA, 6⟩]) := rfl
  have hjwks : rotatingConfig.keySource = some (.jwks "https://keys") := rfl
  -- The first answer brings the new key, and the two others change nothing.
  have hrun : Run (KeyStep numberedKeys (knownLibrary sampleTokens) rotatingConfig)
      (rotatingVerifier [⟨some "k0", .EdDSA, 6⟩])
      (rotation ++ .verified 1000 "complete" (.ok ⟨"a", "s", none⟩) :: [])
      (rotatingVerifier [⟨some "k1", .EdDSA, 7⟩]) :=
    Run.cons_iff.mpr ⟨_, .fetched _ hjwks, Run.cons_iff.mpr ⟨_, .fetched _ hjwks,
      Run.cons_iff.mpr ⟨_, .fetched _ hjwks, Run.single (.verified 1000 "complete")⟩⟩⟩
  exact accepted_trusted hcfg hnew (knownLibrary_documented sampleTokens) hrun

end Sample

end Datacat.Security
