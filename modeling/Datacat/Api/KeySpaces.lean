import Datacat.Api.Isolation
import Datacat.Ingest.Refusals
import Datacat.Security.OwnBucket

/-!
# Keys of the Limiter

The endpoint of events and the intakes of services share one limiter. Events are charged to the
session of their token, services to the name that they give themselves, and both to the text of the
address where there is neither. The limiter sees texts only: a service named after a session is
charged to the bucket of that session.

## Main results

- `verdicts_eq_alone`: where the other side stays away from the key, the bucket of a key is as if it
  were asked by its own side alone.
- `verdicts_eq_of_apart`: two runs with the same requests of one side, and none of the other side
  for the key, give the same verdicts.
-/

namespace Datacat.Api.KeySpaces

open Basics Security Ingest Events
open RateLimiter

/-! ## Requests that reach the limiter -/

inductive Side where
  | events
  | otlp
deriving DecidableEq

def Side.other : Side → Side
  | events => otlp
  | otlp => events

/-- A request as it reaches the limiter, or the periodic purge. -/
inductive Visit where
  | events (call : Call) (body : IngestBody)
  | otlp (d : Signal) (call : Call) (stored : List d.Row)
  | prune (now : Nat)

def Visit.side : Visit → Option Side
  | .events .. => some .events
  | .otlp .. => some .otlp
  | .prune _ => none

/-- The visits that are not of the other side. -/
def ownVisits (side : Side) (visits : List Visit) : List Visit :=
  visits.filter fun v => decide (v.side ≠ some side.other)

/-- What the limiter is asked for. -/
structure Demand where
  now : Nat
  ip : IpAddr
  key : String
  size : UInt32
deriving DecidableEq

section Visits

variable [FloatFormat] (verifier : TokenVerifier) (limits : ValidationLimits)

/-- What the handlers ask for a request: nothing when its token is refused. -/
def Visit.demand : Visit → Option Demand
  | .events call body =>
    (sessionKey verifier call body).toOption.map fun key =>
      ⟨call.now, call.ip, key, .ofNat body.events.length⟩
  | .otlp d call stored =>
    some ⟨call.now, call.ip,
      serviceKey d call.ip (withinSize stored limits.maxOtlpRecordBytes d.contentBytes),
      charge stored.length⟩
  | .prune _ => none

/-- The limiter after a visit. -/
def serve (l : RateLimiter) (v : Visit) : RateLimiter :=
  match v with
  | .prune now => l.prune now
  | v =>
    match v.demand verifier limits with
    | some q => (l.check q.now q.ip q.key q.size).2
    | none => l

/-- The demand of a visit of a side, when it is for the key. -/
def Visit.demandFor (side : Side) (key : String) (v : Visit) : Option Demand :=
  if v.side = some side then (v.demand verifier limits).filter fun q => decide (q.key = key)
  else none

/-- What the session step answers to the requests of a side for a key. -/
def verdicts (side : Side) (key : String) : RateLimiter → List Visit → List (Option Decision)
  | _, [] => []
  | l, v :: visits =>
    let rest := verdicts side key (serve verifier limits l v) visits
    match v.demandFor verifier limits side key with
    | some q => (l.sessionStep q.now q.key (cost q.size)).1 :: rest
    | none => rest

/-- The map of the sessions has a place for each of them. -/
def Roomy (side : Side) (key : String) : RateLimiter → List Visit → Prop
  | _, [] => True
  | l, v :: visits =>
    ((v.demandFor verifier limits side key).isSome → l.Admits key) ∧
      Roomy side key (serve verifier limits l v) visits

instance decidableRoomy (side : Side) (key : String) :
    (l : RateLimiter) → (visits : List Visit) →
      Decidable (Roomy verifier limits side key l visits)
  | _, [] => inferInstanceAs (Decidable True)
  | l, v :: visits =>
    have := decidableRoomy side key (serve verifier limits l v) visits
    inferInstanceAs (Decidable (((v.demandFor verifier limits side key).isSome → l.Admits key) ∧ _))

/-- No request of the other side is for the key. -/
def Apart (side : Side) (key : String) (visits : List Visit) : Prop :=
  ∀ v ∈ visits, v.demandFor verifier limits side.other key = none

instance (side : Side) (key : String) (visits : List Visit) :
    Decidable (Apart verifier limits side key visits) :=
  inferInstanceAs (Decidable (∀ v ∈ visits, _))

/-! ## The handlers -/

variable {verifier limits}

/-- An intake asks what `demand` says, unless there are too many records. -/
theorem limiter_accept_eq {d : Signal} {s : AppState} {call : Call} {stored : List d.Row}
    {droppedSkew : Nat} (h : stored.length ≤ s.config.maxLogsRecords.toNat) :
    (accept d s call stored droppedSkew).2.limiter =
      serve s.verifier s.config.limits s.limiter (.otlp d call stored) :=
  limiter_accept h

/-- A request of events is refused before, or it asks what `demand` says. -/
theorem limiter_ingestEvents_eq (s : AppState) (call : Call) (body : Option IngestBody)
    (limits : ValidationLimits) :
    (ingestEvents s call body).2.limiter = s.limiter ∨
      ∃ b, body = some b ∧ (ingestEvents s call body).2.limiter =
        serve s.verifier limits s.limiter (.events call b) := by
  have hcharged := ingestEvents_charged s call body
  generalize (ingestEvents s call body).2.limiter = limiter at hcharged ⊢
  cases hcharged with
  | notAsked => exact .inl rfl
  | @asked body key hkey =>
    refine .inr ⟨body, rfl, ?_⟩
    unfold serve Visit.demand
    dsimp only
    rw [hkey]
    rfl

end Visits

/-! ## The bucket of a key -/

section Bucket

variable {key : String} {l alone shared : RateLimiter} {q : Demand}

/-- What the bucket of the key answers. -/
def bucketVerdict (l : RateLimiter) (q : Demand) : Option Decision :=
  let bucket := (l.sessionState q.now q.key).bucket
  if cost q.size ≤ bucket.available q.now then none
  else some (deny .session (bucket.wait (cost q.size - bucket.available q.now)))

theorem sessionStep_eq_bucketVerdict (h : l.Admits q.key) :
    (l.sessionStep q.now q.key (cost q.size)).1 = bucketVerdict l q := by
  unfold bucketVerdict
  dsimp only
  split
  · rename_i hn
    rw [sessionStep_granted h hn]
  · rename_i hn
    rw [sessionStep_refused h (not_le.mp hn)]

theorem Mirrors.asked (h : Mirrors key alone shared) {ip : IpAddr} {now : Nat} {n : UInt32}
    (hadmits : shared.Admits key) :
    Mirrors key (alone.spend key now n) (shared.check now ip key n).2 := by
  have hcheck := checked shared now ip key n
  refine ⟨hcheck.frame.1.trans h.cfg, ?_⟩
  rw [hcheck.frame.2, get_spend, ← h.sessionState]
  rcases le_or_gt (cost n) ((shared.sessionState now key).bucket.available now) with hn | hn
  · rw [sessionStep_granted hadmits hn]
    exact get_spend shared key now n
  · rw [sessionStep_refused hadmits hn]
    exact get_spend shared key now n

theorem bucketVerdict_eq (h : Mirrors key alone shared) (hkey : q.key = key) :
    bucketVerdict shared q = bucketVerdict alone q := by
  unfold bucketVerdict
  rw [hkey, h.sessionState]

end Bucket

/-! ## A key alone with its side -/

section Sides

variable {side : Side} {v : Visit} {visits : List Visit}

theorem other_ne (side : Side) : side.other ≠ side := by
  cases side <;> decide

theorem side_cases (v : Visit) (side : Side) :
    v.side = none ∨ v.side = some side ∨ v.side = some side.other := by
  cases v with
  | prune now => exact .inl rfl
  | events call body => cases side <;> simp [Visit.side, Side.other]
  | otlp d call stored => cases side <;> simp [Visit.side, Side.other]

theorem ownVisits_cons_of_ne (h : v.side ≠ some side.other) :
    ownVisits side (v :: visits) = v :: ownVisits side visits :=
  List.filter_cons_of_pos (decide_eq_true h)

theorem ownVisits_cons_of_other (h : v.side = some side.other) :
    ownVisits side (v :: visits) = ownVisits side visits :=
  List.filter_cons_of_neg fun hne => of_decide_eq_true hne h

end Sides

section Alone

variable [FloatFormat] {verifier : TokenVerifier} {limits : ValidationLimits} {side : Side}
  {key : String} {l alone shared : RateLimiter} {v : Visit} {q : Demand} {visits visits' : List Visit}

/-- The verdicts of the bucket when nobody else is served. -/
def aloneVerdicts (verifier : TokenVerifier) (limits : ValidationLimits) (side : Side)
    (key : String) : RateLimiter → List Visit → List (Option Decision)
  | _, [] => []
  | l, v :: visits =>
    match v.demandFor verifier limits side key, v with
    | some q, _ =>
      bucketVerdict l q :: aloneVerdicts verifier limits side key (l.spend key q.now q.size) visits
    | none, .prune now => aloneVerdicts verifier limits side key (l.prune now) visits
    | none, _ => aloneVerdicts verifier limits side key l visits

theorem demandFor_eq_some (h : v.demandFor verifier limits side key = some q) :
    v.side = some side ∧ v.demand verifier limits = some q ∧ q.key = key := by
  unfold Visit.demandFor at h
  split at h
  · rename_i hside
    obtain ⟨hdemand, hkey⟩ := Option.filter_eq_some_iff.mp h
    exact ⟨hside, hdemand, of_decide_eq_true hkey⟩
  · cases h

/-- A demand of a side that is not for the key is for another one. -/
theorem key_ne_of_demandFor (hnone : v.demandFor verifier limits side key = none)
    (hside : v.side = some side) (hdemand : v.demand verifier limits = some q) : key ≠ q.key := by
  rintro rfl
  unfold Visit.demandFor at hnone
  rw [if_pos hside, hdemand, Option.filter_some, if_pos (decide_eq_true rfl)] at hnone
  cases hnone

theorem serve_of_demand (h : v.demand verifier limits = some q) (l : RateLimiter) :
    serve verifier limits l v = (l.check q.now q.ip q.key q.size).2 := by
  unfold serve
  cases v with
  | prune now => cases h
  | events call body =>
    dsimp only
    rw [h]
  | otlp d call stored =>
    dsimp only
    rw [h]

/-- A visit that is not for the key leaves its bucket, the purge apart. -/
theorem mirrors_serve (h : Mirrors key alone shared) (hprune : v.side ≠ none)
    (hnot : ∀ q, v.demand verifier limits = some q → key ≠ q.key) :
    Mirrors key alone (serve verifier limits shared v) := by
  cases hdemand : v.demand verifier limits with
  | some q =>
    rw [serve_of_demand hdemand]
    exact h.other (checked shared q.now q.ip q.key q.size) (hnot q hdemand)
  | none =>
    unfold serve
    cases v with
    | prune now => exact absurd rfl hprune
    | events call body =>
      dsimp only
      rw [hdemand]
      exact h
    | otlp d call stored => cases hdemand

/-- **The bucket of a key.** With places for its requests and none of the other side for the key, the
verdicts are those of a bucket that only its own side asks. -/
theorem verdicts_eq_alone (hmirrors : Mirrors key alone shared)
    (hroom : Roomy verifier limits side key shared visits)
    (hapart : Apart verifier limits side key visits) :
    verdicts verifier limits side key shared visits =
      aloneVerdicts verifier limits side key alone (ownVisits side visits) := by
  induction visits generalizing alone shared with
  | nil => rfl
  | cons v visits ih =>
    obtain ⟨hadmits, hroom⟩ := hroom
    have hrest : Apart verifier limits side key visits :=
      fun w hw => hapart w (List.mem_cons_of_mem _ hw)
    rcases side_cases v side with hside | hside | hside
    · -- The purge is seen by both.
      obtain ⟨now, rfl⟩ : ∃ now, v = .prune now := by
        cases v with
        | prune now => exact ⟨now, rfl⟩
        | events call body => cases hside
        | otlp d call stored => cases hside
      have hown : (Visit.prune now).side ≠ some side.other := nofun
      rw [ownVisits_cons_of_ne hown]
      exact ih (hmirrors.prune now) hroom hrest
    · have hown : v.side ≠ some side.other := by
        rw [hside]
        exact fun heq => other_ne side (Option.some.inj heq).symm
      rw [ownVisits_cons_of_ne hown]
      unfold verdicts aloneVerdicts
      cases hfor : v.demandFor verifier limits side key with
      | some q =>
        obtain ⟨-, hdemand, rfl⟩ := demandFor_eq_some hfor
        have hroomy := hadmits (Option.isSome_iff_exists.mpr ⟨q, hfor⟩)
        dsimp only
        rw [sessionStep_eq_bucketVerdict hroomy, bucketVerdict_eq hmirrors rfl]
        rw [serve_of_demand hdemand] at hroom ⊢
        rw [ih (Mirrors.asked hmirrors hroomy) hroom hrest]
      | none =>
        -- A request of the same side for another key.
        have hne : v.side ≠ none := by
          rw [hside]
          nofun
        have hserve := mirrors_serve hmirrors hne
          fun q hdemand => key_ne_of_demandFor hfor hside hdemand
        cases v with
        | prune now => exact absurd rfl hne
        | events call body => exact ih hserve hroom hrest
        | otlp d call stored => exact ih hserve hroom hrest
    · -- A request of the other side, for another key.
      have hfor : v.demandFor verifier limits side key = none := by
        unfold Visit.demandFor
        rw [hside, if_neg fun heq => other_ne side (Option.some.inj heq)]
      have hne : v.side ≠ none := by
        rw [hside]
        nofun
      have hserve := mirrors_serve hmirrors hne
        fun q hdemand => key_ne_of_demandFor (hapart v (List.mem_cons_self ..)) hside hdemand
      rw [ownVisits_cons_of_other hside]
      unfold verdicts
      rw [hfor]
      exact ih hserve hroom hrest

/-- **Separate keys.** Two runs with the same requests of a side give those for a key the same
verdicts, whatever the other side sends, when the map of the sessions has places for them and the
other side sends nothing for the key. -/
theorem verdicts_eq_of_apart (hsame : ownVisits side visits = ownVisits side visits')
    (hroom : Roomy verifier limits side key l visits)
    (hroom' : Roomy verifier limits side key l visits')
    (hapart : Apart verifier limits side key visits)
    (hapart' : Apart verifier limits side key visits') :
    verdicts verifier limits side key l visits = verdicts verifier limits side key l visits' := by
  have hmirrors : Mirrors key l l := ⟨rfl, rfl⟩
  rw [verdicts_eq_alone hmirrors hroom hapart, verdicts_eq_alone hmirrors hroom' hapart', hsame]

end Alone

section Sample

/-- A limiter that lets a session send one event at once. -/
def oneAtOnce : RateLimiter :=
  .new { RateLimitConfig.default with sessionBurst := 1 } 0

/-- The one event of a session. -/
def pageView (sessionId : String) : Visit :=
  .events (sent "page_view" sessionId).call ⟨none, [plainEvent "page_view" sessionId]⟩

/-- One log of a service, from another address. -/
def serviceLog (serviceName : String) : Visit :=
  .otlp .logs { (sent "page_view" "b").call with ip := .v4 0x0a000002 } [plainLog serviceName "up"]

theorem verdicts_eq_of_apart_strangers :
    @verdicts FloatFormat.ofBits strictServer.verifier testLimits .events "b" oneAtOnce
        [serviceLog "api", pageView "b"] =
      @verdicts FloatFormat.ofBits strictServer.verifier testLimits .events "b" oneAtOnce
        [pageView "b"] := by
  let _ : FloatFormat := FloatFormat.ofBits
  refine verdicts_eq_of_apart rfl ?_ ?_ ?_ ?_
  · decide +kernel
  · decide +kernel
  · decide +kernel
  · decide +kernel

/-- **A service that is named after a session.** The session has a request refused that is allowed
without the one of the service, which comes from another address and is allowed itself. -/
theorem not_verdicts_eq_namesake :
    ownVisits .events [serviceLog "b", pageView "b"] = ownVisits .events [pageView "b"] ∧
      @Roomy FloatFormat.ofBits strictServer.verifier testLimits .events "b" oneAtOnce
        [serviceLog "b", pageView "b"] ∧
      @verdicts FloatFormat.ofBits strictServer.verifier testLimits .otlp "b" oneAtOnce
        [serviceLog "b", pageView "b"] = [none] ∧
      @verdicts FloatFormat.ofBits strictServer.verifier testLimits .events "b" oneAtOnce
        [pageView "b"] = [none] ∧
      @verdicts FloatFormat.ofBits strictServer.verifier testLimits .events "b" oneAtOnce
        [serviceLog "b", pageView "b"] = [some (.deny .session 1)] := by
  refine ⟨rfl, ?_, ?_, ?_, ?_⟩ <;> decide +kernel

end Sample

end Datacat.Api.KeySpaces
