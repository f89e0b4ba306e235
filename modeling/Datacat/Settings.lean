import Datacat.Basics.Settings
import Datacat.Config
import Datacat.Security.Anomaly
import Datacat.Security.RateLimit

/-!
# Sections of the Configuration

How the main instance checks the sections of its file about the ingestion, the companions it
expects and the scheduled export. What a check ensures is a field of the result.
-/

namespace Datacat.Settings

open Basics

def durationTexts : DurationTexts where
  empty := "durée vide"
  noUnit := "durée sans unité (ms/s/m/h/d)"
  invalidValue := "valeur de durée invalide"
  unknownUnit other := "unité de durée inconnue: " ++ other

/-- `dur`. -/
def dur (s field : String) : Except Contexts Nat :=
  Contexts.wrap ("durée invalide pour " ++ field ++ ": '" ++ s ++ "'")
    (parseDuration durationTexts s)

/-! ## Ingestion -/

structure LimitsSection where
  maxBatchEvents : Nat := 500
  maxPayloadBytes : Nat := 1048576
  maxPropertiesBytes : Nat := 16384
  maxStringLen : Nat := 200
  maxJsonDepth : Nat := 16
  maxPastSkew : String := "31d"
  maxFutureSkew : String := "24h"
  maxOtlpRecordBytes : Nat := 65536

structure RateLimitSection where
  globalPerSec : ℚ := 50000
  globalBurst : ℚ := 100000
  sessionPerSec : ℚ := 100
  sessionBurst : ℚ := 1000
  ipSessionCap : Nat := 200
  ipSessionWindow : String := "30m"
  maxTrackedSessions : Nat := 500000
  maxTrackedIps : Nat := 200000

structure AnomalySection where
  badRequestsThreshold : Nat := 100
  window : String := "60s"
  banDuration : String := "5m"
  maxTrackedIps : Nat := 200000

structure IngestSection where
  limits : LimitsSection := {}
  rateLimit : RateLimitSection := {}
  anomaly : AnomalySection := {}

/-- The fields of `Config` that `build_config` makes of these sections. -/
structure IngestConfig where
  limits : ValidationLimits
  rateLimit : Security.RateLimitConfig
  anomaly : Security.AnomalyConfig

def LimitsSection.build (l : LimitsSection) : Except Contexts ValidationLimits := do
  let maxPastSkew ← dur l.maxPastSkew "ingest.limits.max_past_skew"
  let maxFutureSkew ← dur l.maxFutureSkew "ingest.limits.max_future_skew"
  return {
    maxBatchEvents := l.maxBatchEvents
    maxPayloadBytes := l.maxPayloadBytes
    maxPropertiesBytes := l.maxPropertiesBytes
    maxStringLen := l.maxStringLen
    maxJsonDepth := l.maxJsonDepth
    maxPastSkew := maxPastSkew
    maxFutureSkew := maxFutureSkew
    maxOtlpRecordBytes := l.maxOtlpRecordBytes }

def RateLimitSection.build (r : RateLimitSection) : Except Contexts Security.RateLimitConfig := do
  let ipSessionWindow ← dur r.ipSessionWindow "ingest.rate_limit.ip_session_window"
  return {
    globalPerSec := r.globalPerSec
    globalBurst := r.globalBurst
    sessionPerSec := r.sessionPerSec
    sessionBurst := r.sessionBurst
    ipSessionCap := r.ipSessionCap
    ipSessionWindow := ipSessionWindow
    maxTrackedSessions := r.maxTrackedSessions
    maxTrackedIps := r.maxTrackedIps }

def AnomalySection.build (a : AnomalySection) : Except Contexts Security.AnomalyConfig := do
  let window ← dur a.window "ingest.anomaly.window"
  let banDuration ← dur a.banDuration "ingest.anomaly.ban_duration"
  return {
    badRequestsThreshold := a.badRequestsThreshold
    window := window
    banDuration := banDuration
    maxTrackedIps := a.maxTrackedIps }

/-- The beginning of `build_config`. -/
def IngestSection.build (i : IngestSection) : Except Contexts IngestConfig := do
  let limits ← i.limits.build
  let rateLimit ← i.rateLimit.build
  let anomaly ← i.anomaly.build
  return { limits := limits, rateLimit := rateLimit, anomaly := anomaly }

/-! ## Companions -/

/-- An expected companion, whose silence for longer than the timeout raises an alert. -/
structure ExpectedCompanion where
  id : String
  /-- In nanoseconds. -/
  timeout : Nat
  severity : String
  id_not_blank : (trim id.toList).isEmpty = false

structure CompanionEntry where
  id : String
  timeout : String
  severity : String := "critical"

structure CompanionsSection where
  checkInterval : String := "30s"
  expected : List CompanionEntry := []

structure CompanionMonitor where
  checkInterval : Nat
  expected : List ExpectedCompanion

/-- One turn of the loop of `build_companions`. -/
def CompanionEntry.build (e : CompanionEntry) : Except Contexts ExpectedCompanion :=
  if hid : (trim e.id.toList).isEmpty = true then
    .error ["[[companions.expected]] : champ `id` requis"]
  else do
    let timeout ← dur e.timeout "companions.expected.timeout"
    return ⟨e.id, timeout, e.severity, Bool.eq_false_iff.mpr hid⟩

theorem CompanionEntry.build_id {entry : CompanionEntry} {e : ExpectedCompanion}
    (h : entry.build = .ok e) : e.id = entry.id := by
  unfold CompanionEntry.build at h
  split_ifs at h with hid
  obtain ⟨timeout, htimeout, h⟩ := Contexts.bind_eq_ok h
  rw [← Except.ok.inj h]

/-- `build_companions`. -/
def CompanionsSection.build (s : CompanionsSection) : Except Contexts CompanionMonitor := do
  let expected ← s.expected.mapM CompanionEntry.build
  let checkInterval ← dur s.checkInterval "companions.check_interval"
  return { checkInterval := checkInterval, expected := expected }

/-! ## Export -/

/-- `ExportTable`. -/
inductive ExportTable where
  | events
  | logs
deriving DecidableEq

/-- `non_empty`. -/
def nonEmpty (v : Option String) : Option String := v.filter fun s => !(trim s.toList).isEmpty

structure ExportSection where
  schedule : String := "24h"
  bucket : String := ""
  pathPrefix : String := ""
  region : String := "eu-west-1"
  endpoint : Option String := none
  accessKeyId : Option String := none
  secretAccessKey : Option String := none
  allowHttp : Bool := false
  tables : List String := ["events", "logs"]

structure ExportSettings where
  /-- Between two ticks, in nanoseconds. -/
  schedule : Nat
  bucket : String
  pathPrefix : Option String
  region : String
  endpoint : Option String
  accessKeyId : Option String
  secretAccessKey : Option String
  allowHttp : Bool
  tables : List ExportTable
  tables_ne_nil : tables ≠ []

/-- A name of `[export].tables`. -/
def ExportTable.parse (name : String) : Except Contexts ExportTable :=
  match String.ofList (name.toList.map Char.toLower) with
  | "events" => .ok .events
  | "logs" => .ok .logs
  | other => .error ["[export].tables : table inconnue '" ++ other ++ "' (events|logs)"]

/-- `build_export`. -/
def ExportSection.build (e : ExportSection) : Except Contexts ExportSettings :=
  if (trim e.bucket.toList).isEmpty then
    .error ["[export].bucket est requis quand l'export est activé"]
  else do
    let tables ← e.tables.mapM ExportTable.parse
    if hempty : tables = [] then .error ["[export].tables ne doit pas être vide"]
    else
      let schedule ← dur e.schedule "export.schedule"
      return {
        schedule := schedule
        bucket := e.bucket
        pathPrefix := (some e.pathPrefix).filter fun p => !p.isEmpty
        region := e.region
        endpoint := nonEmpty e.endpoint
        accessKeyId := nonEmpty e.accessKeyId
        secretAccessKey := nonEmpty e.secretAccessKey
        allowHttp := e.allowHttp
        tables := tables
        tables_ne_nil := hempty }

end Datacat.Settings
