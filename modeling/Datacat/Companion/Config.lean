import Datacat.Basics.BTreeMap
import Datacat.Basics.Settings

/-!
# Configuration of a Companion

A companion runs beside a remote node, in a program of its own. Its configuration names the node,
the main instance that the heartbeats go to, and the channel of its own alert. What
`into_config` checks of the id and of the threshold is carried by the resolved configuration.
-/

namespace Datacat.Companion

open Basics

inductive AlertChannel where
  | slack (botToken channel : String)
  | webhook (url : String) (headers : BTreeMap String String)

/-- `Config`: durations are in nanoseconds. -/
structure Config where
  mainUrl : String
  id : String
  token : String
  interval : Nat
  requestTimeout : Nat
  failureThreshold : UInt32
  alert : AlertChannel
  id_not_blank : (trim id.toList).isEmpty = false
  threshold_ne_zero : failureThreshold ≠ 0

/-! ## The file -/

structure SlackSection where
  botToken : String
  channel : String

structure WebhookSection where
  url : String
  headers : BTreeMap String String := BTreeMap.empty

structure AlertSection where
  slack : Option SlackSection
  webhook : Option WebhookSection

/-- `FileConfig`, after `${VAR}` has been expanded in the strings that the file gives. -/
structure FileConfig where
  mainUrl : String
  id : String
  token : String := "$\x7bDATACAT_HEARTBEAT_TOKEN\x7d"
  interval : String := "30s"
  failureThreshold : UInt32 := 3
  alert : AlertSection

def expandTexts : ExpandTexts where
  unterminated := "unterminated `$\x7b` in TOML configuration"
  noName := "`$\x7b\x7d` with no environment variable name"
  notSet name := "required environment variable is not set: " ++ name

def durationTexts : DurationTexts where
  empty := "empty duration"
  noUnit := "duration with no unit (ms/s/m/h/d)"
  invalidValue := "invalid duration value"
  unknownUnit other := "unknown duration unit: " ++ other

/-- `dur`. -/
def dur (s field : String) : Except Contexts Nat :=
  Contexts.wrap ("invalid duration for " ++ field ++ ": '" ++ s ++ "'")
    (parseDuration durationTexts s)

/-- `HEARTBEAT_TIMEOUT`. -/
def heartbeatTimeout : Nat := 10 * 1000000000

/-- The one channel that the section configures. -/
def AlertSection.resolve (alert : AlertSection) : Except Contexts AlertChannel :=
  match alert.slack, alert.webhook with
  | some _, some _ =>
    .error ["configure exactly one self-alert channel: [alert.slack] OR [alert.webhook]"]
  | some s, none =>
    if (trim s.botToken.toList).isEmpty then .error ["[alert.slack].bot_token is required"]
    else if (trim s.channel.toList).isEmpty then .error ["[alert.slack].channel is required"]
    else .ok (.slack s.botToken s.channel)
  | none, some w =>
    if (trim w.url.toList).isEmpty then .error ["[alert.webhook].url is required"]
    else .ok (.webhook w.url w.headers)
  | none, none => .error ["a self-alert channel is required: [alert.slack] or [alert.webhook]"]

/-- `main_url.trim_end_matches('/')`. -/
def trimEndSlashes (s : String) : String :=
  String.ofList (s.toList.reverse.dropWhile (· == '/')).reverse

/-- `into_config`, in an environment. -/
def FileConfig.intoConfig (env : String → Option String) (file : FileConfig) :
    Except Contexts Config :=
  if (trim file.mainUrl.toList).isEmpty then .error ["`main_url` is required"]
  else if hid : (trim file.id.toList).isEmpty = true then .error ["`id` is required"]
  else do
    let token ← Contexts.wrap "expanding `token`" (expandStr expandTexts env file.token)
    if (trim token.toList).isEmpty then
      .error ["`token` is required (or set DATACAT_HEARTBEAT_TOKEN)"]
    else if hthreshold : file.failureThreshold = 0 then
      .error ["`failure_threshold` must be >= 1"]
    else
      let alert ← file.alert.resolve
      let interval ← dur file.interval "interval"
      return {
        mainUrl := trimEndSlashes file.mainUrl
        id := file.id
        token := token
        interval := interval
        requestTimeout := heartbeatTimeout
        failureThreshold := file.failureThreshold
        alert := alert
        id_not_blank := Bool.eq_false_iff.mpr hid
        threshold_ne_zero := hthreshold }

/-- The id is used as it is written. -/
theorem FileConfig.intoConfig_id {env : String → Option String} {file : FileConfig} {c : Config}
    (h : file.intoConfig env = .ok c) : c.id = file.id := by
  unfold FileConfig.intoConfig at h
  -- The checks, in the order of the code.
  split at h
  · cases h
  · split at h
    · cases h
    · obtain ⟨token, -, h⟩ := Contexts.bind_eq_ok h
      split at h
      · cases h
      · split at h
        · cases h
        · obtain ⟨alert, -, h⟩ := Contexts.bind_eq_ok h
          obtain ⟨interval, -, h⟩ := Contexts.bind_eq_ok h
          rw [← Except.ok.inj h]

end Datacat.Companion
