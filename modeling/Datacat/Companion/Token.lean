import Datacat.Basics.Toml
import Datacat.Companion.Config

/-!
# The Token of a Companion

The file is expanded as a whole before it is read. The token is expanded a second time when the
fields are resolved, because the default of an omitted token has not been expanded by then. A token
that the file gives is expanded twice (`token_verbatim_iff`).
-/

namespace Datacat.Companion

open Basics

/-! ## Reading the file -/

/-- `deny_unknown_fields`. -/
def onlyFields (names : List String) (entries : List (String × Toml)) : Bool :=
  entries.all fun entry => names.contains entry.1

/-- A field that has to be there. -/
def field {α : Type} (entries : List (String × Toml)) (name : String) (read : Toml → Option α) :
    Option α :=
  (entries.lookup name).bind read

/-- A field that may be left out. -/
def fieldOr {α : Type} (entries : List (String × Toml)) (name : String) (default : α)
    (read : Toml → Option α) : Option α :=
  match entries.lookup name with
  | none => some default
  | some v => read v

/-- `u32`. -/
def readU32 : Toml → Option UInt32
  | .integer i => if 0 ≤ i.toInt ∧ i.toInt < 2 ^ 32 then some (UInt32.ofNat i.toInt.toNat) else none
  | _ => none

/-- A record is read from a table by the names of its fields, from an array by their places. -/
def SlackSection.read : Toml → Option SlackSection
  | .table entries =>
    if onlyFields ["bot_token", "channel"] entries then do
      let botToken ← field entries "bot_token" Toml.asString
      let channel ← field entries "channel" Toml.asString
      return ⟨botToken, channel⟩
    else none
  | .array [botToken, channel] => do return ⟨← botToken.asString, ← channel.asString⟩
  | _ => none

/-- `BTreeMap<String, String>`. -/
def readHeaders : Toml → Option (BTreeMap String String)
  | .table entries =>
    entries.foldlM (fun headers entry => entry.2.asString.map (headers.insert entry.1))
      BTreeMap.empty
  | _ => none

def WebhookSection.read : Toml → Option WebhookSection
  | .table entries =>
    if onlyFields ["url", "headers"] entries then do
      let url ← field entries "url" Toml.asString
      let headers ← fieldOr entries "headers" BTreeMap.empty readHeaders
      return ⟨url, headers⟩
    else none
  | .array [url] => do return ⟨← url.asString, BTreeMap.empty⟩
  | .array [url, headers] => do return ⟨← url.asString, ← readHeaders headers⟩
  | _ => none

def AlertSection.read : Toml → Option AlertSection
  | .table entries =>
    if onlyFields ["slack", "webhook"] entries then do
      let slack ← fieldOr entries "slack" none fun v => (SlackSection.read v).map some
      let webhook ← fieldOr entries "webhook" none fun v => (WebhookSection.read v).map some
      return ⟨slack, webhook⟩
    else none
  | .array [slack, webhook] => do
    return ⟨some (← SlackSection.read slack), some (← WebhookSection.read webhook)⟩
  | _ => none

/-- `default_token`. -/
def defaultToken : String := "$\x7bDATACAT_HEARTBEAT_TOKEN\x7d"

def FileConfig.read (document : List (String × Toml)) : Option FileConfig :=
  if onlyFields ["main_url", "id", "token", "interval", "failure_threshold", "alert"] document then do
    let mainUrl ← field document "main_url" Toml.asString
    let id ← field document "id" Toml.asString
    let token ← fieldOr document "token" defaultToken Toml.asString
    let interval ← fieldOr document "interval" "30s" Toml.asString
    let failureThreshold ← fieldOr document "failure_threshold" 3 readU32
    let alert ← field document "alert" AlertSection.read
    return { mainUrl, id, token, interval, failureThreshold, alert }
  else none

/-- `value.try_into()`. What the library says of the error is left out. -/
def FileConfig.parse (document : List (String × Toml)) : Except Contexts FileConfig :=
  match FileConfig.read document with
  | some file => .ok file
  | none => .error ["invalid configuration structure"]

/-- `Config::from_toml_str`, from the document on. -/
def load (env : String → Option String) (document : List (String × Toml)) :
    Except Contexts Config := do
  let document ← Toml.expandEntries expandTexts env document
  let file ← FileConfig.parse document
  file.intoConfig env

/-! ## One pass over the token -/

/-- The token that the file gives. -/
def givenToken (document : List (String × Toml)) : Option String :=
  (document.lookup "token").bind Toml.asString

theorem FileConfig.id_not_blank (file : FileConfig)
    (hid : ¬(trim file.id.toList).isEmpty = true) : (trim file.id.toList).isEmpty = false :=
  Bool.eq_false_iff.mpr hid

/-- `into_config`, with a way to come by the token. -/
def FileConfig.intoConfigWith (file : FileConfig) (token : Except Contexts String) :
    Except Contexts Config :=
  if (trim file.mainUrl.toList).isEmpty then .error ["`main_url` is required"]
  else if hid : (trim file.id.toList).isEmpty = true then .error ["`id` is required"]
  else do
    let token ← token
    if (trim token.toList).isEmpty then
      .error ["`token` is required (or set DATACAT_HEARTBEAT_TOKEN)"]
    else if hthreshold : file.failureThreshold = 0 then
      .error ["`failure_threshold` must be >= 1"]
    else
      let alert ← file.alert.resolve
      let interval ← dur file.interval "interval"
      return {
        mainUrl := trimEndSlashes file.mainUrl
        id := file.id
        token := token
        interval := interval
        requestTimeout := heartbeatTimeout
        failureThreshold := file.failureThreshold
        alert := alert
        id_not_blank := file.id_not_blank hid
        threshold_ne_zero := hthreshold }

theorem FileConfig.intoConfig_eq (env : String → Option String) (file : FileConfig) :
    file.intoConfig env =
      file.intoConfigWith (Contexts.wrap "expanding `token`" (expandStr expandTexts env file.token)) :=
  rfl

/-- The file as it would be loaded if only the default of an omitted token were still expanded. -/
def loadOnce (env : String → Option String) (document : List (String × Toml)) :
    Except Contexts Config := do
  let expanded ← Toml.expandEntries expandTexts env document
  let file ← FileConfig.parse expanded
  file.intoConfigWith
    (match givenToken document with
    | some _ => .ok file.token
    | none => Contexts.wrap "expanding `token`" (expandStr expandTexts env file.token))

/-- The token is taken verbatim. -/
structure TokenVerbatim (env : String → Option String) (document : List (String × Toml)) : Prop where
  /-- The token of a file that is accepted is one expansion of the configured one. -/
  once : ∀ c, load env document = .ok c →
    expandStr expandTexts env ((givenToken document).getD defaultToken) = .ok c.token
  /-- A second expansion is no reason to refuse the file. -/
  kept : ∀ c, loadOnce env document = .ok c → load env document = .ok c

/-! ## What the fields of a file are -/

section Resolve

variable {file : FileConfig} {token : Except Contexts String} {c : Config}

/-- The token of an accepted file, and that it is not blank. -/
theorem FileConfig.intoConfigWith_token (h : file.intoConfigWith token = .ok c) :
    token = .ok c.token ∧ (trim c.token.toList).isEmpty = false := by
  unfold FileConfig.intoConfigWith at h
  split at h
  · cases h
  · split at h
    · cases h
    · obtain ⟨t, htoken, h⟩ := Contexts.bind_eq_ok h
      split at h
      · cases h
      · rename_i hblank
        split at h
        · cases h
        · obtain ⟨alert, -, h⟩ := Contexts.bind_eq_ok h
          obtain ⟨interval, -, h⟩ := Contexts.bind_eq_ok h
          obtain rfl := Except.ok.inj h
          exact ⟨htoken, Bool.eq_false_iff.mpr hblank⟩

/-- Another token that is not blank is accepted too, and changes nothing else. -/
theorem FileConfig.intoConfigWith_ok {t : String} (h : file.intoConfigWith token = .ok c)
    (ht : (trim t.toList).isEmpty = false) :
    file.intoConfigWith (.ok t) = .ok { c with token := t } := by
  unfold FileConfig.intoConfigWith at h ⊢
  split at h
  · cases h
  · rename_i hurl
    split at h
    · cases h
    · rename_i hid
      obtain ⟨t', -, h⟩ := Contexts.bind_eq_ok h
      split at h
      · cases h
      · split at h
        · cases h
        · rename_i hthreshold
          obtain ⟨alert, halert, h⟩ := Contexts.bind_eq_ok h
          obtain ⟨interval, hinterval, h⟩ := Contexts.bind_eq_ok h
          obtain rfl := Except.ok.inj h
          rw [if_neg hurl, dif_neg hid]
          show (if _ then _ else _) = _
          rw [if_neg (Bool.eq_false_iff.mp ht), dif_neg hthreshold, halert, hinterval]
          rfl

end Resolve

/-- A blank text has no dollar sign. -/
theorem not_blank_of_expandStr {env : String → Option String} {s t : String}
    (h : expandStr expandTexts env s = .ok t) (ht : (trim t.toList).isEmpty = false) :
    (trim s.toList).isEmpty = false := by
  apply Bool.eq_false_iff.mpr
  intro hblank
  -- Nothing is expanded in a blank text.
  have hspace : ∀ ch ∈ s.toList, isWhitespace ch = true :=
    isWhitespace_of_trim (List.isEmpty_iff.mp hblank)
  have hplain : '$' ∉ s.toList := fun hmem => absurd (hspace '$' hmem) (by decide)
  rw [expandStr_plain hplain] at h
  rw [← Except.ok.inj h, hblank] at ht
  cases ht

theorem FileConfig.read_token {document : List (String × Toml)} {file : FileConfig}
    (h : FileConfig.read document = some file) :
    fieldOr document "token" defaultToken Toml.asString = some file.token := by
  unfold FileConfig.read at h
  split at h
  · obtain ⟨mainUrl, -, h⟩ := Option.bind_eq_some_iff.mp h
    obtain ⟨id, -, h⟩ := Option.bind_eq_some_iff.mp h
    obtain ⟨token, htoken, h⟩ := Option.bind_eq_some_iff.mp h
    obtain ⟨interval, -, h⟩ := Option.bind_eq_some_iff.mp h
    obtain ⟨failureThreshold, -, h⟩ := Option.bind_eq_some_iff.mp h
    obtain ⟨alert, -, h⟩ := Option.bind_eq_some_iff.mp h
    obtain rfl := Option.some.inj h
    exact htoken
  · cases h

section Load

variable {env : String → Option String} {document : List (String × Toml)}

/-- The token of a file that can be read: the default, or one expansion of what is given. -/
theorem token_of_parse {expanded : List (String × Toml)} {file : FileConfig}
    (hexpanded : Toml.expandEntries expandTexts env document = .ok expanded)
    (hfile : FileConfig.parse expanded = .ok file) :
    (givenToken document = none ∧ file.token = defaultToken) ∨
    ∃ s, givenToken document = some s ∧ expandStr expandTexts env s = .ok file.token := by
  have hread : FileConfig.read expanded = some file := by
    unfold FileConfig.parse at hfile
    split at hfile
    · rename_i found hfound
      rw [hfound, Except.ok.inj hfile]
    · cases hfile
  have htoken := FileConfig.read_token hread
  unfold fieldOr at htoken
  unfold givenToken
  rcases Toml.lookup_of_expandEntries hexpanded "token" with ⟨hnone, hnone'⟩ |
    ⟨v, v', hv, hexpand, hv'⟩
  · -- Left out before the expansion is left out after it.
    rw [hnone'] at htoken
    rw [hnone]
    exact .inl ⟨rfl, (Option.some.inj htoken).symm⟩
  · rw [hv'] at htoken
    replace htoken : v'.asString = some file.token := htoken
    rw [hv]
    -- What is read as a text is the expansion of a text.
    rcases Toml.asString_of_expandEnv hexpand with ⟨-, hnone⟩ | ⟨s, t, hs, ht, ht'⟩
    · rw [hnone] at htoken
      cases htoken
    · obtain rfl := Option.some.inj (ht'.symm.trans htoken)
      exact .inr ⟨s, hs, ht⟩

private theorem expandStr_of_wrap {s t : String}
    (h : Contexts.wrap "expanding `token`" (expandStr expandTexts env s) = .ok t) :
    expandStr expandTexts env s = .ok t := by
  cases hs : expandStr expandTexts env s with
  | error contexts => rw [hs] at h; cases h
  | ok out => rw [hs] at h; exact h

/-- A token that is left out is expanded once. -/
theorem loadOnce_of_omitted (h : givenToken document = none) :
    loadOnce env document = load env document := by
  unfold loadOnce load
  rw [h]
  rfl

theorem load_omitted {c : Config} (hgiven : givenToken document = none)
    (h : load env document = .ok c) : expandStr expandTexts env defaultToken = .ok c.token := by
  obtain ⟨expanded, hexpanded, h⟩ := Contexts.bind_eq_ok h
  obtain ⟨file, hfile, h⟩ := Contexts.bind_eq_ok h
  have htoken := expandStr_of_wrap (FileConfig.intoConfigWith_token h).1
  rcases token_of_parse hexpanded hfile with ⟨-, hdefault⟩ | ⟨s, hs, -⟩
  · rw [hdefault] at htoken
    exact htoken
  · rw [hgiven] at hs
    cases hs

/-- A token that is given is taken from its one expansion by `loadOnce`. -/
theorem loadOnce_given {s : String} {c : Config} (hgiven : givenToken document = some s)
    (h : loadOnce env document = .ok c) :
    expandStr expandTexts env s = .ok c.token ∧ (trim c.token.toList).isEmpty = false ∧
      ∀ t, expandStr expandTexts env c.token = .ok t → (trim t.toList).isEmpty = false →
        load env document = .ok { c with token := t } := by
  obtain ⟨expanded, hexpanded, h⟩ := Contexts.bind_eq_ok h
  obtain ⟨file, hfile, h⟩ := Contexts.bind_eq_ok h
  rw [hgiven] at h
  obtain ⟨htoken, hblank⟩ := FileConfig.intoConfigWith_token h
  have hsame := Except.ok.inj htoken
  rcases token_of_parse hexpanded hfile with ⟨hnone, -⟩ | ⟨s', hs', hs⟩
  · rw [hgiven] at hnone
    cases hnone
  · obtain rfl := Option.some.inj (hgiven.symm.trans hs')
    refine ⟨hsame ▸ hs, hblank, ?_⟩
    intro t ht hfull
    unfold load
    rw [hexpanded]
    show (FileConfig.parse expanded >>= fun file => file.intoConfig env) = _
    rw [hfile]
    show file.intoConfig env = _
    rw [FileConfig.intoConfig_eq, hsame, ht]
    exact FileConfig.intoConfigWith_ok h hfull

/-- A token that is given is expanded a second time by `load`. -/
theorem load_given {s : String} {c : Config} (hgiven : givenToken document = some s)
    (h : load env document = .ok c) :
    ∃ t, expandStr expandTexts env s = .ok t ∧ expandStr expandTexts env t = .ok c.token ∧
      loadOnce env document = .ok { c with token := t } := by
  obtain ⟨expanded, hexpanded, h⟩ := Contexts.bind_eq_ok h
  obtain ⟨file, hfile, h⟩ := Contexts.bind_eq_ok h
  obtain ⟨htoken, hblank⟩ := FileConfig.intoConfigWith_token h
  have hsecond := expandStr_of_wrap htoken
  rcases token_of_parse hexpanded hfile with ⟨hnone, -⟩ | ⟨s', hs', hs⟩
  · rw [hgiven] at hnone
    cases hnone
  · obtain rfl := Option.some.inj (hgiven.symm.trans hs')
    refine ⟨file.token, hs, hsecond, ?_⟩
    unfold loadOnce
    rw [hexpanded, hgiven]
    show (FileConfig.parse expanded >>= fun file => file.intoConfigWith (.ok file.token)) = _
    rw [hfile]
    exact FileConfig.intoConfigWith_ok h (not_blank_of_expandStr hsecond hblank)

/-- What one expansion makes of the given token is left as it is by another. -/
def Settled (env : String → Option String) (document : List (String × Toml)) : Prop :=
  ∀ s t, givenToken document = some s → expandStr expandTexts env s = .ok t →
    expandStr expandTexts env t = .ok t

end Load

/-- **Tokens that are taken verbatim.** The token is left out, or what one expansion makes of it is
left as it is by another, or the file is refused anyway. -/
theorem token_verbatim_iff (env : String → Option String) (document : List (String × Toml)) :
    TokenVerbatim env document ↔
      ((∃ c, loadOnce env document = .ok c) → Settled env document) := by
  constructor
  · rintro hverbatim ⟨c, hc⟩ s t hs ht
    obtain ⟨honce, -⟩ := loadOnce_given hs hc
    obtain rfl := Except.ok.inj (honce.symm.trans ht)
    -- The file is accepted with the token of one expansion, which is the one of two.
    obtain ⟨t, ht, hsecond, -⟩ := load_given hs (hverbatim.kept c hc)
    obtain rfl := Except.ok.inj (honce.symm.trans ht)
    exact hsecond
  · intro hsettled
    cases hgiven : givenToken document with
    | none =>
      constructor
      · intro c hc
        rw [hgiven]
        exact load_omitted hgiven hc
      · intro c hc
        rw [← loadOnce_of_omitted hgiven]
        exact hc
    | some s =>
      constructor
      · intro c hc
        obtain ⟨t, ht, hsecond, honce⟩ := load_given hgiven hc
        have hfixed := hsettled ⟨_, honce⟩ s t hgiven ht
        rw [hgiven, ← Except.ok.inj (hfixed.symm.trans hsecond)]
        exact ht
      · intro c hc
        obtain ⟨honce, hblank, hload⟩ := loadOnce_given hgiven hc
        exact hload c.token (hsettled ⟨c, hc⟩ s c.token hgiven honce) hblank

/-- A token without `${` once it is expanded is taken verbatim. -/
theorem Settled.of_noOpening {env : String → Option String} {document : List (String × Toml)}
    (h : ∀ s t, givenToken document = some s → expandStr expandTexts env s = .ok t →
      NoOpening t.toList) : Settled env document := by
  intro s t hs ht
  unfold expandStr
  rw [expandFrom_literal (h s t hs ht)]
  exact congrArg Except.ok String.ofList_toList

section Sample

/-- A file whose token is the variable `T`. -/
def tokenFromEnvironment : List (String × Toml) :=
  [("alert", .table [("webhook", .table [("url", .string "https://hook")])]),
    ("id", .string "edge"), ("main_url", .string "https://main"), ("token", .string "$\x7bT\x7d")]

/-- A secret that has `${` in it keeps the companion from starting. -/
theorem not_token_verbatim :
    ¬∀ (env : String → Option String) (document : List (String × Toml)),
      TokenVerbatim env document := by
  intro h
  let env : String → Option String := fun name => if name = "T" then some "a$\x7bb" else none
  obtain ⟨c, hc, -⟩ := Contexts.exists_of_any
    (show (loadOnce env tokenFromEnvironment).toOption.any (fun _ => true) = true by decide +kernel)
  have hrefused : (load env tokenFromEnvironment).toOption.isNone = true := by decide +kernel
  rw [(h env tokenFromEnvironment).kept c hc] at hrefused
  cases hrefused

end Sample

end Datacat.Companion
