import Datacat.Alerting.Eval

/-!
# Isolation of the Tenants

The filter of a project puts its tenant on every rule and every condition, and every query of a
rule asks for the tenant of the rule. So a rule of a project sees the rows of its tenant only: two
databases that have the same rows of this tenant cannot be told apart by evaluating the rules.

## Main results

- `compute_congr`: a rule with a tenant computes the same on both databases.
- `evaluateOnce_congr`: the rules of a project come to the same states and notifications.
-/

namespace Datacat.Alerting

open Basics

/-! ## Databases with the same rows of a tenant -/

structure SameTenant (tenant : String) (db db' : Database) : Prop where
  logs : db.logs.filter (fun l => l.tenantId == some tenant) =
    db'.logs.filter fun l => l.tenantId == some tenant
  events : db.events.filter (fun e => e.tenantId == some tenant) =
    db'.events.filter fun e => e.tenantId == some tenant
  spans : db.spans.filter (fun s => s.tenantId == some tenant) =
    db'.spans.filter fun s => s.tenantId == some tenant
  metricPoints : db.metricPoints.filter (fun p => p.tenantId == some tenant) =
    db'.metricPoints.filter fun p => p.tenantId == some tenant

/-- `AND tenant_id = <tenant>`. -/
def ofTenant (tenant : String) : Filter := fun row => row.tenantId == some tenant

/-- The rule and its conditions name no other tenant. -/
def Rule.NamesNoOther (tenant : String) (r : Rule) : Prop :=
  (∀ t ∈ r.tenant, t = tenant) ∧ ∀ c ∈ r.conditions, ∀ t ∈ c.tenant, t = tenant

/-- The rule and its conditions are about the tenant. -/
structure Rule.Scoped (tenant : String) (r : Rule) : Prop where
  self : r.tenant = some tenant
  conditions : ∀ c ∈ r.conditions, c.tenant = some tenant

section Selection

variable {tenant : String} {db db' : Database} {source : Source} {filters : List Filter} {r : Rule}

theorem table_congr (h : SameTenant tenant db db') (source : Source) :
    (db.table source).filter (ofTenant tenant) = (db'.table source).filter (ofTenant tenant) := by
  cases source with
  | logs =>
    simp only [Database.table, List.filter_map]
    exact congrArg _ h.logs
  | events =>
    simp only [Database.table, List.filter_map]
    exact congrArg _ h.events
  | spans =>
    simp only [Database.table, List.filter_map]
    exact congrArg _ h.spans
  | metrics =>
    simp only [Database.table, List.filter_map]
    exact congrArg _ h.metricPoints

/-- A query that asks for the tenant selects the same rows. -/
theorem select_congr (h : SameTenant tenant db db') (hmem : ofTenant tenant ∈ filters) :
    select db source filters = select db' source filters := by
  have hscoped : ∀ db : Database, select db source filters =
      ((db.table source).filter (ofTenant tenant)).filter fun row => filters.all fun f => f row := by
    intro db
    unfold select
    rw [List.filter_filter]
    apply List.filter_congr
    intro row _
    cases hall : filters.all fun f => f row with
    | false => rfl
    | true => rw [List.all_eq_true.mp hall _ hmem, Bool.and_self]
  rw [hscoped db, hscoped db', table_congr h source]

theorem countRows_congr (h : SameTenant tenant db db') (hmem : ofTenant tenant ∈ filters) :
    countRows db source filters = countRows db' source filters := by
  unfold countRows
  rw [select_congr h hmem]

/-! ## The tenant in the conditions -/

theorem mem_equals_tenant (htenant : r.tenant = some tenant) :
    ofTenant tenant ∈ equals Row.tenantId r.tenant := by
  rw [htenant]
  exact List.mem_singleton.mpr rfl

theorem mem_baseFilter (htenant : r.tenant = some tenant) : ofTenant tenant ∈ baseFilter r :=
  List.mem_append_right _ (mem_equals_tenant htenant)

theorem mem_countFilter (htenant : r.tenant = some tenant) : ofTenant tenant ∈ countFilter r :=
  List.mem_append_left _ (List.mem_append_left _ (mem_baseFilter htenant))

theorem mem_metricFilter (htenant : r.tenant = some tenant) : ofTenant tenant ∈ metricFilter r :=
  List.mem_append_right _ (mem_equals_tenant htenant)

theorem mem_spanFilter (htenant : r.tenant = some tenant) : ofTenant tenant ∈ spanFilter r :=
  List.mem_append_left _ (List.mem_append_right _ (mem_equals_tenant htenant))

theorem mem_logGroupFilters (htenant : r.tenant = some tenant) :
    ofTenant tenant ∈ logGroupFilters r :=
  List.mem_append_right _ (mem_equals_tenant htenant)

end Selection

/-! ## Values -/

section Values

variable {tenant : String} {engine : Engine} {db db' : Database} {r : Rule}
  {start stop now : DateTime}

theorem computeCount_congr (htenant : r.tenant = some tenant) (h : SameTenant tenant db db') :
    computeCount db r start stop = computeCount db' r start stop := by
  unfold computeCount
  rw [countRows_congr h (List.mem_append_right _ (mem_countFilter htenant))]

theorem computeMetric_congr (htenant : r.tenant = some tenant) (h : SameTenant tenant db db') :
    computeMetric engine db r start stop = computeMetric engine db' r start stop := by
  unfold computeMetric
  rw [select_congr h (List.mem_append_right _ (mem_metricFilter htenant))]

theorem computeErrorRatio_congr (htenant : r.tenant = some tenant) (h : SameTenant tenant db db') :
    computeErrorRatio db r start stop = computeErrorRatio db' r start stop := by
  have htotal := List.mem_append_right (windowed start stop) (mem_baseFilter htenant)
  unfold computeErrorRatio
  rw [countRows_congr h htotal, countRows_congr h (List.mem_append_left _ htotal)]

theorem computeSpanDuration_congr (htenant : r.tenant = some tenant)
    (h : SameTenant tenant db db') :
    computeSpanDuration engine db r start stop = computeSpanDuration engine db' r start stop := by
  unfold computeSpanDuration
  rw [select_congr h
    (List.mem_append_right _ (List.mem_cons_of_mem _ (mem_spanFilter htenant)))]

/-- Both windows ask for the tenant. -/
theorem computeRelativeChange_congr (htenant : r.tenant = some tenant)
    (h : SameTenant tenant db db') :
    computeRelativeChange db r start stop = computeRelativeChange db' r start stop := by
  have hcount (a b : DateTime) : countRows db r.source (windowed a b ++ countFilter r) =
      countRows db' r.source (windowed a b ++ countFilter r) :=
    countRows_congr h (List.mem_append_right _ (mem_countFilter htenant))
  unfold computeRelativeChange
  simp only [hcount]

/-- Every bucket of the baseline asks for the tenant. -/
theorem bucketCounts_congr (htenant : r.tenant = some tenant) (h : SameTenant tenant db db') :
    bucketCounts db r start stop = bucketCounts db' r start stop := by
  unfold bucketCounts
  have hcount (f g : Filter) : countRows db r.source (f :: g :: countFilter r) =
      countRows db' r.source (f :: g :: countFilter r) :=
    countRows_congr h (List.mem_cons_of_mem _ (List.mem_cons_of_mem _ (mem_countFilter htenant)))
  simp only [hcount]

theorem computeAnomaly_congr (htenant : r.tenant = some tenant) (h : SameTenant tenant db db') :
    computeAnomaly db r now = computeAnomaly db' r now := by
  unfold computeAnomaly
  simp only [bucketCounts_congr htenant h, computeCount_congr htenant h]

theorem computeValue_congr (htenant : r.tenant = some tenant) (h : SameTenant tenant db db') :
    computeValue engine db r now = computeValue engine db' r now := by
  unfold computeValue
  simp only [computeCount_congr htenant h, computeMetric_congr htenant h,
    computeErrorRatio_congr htenant h, computeSpanDuration_congr htenant h,
    computeRelativeChange_congr htenant h, computeAnomaly_congr htenant h]

theorem computeGroups_congr (htenant : r.tenant = some tenant) (h : SameTenant tenant db db') :
    computeGroups engine db r now = computeGroups engine db' r now := by
  have hrows (a b : DateTime) : select db .logs (windowed a b ++ logGroupFilters r) =
      select db' .logs (windowed a b ++ logGroupFilters r) :=
    select_congr h (List.mem_append_right _ (mem_logGroupFilters htenant))
  unfold computeGroups
  simp only [hrows]

/-- The window and the baseline ask for the tenant. -/
theorem computeNovelGroups_congr (htenant : r.tenant = some tenant)
    (h : SameTenant tenant db db') :
    computeNovelGroups engine db r now = computeNovelGroups engine db' r now := by
  have hrows (a b : DateTime) : select db .logs (windowed a b ++ logGroupFilters r) =
      select db' .logs (windowed a b ++ logGroupFilters r) :=
    select_congr h (List.mem_append_right _ (mem_logGroupFilters htenant))
  have hbaseline (f g : Filter) : select db .logs (f :: g :: logGroupFilters r) =
      select db' .logs (f :: g :: logGroupFilters r) :=
    select_congr h
      (List.mem_cons_of_mem _ (List.mem_cons_of_mem _ (mem_logGroupFilters htenant)))
  unfold computeNovelGroups
  simp only [hrows, hbaseline]

theorem conditionsMet_congr {conditions : List Rule}
    (htenant : ∀ c ∈ conditions, c.tenant = some tenant) (h : SameTenant tenant db db') :
    conditionsMet engine db now conditions = conditionsMet engine db' now conditions := by
  induction conditions with
  | nil => rfl
  | cons c cs ih =>
    obtain ⟨hc, hcs⟩ := List.forall_mem_cons.mp htenant
    unfold conditionsMet
    rw [computeValue_congr hc h, ih hcs]

/-- A rule about the tenant computes the same on both databases, whatever its kind. -/
theorem compute_congr (hscoped : r.Scoped tenant) (h : SameTenant tenant db db') :
    compute engine db r now = compute engine db' r now := by
  unfold compute
  rw [computeGroups_congr hscoped.self h, computeNovelGroups_congr hscoped.self h,
    conditionsMet_congr hscoped.conditions h, computeValue_congr hscoped.self h]

end Values

/-! ## The rules of a project -/

section Project

variable {tenant : String} {service : Option String} {r : Rule} {rules accepted : List Rule}
  {engine : Engine} {db db' : Database}

theorem applyProjectFilter_tenant (service : Option String) (h : ∀ t ∈ r.tenant, t = tenant) :
    (r.applyProjectFilter service (some tenant)).tenant = some tenant := by
  obtain ⟨fields, conditions⟩ := r
  rw [Rule.applyProjectFilter]
  dsimp only
  cases ht : fields.tenant with
  | none => rfl
  | some t => rw [h t ht]; rfl

/-- The filter of the project reaches the conditions. -/
theorem scoped_applyProjectFilter (service : Option String) (h : r.NamesNoOther tenant) :
    (r.applyProjectFilter service (some tenant)).Scoped tenant := by
  refine ⟨applyProjectFilter_tenant service h.1, ?_⟩
  obtain ⟨fields, conditions⟩ := r
  rw [Rule.applyProjectFilter]
  dsimp only
  rw [Rule.applyProjectFilters_eq_map]
  intro c hc
  obtain ⟨c', hc', rfl⟩ := List.mem_map.mp hc
  exact applyProjectFilter_tenant service (h.2 c' hc')

theorem scoped_of_loadRules (h : loadRules service (some tenant) rules = .ok accepted)
    (hnames : ∀ r ∈ rules, r.NamesNoOther tenant) : ∀ r ∈ accepted, r.Scoped tenant := by
  obtain ⟨rfl, -⟩ := parseRules_eq_ok h
  intro r hr
  obtain ⟨r', hr', rfl⟩ := List.mem_map.mp hr
  exact scoped_applyProjectFilter service (hnames r' hr')

theorem evaluateOnce_congr (hscoped : ∀ r ∈ rules, r.Scoped tenant)
    (h : SameTenant tenant db db') (dispatcher : Dispatcher) (sends : Sends) (now : DateTime)
    (state : AlertEngineState) :
    evaluateOnce engine db dispatcher sends now rules state =
      evaluateOnce engine db' dispatcher sends now rules state := by
  induction rules generalizing state with
  | nil => rfl
  | cons r rules ih =>
    obtain ⟨hr, hrules⟩ := List.forall_mem_cons.mp hscoped
    unfold evaluateOnce evaluateRule
    simp only [compute_congr hr h, ih hrules]

/-- **Isolation of the tenants.** The rules of a project about a tenant give the same values, the
same states and the same notifications on two databases with the same rows of this tenant. -/
theorem project_noninterference (hload : loadRules service (some tenant) rules = .ok accepted)
    (hnames : ∀ r ∈ rules, r.NamesNoOther tenant) (h : SameTenant tenant db db') :
    (∀ r ∈ accepted, ∀ now, compute engine db r now = compute engine db' r now) ∧
      ∀ dispatcher sends now state,
        evaluateOnce engine db dispatcher sends now accepted state =
          evaluateOnce engine db' dispatcher sends now accepted state := by
  have hscoped := scoped_of_loadRules hload hnames
  constructor
  · intro r hr now
    exact compute_congr (hscoped r hr) h
  · intro dispatcher sends now state
    exact evaluateOnce_congr hscoped h dispatcher sends now state

end Project

/-- A sign-up of a tenant at the second 100. -/
def signUp (tenant : String) : Events.StoredEvent where
  eventId := ⟨0⟩
  eventName := "signup"
  tenantId := some tenant
  actorId := "a"
  sessionId := "s"
  timestampClient := ⟨100000000000⟩
  receivedAt := ⟨100000000000⟩
  properties := .object []

/-- A database with sign-ups only. -/
def signUps (tenants : List String) : Database := ⟨[], tenants.map signUp, [], []⟩

/-- Fewer sign-ups than one, alone and as a condition. -/
def signUpRules : List Rule :=
  [{ name := "silence", kind := .telemetryCount, source := .events, windowSecs := 60,
      comparator := .lt, threshold := F64.ofInt 1 },
    { name := "drop", kind := .composite, conditions :=
        [{ kind := .relativeChange, source := .events, tenant := some "acme", windowSecs := 60 }] }]

/-- An engine for tables of one row, where all aggregates are the value of the row. -/
def singleRowEngine : Engine where
  aggregate _ values := .ok values.head?
  latest rows := rows.head?.map Prod.snd
  attributeText _ _ := none
  identifiesParameters := false

/-- The sign-ups of another tenant do not wake the rule up. -/
theorem project_noninterference_signUps :
    (∀ r ∈ signUpRules.map (Rule.applyProjectFilter none (some "acme")), ∀ now,
      compute singleRowEngine (signUps ["acme"]) r now =
        compute singleRowEngine (signUps ["other", "acme", "other"]) r now) ∧
      ∀ dispatcher sends now state,
        evaluateOnce singleRowEngine (signUps ["acme"]) dispatcher sends now
            (signUpRules.map (Rule.applyProjectFilter none (some "acme"))) state =
          evaluateOnce singleRowEngine (signUps ["other", "acme", "other"]) dispatcher sends now
            (signUpRules.map (Rule.applyProjectFilter none (some "acme"))) state := by
  have hsame : SameTenant "acme" (signUps ["acme"]) (signUps ["other", "acme", "other"]) :=
    ⟨rfl, by decide, rfl, rfl⟩
  refine @project_noninterference "acme" none signUpRules _ _ _ _ rfl ?_ hsame
  intro r hr
  unfold signUpRules at hr
  rcases List.mem_cons.mp hr with rfl | hr
  · exact ⟨fun t ht => (by cases ht), fun c hc => (by cases hc)⟩
  · obtain rfl := List.mem_singleton.mp hr
    refine ⟨fun t ht => (by cases ht), List.forall_mem_singleton.mpr ?_⟩
    intro t ht
    exact (Option.mem_some.mp ht).symm

end Datacat.Alerting
