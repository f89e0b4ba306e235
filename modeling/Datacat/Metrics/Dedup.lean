import Datacat.Metrics.Grpc

/-!
# What the Identifier of a Point Determines

Two stored points with the same instant and the same identifier agree on the content that the
identifier hashes: the metric and its kind, the service name, the values, the buckets and the
attributes of the point. The unit, the scope and the attributes of the resource are not
hashed, so replicas of a service that report the same values on one tick share a key.

## Main results

- `dedupBytes_inj`: the hashed bytes determine the hashed content.
- `sameMeasurement_of_key`: what two points with one key share.
- `key_of_other_replica`: one key for two replicas.
-/

namespace Datacat.Metrics

open Basics Otlp

theorem MetricType.hasNul_text (t : MetricType) : hasNul t.text = false := by
  cases t <;> decide

theorem MetricType.text_injective : Function.Injective MetricType.text := by
  intro s t h
  cases s <;> cases t <;> first | rfl | simp [MetricType.text] at h

/-! ## The hashed bytes -/

theorem double_append_inj {x y : F64} {r₁ r₂ : List UInt8}
    (h : leBytes 8 x.bits.toNat ++ r₁ = leBytes 8 y.bits.toNat ++ r₂) : x = y ∧ r₁ = r₂ := by
  obtain ⟨hbits, hrest⟩ := leBytes_append_inj x.bits.toNat_lt y.bits.toNat_lt h
  obtain ⟨bits⟩ := x
  exact ⟨congrArg F64.mk (UInt64.toNat_inj.mp hbits), hrest⟩

theorem int_append_inj {x y : Int64} {r₁ r₂ : List UInt8}
    (h : leBytes 8 x.toUInt64.toNat ++ r₁ = leBytes 8 y.toUInt64.toNat ++ r₂) :
    x = y ∧ r₁ = r₂ := by
  obtain ⟨hbits, hrest⟩ := leBytes_append_inj x.toUInt64.toNat_lt y.toUInt64.toNat_lt h
  exact ⟨congrArg UInt64.toInt64 (UInt64.toNat_inj.mp hbits), hrest⟩

section Assembly

variable [FloatFormat]

/-- The text of the buckets, empty when there are none. -/
def bucketsText (buckets : Option Value) : String := (buckets.map Value.toJsonString).getD ""

theorem hasNul_bucketsText [LawfulFloatFormat] (buckets : Option Value) :
    hasNul (bucketsText buckets) = false := by
  cases buckets with
  | none => rfl
  | some v => exact Value.hasNul_toJsonString v

/-- No value has an empty text, so absent buckets are told from present ones. -/
theorem bucketsText_injective [LawfulFloatFormat] : Function.Injective bucketsText := by
  intro a b h
  cases a with
  | none =>
    cases b with
    | none => rfl
    | some w => exact absurd h.symm w.toJsonString_ne_empty
  | some v =>
    cases b with
    | none => exact absurd h v.toJsonString_ne_empty
    | some w => exact congrArg some (Value.toJsonString_injective h)

/-- What the identifier of a point hashes. -/
def StoredMetricPoint.hashed (p : StoredMetricPoint) : List UInt8 :=
  dedupBytes p.time p.metricName p.metricType p.serviceName p.valueDouble p.valueInt p.count
    p.sum p.buckets p.attributes

/-- The metric and the service are named without U+0000, as every text of the database. -/
def StoredMetricPoint.plainTexts (p : StoredMetricPoint) : Bool :=
  !hasNul p.metricName && !hasNul (p.serviceName.getD "")

/-- What two points with one key share. An absent service counts as the empty name, an absent
number as zero. -/
structure SameMeasurement (p q : StoredMetricPoint) : Prop where
  time : p.time = q.time
  metricName : p.metricName = q.metricName
  metricType : p.metricType = q.metricType
  serviceName : p.serviceName.getD "" = q.serviceName.getD ""
  valueDouble : p.valueDouble.getD ⟨0⟩ = q.valueDouble.getD ⟨0⟩
  valueInt : p.valueInt.getD 0 = q.valueInt.getD 0
  count : p.count.getD 0 = q.count.getD 0
  sum : p.sum.getD ⟨0⟩ = q.sum.getD ⟨0⟩
  buckets : p.buckets = q.buckets
  attributes : p.attributes = q.attributes

/-- **The hashed bytes determine the hashed content**: the texts end at a zero byte, and the
numbers have a fixed width. -/
theorem dedupBytes_inj [LawfulFloatFormat] {p q : StoredMetricPoint} (htime : p.time = q.time)
    (hplain₁ : p.plainTexts = true) (hplain₂ : q.plainTexts = true)
    (h : p.hashed = q.hashed) : SameMeasurement p q := by
  simp only [StoredMetricPoint.plainTexts, Bool.and_eq_true, Bool.not_eq_true'] at hplain₁ hplain₂
  have hbuckets : ∀ buckets : Option Value,
      (buckets.map Value.toJsonString).getD "" = bucketsText buckets := fun _ => rfl
  simp only [StoredMetricPoint.hashed, dedupBytes, hbuckets, List.append_assoc, List.cons_append,
    List.nil_append] at h
  obtain ⟨-, h⟩ := List.append_inj h (by simp)
  obtain ⟨hname, h⟩ := asBytes_append_inj hplain₁.1 hplain₂.1 h
  obtain ⟨htype, h⟩ := asBytes_append_inj p.metricType.hasNul_text q.metricType.hasNul_text h
  obtain ⟨hservice, h⟩ := asBytes_append_inj hplain₁.2 hplain₂.2 h
  obtain ⟨hdouble, h⟩ := double_append_inj h
  obtain ⟨hint, h⟩ := int_append_inj h
  obtain ⟨hcount, h⟩ := int_append_inj h
  obtain ⟨hsum, h⟩ := double_append_inj h
  obtain ⟨hbuckets, hattributes⟩ :=
    asBytes_append_inj (hasNul_bucketsText p.buckets) (hasNul_bucketsText q.buckets) h
  exact ⟨htime, hname, MetricType.text_injective htype, hservice, hdouble, hint, hcount, hsum,
    bucketsText_injective hbuckets, Value.toJsonString_injective (asBytes_injective hattributes)⟩

/-! ## Points with one key -/

variable [Sha256]

/-- A point that one of the two transports stores. -/
inductive Flattened (p : StoredMetricPoint) : Prop where
  | http (req : ExportMetricsServiceRequest) (receivedAt : DateTime) (limits : ValidationLimits)
      (maxRecords : Nat) (out : MetricsParse)
      (hout : otlpToMetrics req receivedAt limits maxRecords = some out) (hp : p ∈ out.stored)
  | grpc (req : Grpc.ExportMetricsServiceRequest) (receivedAt : DateTime)
      (limits : ValidationLimits) (maxRecords : Nat) (out : MetricsParse)
      (hout : Grpc.protoToMetrics req receivedAt limits maxRecords = some out)
      (hp : p ∈ out.stored)

theorem Flattened.assembled {p : StoredMetricPoint} (h : Flattened p) :
    ∃ f : MetricFields, p = assemble f := by
  cases h with
  | http req receivedAt limits maxRecords out hout hp =>
    rw [otlpToMetrics_eq] at hout
    obtain ⟨window, -, rfl⟩ := Option.map_eq_some_iff.mp hout
    obtain ⟨c, -, rfl⟩ := List.mem_map.mp hp
    exact ⟨_, rfl⟩
  | grpc req receivedAt limits maxRecords out hout hp =>
    rw [Grpc.protoToMetrics_eq] at hout
    obtain ⟨window, -, rfl⟩ := Option.map_eq_some_iff.mp hout
    obtain ⟨c, -, rfl⟩ := List.mem_map.mp hp
    exact ⟨_, rfl⟩

theorem pointId_assemble (f : MetricFields) :
    (assemble f).pointId = truncatedDigest (assemble f).hashed := by
  rw [assemble, dedupId, StoredMetricPoint.hashed]

def StoredMetricPoint.correlation (p : StoredMetricPoint) : Correlation where
  tenantId := p.tenantId
  actorId := p.actorId
  sessionId := p.sessionId

/-- Points with the same attributes have the same correlation, as far as the attributes give
it. -/
theorem sameCorrelation_assemble {f g : MetricFields}
    (h : (assemble f).attributes = (assemble g).attributes) :
    SameCorrelation (assemble f).attributes (assemble f).correlation
      (assemble g).correlation := by
  have hattrs : f.attrs = g.attrs := Value.ofMap_injective h
  have hsame := sameCorrelation_correlate f.attrs f.resourceAttrs g.resourceAttrs
  simp only [assemble, StoredMetricPoint.correlation, ← hattrs]
  exact hsame

/-- **One key, one measurement**: two stored points with the same instant and the same
identifier agree on everything that is hashed, when the digest does not collide on the two. -/
theorem sameMeasurement_of_key [LawfulFloatFormat] {p q : StoredMetricPoint} (hp : Flattened p)
    (hq : Flattened q) (hplain₁ : p.plainTexts = true) (hplain₂ : q.plainTexts = true)
    (hinj : Set.InjOn truncatedDigest {p.hashed, q.hashed})
    (hkey : p.key = q.key) :
    SameMeasurement p q ∧ SameCorrelation p.attributes p.correlation q.correlation := by
  obtain ⟨f, rfl⟩ := hp.assembled
  obtain ⟨g, rfl⟩ := hq.assembled
  obtain ⟨htime, hid⟩ := Prod.mk.inj hkey
  rw [pointId_assemble, pointId_assemble] at hid
  have hhashed := hinj (Set.mem_insert ..) (Set.mem_insert_of_mem _ rfl) hid
  have hsame := dedupBytes_inj htime hplain₁ hplain₂ hhashed
  exact ⟨hsame, sameCorrelation_assemble hsame.attributes⟩

end Assembly

/-! ## One gauge of two replicas -/

def loadPoint : NumberDataPoint where
  timeUnixNano := some (.str "1782036000000000000")
  asDouble := none
  asInt := some (.str "3")
  attributes := []

def loadMetric : Metric where
  name := some "load"
  unit := none
  gauge := some { dataPoints := [loadPoint] }
  sum := none
  histogram := none

def replicaResource (replica : String) : Json.Resource where
  attributes := [
    { key := "service.name",
      value := some { Json.AnyValue.empty with stringValue := some "api" } },
    { key := "service.instance.id",
      value := some { Json.AnyValue.empty with stringValue := some replica } }]

/-- The gauge, sent by one of the replicas of the service. -/
def loadRequest (replica : String) : ExportMetricsServiceRequest where
  resourceMetrics := [{
    resource := some (replicaResource replica)
    scopeMetrics := [{ scope := none, metrics := [loadMetric] }] }]

def loadContext (replica : String) : PointContext where
  resource := some (replicaResource replica)
  scope := none
  metric := loadMetric
  point := .number .gauge loadPoint

def loadTime : DateTime := ⟨1782036000000000000⟩

/-- What is stored of it. -/
def loadStored (replica : String) : StoredMetricPoint :=
  @assemble FloatFormat.ofBits Sha256.standard ((loadContext replica).fields loadTime)

theorem loadStored_flattened (replica : String) :
    @Flattened FloatFormat.ofBits Sha256.standard (loadStored replica) := by
  obtain ⟨window, hwindow, hinside⟩ : ∃ window, skewWindow loadTime testLimits = some window ∧
      (!outsideWindow window loadTime) = true := by
    apply (Option.any_eq_true _ _).mp
    decide +kernel
  have htime : ((loadContext replica).fields loadTime).time = loadTime := by
    have hnanos : Json.nanos (some (.str "1782036000000000000")) = some loadTime := by
      decide +kernel
    show (Json.nanos loadPoint.timeUnixNano).getD loadTime = loadTime
    rw [loadPoint, hnanos, Option.getD_some]
  have hout := @otlpToMetrics_eq FloatFormat.ofBits Sha256.standard (loadRequest replica) loadTime
    testLimits 2048
  rw [hwindow, Option.map_some] at hout
  refine @Flattened.http FloatFormat.ofBits Sha256.standard _ _ _ _ _ _ hout ?_
  refine List.mem_map.mpr ⟨loadContext replica, ?_, rfl⟩
  have hpoints : (loadRequest replica).points = [loadContext replica] := rfl
  rw [hpoints, List.filter_cons, htime, if_pos hinside]
  exact List.mem_cons_self ..

/-- Neither replica is hashed. -/
theorem loadStored_hashed : @StoredMetricPoint.hashed FloatFormat.ofBits (loadStored "a")
    = @StoredMetricPoint.hashed FloatFormat.ofBits (loadStored "b") := by
  decide +kernel

theorem pointId_loadStored (replica : String) : (loadStored replica).pointId
    = @truncatedDigest Sha256.standard
        (@StoredMetricPoint.hashed FloatFormat.ofBits (loadStored replica)) :=
  @pointId_assemble FloatFormat.ofBits Sha256.standard _

theorem loadStored_key : (loadStored "a").key = (loadStored "b").key := by
  rw [StoredMetricPoint.key, StoredMetricPoint.key, pointId_loadStored, pointId_loadStored,
    loadStored_hashed]
  rfl

theorem loadStored_injOn : Set.InjOn (@truncatedDigest Sha256.standard)
    {@StoredMetricPoint.hashed FloatFormat.ofBits (loadStored "a"),
      @StoredMetricPoint.hashed FloatFormat.ofBits (loadStored "b")} := by
  rw [loadStored_hashed, Set.pair_eq_singleton]
  exact Set.injOn_singleton ..

/-- The points of the two replicas share what is hashed. -/
theorem sameMeasurement_of_key_load : SameMeasurement (loadStored "a") (loadStored "b") ∧
    SameCorrelation (loadStored "a").attributes (loadStored "a").correlation
      (loadStored "b").correlation :=
  @sameMeasurement_of_key FloatFormat.ofBits Sha256.standard FloatFormat.ofBits_lawful _ _
    (loadStored_flattened "a") (loadStored_flattened "b") (by decide +kernel) (by decide +kernel)
    loadStored_injOn loadStored_key

/-- They have one key, whatever the digest, and not the same attributes of the resource: the
merge discards one of them. -/
theorem key_of_other_replica :
    @Flattened FloatFormat.ofBits Sha256.standard (loadStored "a") ∧
      @Flattened FloatFormat.ofBits Sha256.standard (loadStored "b") ∧
      Set.InjOn (@truncatedDigest Sha256.standard)
        {@StoredMetricPoint.hashed FloatFormat.ofBits (loadStored "a"),
          @StoredMetricPoint.hashed FloatFormat.ofBits (loadStored "b")} ∧
      (loadStored "a").key = (loadStored "b").key ∧
      (loadStored "a").resourceAttributes ≠ (loadStored "b").resourceAttributes :=
  ⟨loadStored_flattened "a", loadStored_flattened "b", loadStored_injOn, loadStored_key,
    by decide +kernel⟩

end Datacat.Metrics
