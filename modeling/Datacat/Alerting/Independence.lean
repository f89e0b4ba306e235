import Datacat.Alerting.Eval

/-!
# Independence of the Rules

The states of all rules lie in one map and the notifiers of all rules in another, both under names.
A rule owns the keys made of its name; what it does is its own as long as no other rule owns one of
them, and as long as no other rule has its name.

## Main results

- `independent_iff`: the rules are independent when their keys do not meet and no two of one name
  have somebody to tell.
- `Independent.evaluateRule`: an evaluation of one rule then leaves the others as they are.
-/

namespace Datacat.Alerting

open Basics
open Events (bind_eq_ok)

/-! ## Keys -/

/-- `{name}::`. -/
def groupPrefix (r : Rule) : List Char := (r.name ++ "::").toList

/-- The keys of a rule: its name, or all that begin with it when it has groups. -/
def Rule.Owns (r : Rule) (key : String) : Prop :=
  match r.kind.isGrouped with
  | true => groupPrefix r <+: key.toList
  | false => key = r.name

/-- Two rules own a common key. -/
def keysMeet (r r' : Rule) : Bool :=
  match r.kind.isGrouped, r'.kind.isGrouped with
  | true, true =>
    (groupPrefix r).isPrefixOf (groupPrefix r') || (groupPrefix r').isPrefixOf (groupPrefix r)
  | true, false => (groupPrefix r).isPrefixOf r'.name.toList
  | false, true => (groupPrefix r').isPrefixOf r.name.toList
  | false, false => r.name == r'.name

/-- The answers that the queries of a rule may give. -/
def Rule.Fits (r : Rule) : Computed → Prop
  | .scalar _ => r.kind.isGrouped = false ∧ r.kind ≠ .composite
  | .composite met => r.kind = .composite ∧ met ≤ r.conditions.length
  | .groups groups => r.kind.isGrouped = true ∧ (groups.map Prod.fst).Nodup

section Keys

variable {r r' : Rule} {key : String}

theorem keysMeet_iff : keysMeet r r' = true ↔ ∃ key, r.Owns key ∧ r'.Owns key := by
  unfold keysMeet Rule.Owns
  cases hr : r.kind.isGrouped <;> cases hr' : r'.kind.isGrouped <;> dsimp only
  case false.false =>
    -- A rule without groups owns its name only.
    constructor
    · intro h
      exact ⟨r.name, rfl, eq_of_beq h⟩
    · rintro ⟨key, rfl, h⟩
      exact beq_of_eq h
  case false.true =>
    rw [List.isPrefixOf_iff_prefix]
    constructor
    · intro h
      exact ⟨r.name, rfl, h⟩
    · rintro ⟨key, rfl, h⟩
      exact h
  case true.false =>
    rw [List.isPrefixOf_iff_prefix]
    constructor
    · intro h
      exact ⟨r'.name, h, rfl⟩
    · rintro ⟨key, h, rfl⟩
      exact h
  case true.true =>
    rw [Bool.or_eq_true, List.isPrefixOf_iff_prefix, List.isPrefixOf_iff_prefix]
    constructor
    · -- The longer beginning is a key of both.
      rintro (h | h)
      · exact ⟨r'.name ++ "::", h, List.prefix_rfl⟩
      · exact ⟨r.name ++ "::", List.prefix_rfl, h⟩
    · rintro ⟨key, h, h'⟩
      exact List.prefix_or_prefix_of_prefix h h'

theorem exists_owns (r : Rule) : ∃ key, r.Owns key := by
  unfold Rule.Owns
  cases r.kind.isGrouped with
  | true => exact ⟨r.name ++ "::", List.prefix_rfl⟩
  | false => exact ⟨r.name, rfl⟩

theorem groupStateKey_toList (name group : String) :
    (Round.groupStateKey name group).toList = (name ++ "::").toList ++ group.toList := by
  rw [Round.groupStateKey, String.toList_append]

theorem owns_groupStateKey (h : r.kind.isGrouped = true) (group : String) :
    r.Owns (Round.groupStateKey r.name group) := by
  unfold Rule.Owns
  rw [h, groupStateKey_toList]
  exact List.prefix_append _ _

/-- A key that begins with the name of the rule is the key of a group. -/
theorem groupStateKey_of_dropPrefix {group : List Char}
    (h : key.toList.dropPrefix? (groupPrefix r) = some group) :
    Round.groupStateKey r.name (String.ofList group) = key := by
  obtain ⟨start, hkey, hstart⟩ := List.dropPrefix?_eq_some_iff.mp h
  apply String.toList_injective
  rw [groupStateKey_toList, String.toList_ofList, hkey, eq_of_beq hstart]
  rfl

end Keys

/-! ## What the queries answer -/

section Answers

variable {engine : Engine} {db : Database} {r : Rule} {now : DateTime} {met : Nat}
  {groups : List (String × F64)} {computed : Computed}

theorem nodup_namedGroups {counted : List (Option String × Nat)}
    (h : (counted.map Prod.fst).Nodup) : ((namedGroups counted).map Prod.fst).Nodup := by
  have hkeys : (namedGroups counted).map Prod.fst = (counted.map Prod.fst).filterMap id := by
    unfold namedGroups
    rw [List.map_filterMap, List.filterMap_map]
    apply List.filterMap_congr
    rintro ⟨key, n⟩ -
    cases key <;> rfl
  rw [hkeys]
  apply List.Nodup.filterMap _ h
  intro a b key ha hb
  exact (Option.mem_def.mp ha).trans (Option.mem_def.mp hb).symm

theorem nodup_countGroups (keys : List (Option String)) :
    ((countGroups keys).map Prod.fst).Nodup := by
  have hkeys : (countGroups keys).map Prod.fst = keys.dedup := by
    unfold countGroups
    rw [List.map_map]
    exact List.map_id _
  rw [hkeys]
  exact List.nodup_dedup keys

theorem nodup_computeGroups (h : computeGroups engine db r now = .ok groups) :
    (groups.map Prod.fst).Nodup := by
  unfold computeGroups at h
  obtain ⟨start, -, h⟩ := bind_eq_ok.mp h
  obtain ⟨expr, -, h⟩ := bind_eq_ok.mp h
  split at h
  · cases h
  · rw [← Except.ok.inj h]
    exact nodup_namedGroups (nodup_countGroups _)

theorem nodup_computeNovelGroups (h : computeNovelGroups engine db r now = .ok groups) :
    (groups.map Prod.fst).Nodup := by
  unfold computeNovelGroups at h
  obtain ⟨start, -, h⟩ := bind_eq_ok.mp h
  obtain ⟨baselineStart, -, h⟩ := bind_eq_ok.mp h
  obtain ⟨expr, -, h⟩ := bind_eq_ok.mp h
  split at h
  · cases h
  · rw [← Except.ok.inj h]
    apply nodup_namedGroups
    exact (nodup_countGroups _).sublist (List.filter_sublist.map Prod.fst)

theorem conditionsMet_le {conditions : List Rule}
    (h : conditionsMet engine db now conditions = .ok met) : met ≤ conditions.length := by
  induction conditions generalizing met with
  | nil => exact (Except.ok.inj h).symm.le
  | cons c cs ih =>
    unfold conditionsMet at h
    obtain ⟨value, -, h⟩ := bind_eq_ok.mp h
    obtain ⟨n, hn, h⟩ := bind_eq_ok.mp h
    have hle := ih hn
    have hmet := (Except.ok.inj h).symm
    rw [List.length_cons]
    split at hmet <;> omega

theorem map_eq_ok {α β : Type} {f : α → β} {x : Except Failure α} {b : β}
    (h : x.map f = .ok b) : ∃ a, x = .ok a ∧ f a = b := by
  cases x with
  | error e => cases h
  | ok a => exact ⟨a, rfl, Except.ok.inj h⟩

theorem fits_of_compute (h : compute engine db r now = .ok computed) : r.Fits computed := by
  unfold compute at h
  split at h
  · rename_i hkind
    obtain ⟨groups, hgroups, rfl⟩ := map_eq_ok h
    exact ⟨by rw [hkind]; rfl, nodup_computeGroups hgroups⟩
  · rename_i hkind
    obtain ⟨groups, hgroups, rfl⟩ := map_eq_ok h
    exact ⟨by rw [hkind]; rfl, nodup_computeNovelGroups hgroups⟩
  · rename_i hkind
    obtain ⟨met, hmet, rfl⟩ := map_eq_ok h
    exact ⟨hkind, conditionsMet_le hmet⟩
  · rename_i hcount hnovel hcomposite
    obtain ⟨value, -, rfl⟩ := map_eq_ok h
    refine ⟨?_, hcomposite⟩
    cases hkind : r.kind with
    | logGroupCount => exact absurd hkind hcount
    | logNewSignature => exact absurd hkind hnovel
    | _ => rfl

end Answers

/-! ## What an evaluation touches -/

/-- An evaluation by a rule, of a key of its own. -/
structure Round.Ours (round : Round) (e : Evaluation) : Prop where
  rule : e.rule = round.rule
  notifiers : e.notifiers = round.notifiers
  owns : round.rule.Owns e.key

section Frame

variable {round : Round} {state : AlertEngineState} {computed : Computed} {x : Label}
  {es : List Evaluation} {key : String} {entry : RuleState} {e : Evaluation} {d : Delivery}

theorem perform_append (state : AlertEngineState) (first second : List Evaluation) :
    perform state (first ++ second) =
      ((perform (perform state first).1 second).1,
        (perform state first).2 ++ (perform (perform state first).1 second).2) := by
  induction first generalizing state with
  | nil => rfl
  | cons e first ih =>
    obtain ⟨hstate, hlabels⟩ := Prod.mk.inj (ih (processTransition state e).1)
    apply Prod.ext
    · exact hstate
    · exact congrArg (List.cons _) hlabels

/-- All that a rule does is a sequence of evaluations of its own keys. -/
theorem exists_performComputed_eq (hfits : round.rule.Fits computed) (state : AlertEngineState) :
    ∃ es, (∀ e ∈ es, round.Ours e) ∧ round.performComputed state computed = perform state es := by
  cases computed with
  | scalar value =>
    refine ⟨_, List.forall_mem_singleton.mpr ⟨rfl, rfl, ?_⟩, rfl⟩
    unfold Rule.Owns
    rw [hfits.1]
    rfl
  | composite met =>
    refine ⟨_, List.forall_mem_singleton.mpr ⟨rfl, rfl, ?_⟩, rfl⟩
    unfold Rule.Owns
    rw [hfits.1]
    rfl
  | groups groups =>
    refine ⟨_, ?_, (perform_append _ _ _).symm⟩
    intro e he
    rcases List.mem_append.mp he with he | he
    all_goals
      obtain ⟨g, -, rfl⟩ := List.mem_map.mp he
      exact ⟨rfl, rfl, owns_groupStateKey hfits.1 _⟩

/-- A key that is not evaluated keeps its state. -/
theorem get_perform (h : ∀ e ∈ es, e.key ≠ key) : (perform state es).1.get key = state.get key := by
  induction es generalizing state with
  | nil => rfl
  | cons e es ih =>
    obtain ⟨he, hes⟩ := List.forall_mem_cons.mp h
    have hstep : Step state (e, (processTransition state e).2) (processTransition state e).1 := rfl
    calc (perform state (e :: es)).1.get key
        = (processTransition state e).1.get key := ih hes
      _ = state.get key := hstep.get_other he.symm

/-- A rule leaves the keys of the rules whose keys its own do not meet. -/
theorem get_performComputed {r : Rule} (hfits : round.rule.Fits computed)
    (hapart : keysMeet round.rule r = false) (howns : r.Owns key) :
    (round.performComputed state computed).1.get key = state.get key := by
  obtain ⟨es, hours, hperform⟩ := exists_performComputed_eq hfits state
  rw [hperform]
  apply get_perform
  rintro e he rfl
  rw [keysMeet_iff.mpr ⟨e.key, (hours e he).owns, howns⟩] at hapart
  cases hapart

theorem deliveries_of_mem_perform (h : x ∈ (perform state es).2) :
    x.1 ∈ es ∧ ∃ entry, x.2 = x.1.deliveries entry := by
  refine ⟨mem_of_mem_labelsOf h, ?_⟩
  induction es generalizing state with
  | nil => cases h
  | cons e es ih =>
    rcases List.mem_cons.mp h with rfl | h
    · exact ⟨_, rfl⟩
    · exact ih h

/-- What is delivered goes to a notifier of the evaluation, in the name of its rule. -/
theorem of_mem_deliveries (h : d ∈ e.deliveries entry) :
    d.alert.ruleName = e.rule.name ∧ d.notifier ∈ e.notifiers := by
  unfold Evaluation.deliveries at h
  cases hdue : e.due entry with
  | none =>
    rw [hdue] at h
    cases h
  | some alert =>
    rw [hdue] at h
    obtain ⟨i, hi, rfl⟩ := List.mem_mapIdx.mp h
    refine ⟨?_, List.getElem_mem hi⟩
    rw [due_eq] at hdue
    split at hdue
    · rw [← Option.some.inj hdue]
      rfl
    · cases hdue

end Frame

/-! ## Independence -/

/-- Whatever the queries answer, a rule changes no state of another rule, notifies nobody in the
name of another, and tells those that it configured. -/
structure Independent (rules : List Rule) (settings : DispatchSettings)
    (defaults : List Notifier) : Prop where
  apart : ∀ (i j : Nat) (r r' : Rule), rules[i]? = some r → rules[j]? = some r' → i ≠ j →
    ∀ (state : AlertEngineState) (sends : Sends) (now : DateTime) (computed : Computed),
      r.Fits computed →
      let out := Round.performComputed
        ⟨r, (Dispatcher.build rules settings defaults).forRule r, sends, now⟩ state computed
      (∀ key, r'.Owns key → out.1.get key = state.get key) ∧
        ∀ x ∈ out.2, ∀ d ∈ x.2, d.alert.ruleName ≠ r'.name
  dispatched : ∀ r ∈ rules,
    (Dispatcher.build rules settings defaults).forRule r = r.configured settings defaults

/-- Two rules have the same name, and somebody to tell. -/
def nameShared (settings : DispatchSettings) (defaults : List Notifier) (r r' : Rule) : Prop :=
  r.name = r'.name ∧
    (r.configured settings defaults ≠ [] ∨ r'.configured settings defaults ≠ [])

section Independence

variable {rules accepted : List Rule} {settings : DispatchSettings} {defaults : List Notifier}
  {r : Rule} {key : String}

/-- The state in which one key fires and nobody was told. -/
def onlyFiring (key : String) : AlertEngineState := BTreeMap.empty.insert key ⟨true, none⟩

/-- A rule can be made to resolve a key of its own that fires. -/
theorem exists_resolve (hvalid : r.validate = .ok ()) (howns : r.Owns key)
    (notifiers : List Notifier) (sends : Sends) (now : DateTime) :
    ∃ computed e, r.Fits computed ∧ e.key = key ∧ e.breaching = false ∧ e.rule = r ∧
      e.notifiers = notifiers ∧
      Round.performComputed ⟨r, notifiers, sends, now⟩ (onlyFiring key) computed =
        perform (onlyFiring key) [e] := by
  unfold Rule.Owns at howns
  cases hgrouped : r.kind.isGrouped with
  | true =>
    rw [hgrouped] at howns
    -- No group is seen, so the one that fires is stale.
    obtain ⟨group, hgroup⟩ := howns
    have hdrop : key.toList.dropPrefix? (groupPrefix r) = some group :=
      List.dropPrefix?_eq_some_iff.mpr ⟨_, hgroup.symm, BEq.rfl⟩
    have hstale : Round.staleGroups ⟨r, notifiers, sends, now⟩ [] (onlyFiring key) =
        [String.ofList group] := by
      unfold Round.staleGroups onlyFiring
      rw [show (BTreeMap.empty.insert key (⟨true, none⟩ : RuleState)).entries =
        [(key, ⟨true, none⟩)] from rfl, List.filterMap_cons]
      unfold groupPrefix at hdrop
      dsimp only
      rw [hdrop]
      rfl
    refine ⟨.groups [], Round.group ⟨r, notifiers, sends, now⟩ (String.ofList group) false
      (F64.ofInt 0), ⟨hgrouped, List.nodup_nil⟩, groupStateKey_of_dropPrefix hdrop, rfl, rfl, rfl,
      ?_⟩
    have hgone : Round.performComputed ⟨r, notifiers, sends, now⟩ (onlyFiring key) (.groups []) =
        perform (onlyFiring key) ((Round.staleGroups ⟨r, notifiers, sends, now⟩ []
          (onlyFiring key)).map fun g =>
            Round.group ⟨r, notifiers, sends, now⟩ g false (F64.ofInt 0)) := rfl
    rw [hgone, hstale]
    rfl
  | false =>
    rw [hgrouped] at howns
    by_cases hcomposite : r.kind = .composite
    · -- No condition is met, and there is one.
      have hconditions := conditions_ne_nil_of_validate hvalid hcomposite
      refine ⟨.composite 0, _, ⟨hcomposite, Nat.zero_le _⟩, howns.symm, ?_, rfl, rfl, rfl⟩
      dsimp only [Round.single]
      cases r.op.getD .all with
      | all => exact beq_false_of_ne (List.length_pos_of_ne_nil hconditions).ne
      | any => rfl
    · -- The value is not a number.
      exact ⟨.scalar F64.nan, _, ⟨hgrouped, hcomposite⟩, howns.symm,
        Comparator.compare_nan r.comparator r.threshold, rfl, rfl, rfl⟩

/-- The resolution changes the state of the key, and is delivered to all. -/
theorem perform_resolve {e : Evaluation} (hbreaching : e.breaching = false) :
    (perform (onlyFiring e.key) [e]).1.get e.key ≠ (onlyFiring e.key).get e.key ∧
      (e.notifiers ≠ [] → ∃ x ∈ (perform (onlyFiring e.key) [e]).2, ∃ d ∈ x.2,
        d.alert.ruleName = e.rule.name) := by
  have hentry : (onlyFiring e.key).entry e.key = ⟨true, none⟩ := by
    unfold AlertEngineState.entry onlyFiring
    rw [BTreeMap.get_insert, if_pos rfl]
    rfl
  constructor
  · -- The key was firing, and is not after a value that does not breach.
    intro h
    have hget : (perform (onlyFiring e.key) [e]).1.get e.key =
        some (e.after ((onlyFiring e.key).entry e.key)) := by
      show ((onlyFiring e.key).insert e.key _).get e.key = _
      rw [BTreeMap.get_insert, if_pos rfl]
    have hbefore : (onlyFiring e.key).get e.key = some ⟨true, none⟩ := by
      unfold onlyFiring
      rw [BTreeMap.get_insert, if_pos rfl]
    rw [hget, hbefore] at h
    have hfiring : e.breaching = true := congrArg RuleState.firing (Option.some.inj h)
    rw [hbreaching] at hfiring
    cases hfiring
  · -- A resolution waits for no cooldown, so it is due.
    intro hnotifiers
    refine ⟨(e, e.deliveries ((onlyFiring e.key).entry e.key)), List.mem_singleton.mpr rfl, ?_⟩
    have hdue : e.due ⟨true, none⟩ = some (e.alert .resolved) := by
      unfold Evaluation.due
      rw [hbreaching]
      rfl
    rw [hentry]
    unfold Evaluation.deliveries
    rw [hdue]
    have hpos := List.length_pos_of_ne_nil hnotifiers
    exact ⟨_, List.mem_mapIdx.mpr ⟨0, hpos, rfl⟩, rfl⟩

/-- **Independence of the rules.** Accepted rules are independent exactly when no two own a common
key and no two share a name that somebody is told about. -/
theorem independent_iff (h : parseRules rules = .ok accepted) :
    Independent accepted settings defaults ↔
      ∀ (i j : Nat) (r r' : Rule), accepted[i]? = some r → accepted[j]? = some r' → i ≠ j →
        keysMeet r r' = false ∧ ¬ nameShared settings defaults r r' := by
  obtain ⟨rfl, hvalid⟩ := parseRules_eq_ok h
  constructor
  · rintro ⟨hapart, hdispatched⟩ i j r r' hi hj hij
    have hr := List.mem_of_getElem? hi
    have hr' := List.mem_of_getElem? hj
    constructor
    · by_contra hmeet
      obtain ⟨key, howns, howns'⟩ := keysMeet_iff.mp (Bool.not_eq_false _ ▸ hmeet)
      obtain ⟨computed, e, hfits, rfl, hbreaching, -, -, hperform⟩ := exists_resolve (hvalid r hr)
        howns ((Dispatcher.build accepted settings defaults).forRule r) (fun _ _ => true) ⟨0⟩
      have hframe := (hapart i j r r' hi hj hij (onlyFiring e.key) (fun _ _ => true) ⟨0⟩
        computed hfits).1
      rw [hperform] at hframe
      exact (perform_resolve hbreaching).1 (hframe e.key howns')
    · rintro ⟨hname, hsome⟩
      -- Both are dispatched to the same notifiers, so that both have some.
      have hsame : r.configured settings defaults = r'.configured settings defaults := by
        rw [← hdispatched r hr, ← hdispatched r' hr', Dispatcher.forRule, Dispatcher.forRule, hname]
      have hne : (Dispatcher.build accepted settings defaults).forRule r ≠ [] := by
        rw [hdispatched r hr]
        rcases hsome with hsome | hsome
        · exact hsome
        · rwa [hsame]
      obtain ⟨key, howns⟩ := exists_owns r
      obtain ⟨computed, e, hfits, rfl, hbreaching, hrule, hnotifiers, hperform⟩ := exists_resolve
        (hvalid r hr) howns ((Dispatcher.build accepted settings defaults).forRule r)
        (fun _ _ => true) ⟨0⟩
      have hsilent := (hapart i j r r' hi hj hij (onlyFiring e.key) (fun _ _ => true) ⟨0⟩
        computed hfits).2
      rw [hperform] at hsilent
      rw [← hnotifiers] at hne
      obtain ⟨x, hx, d, hd, hruleName⟩ := (perform_resolve hbreaching).2 hne
      apply hsilent x hx d hd
      rw [hruleName, hrule, hname]
  · intro hcondition
    have hdispatched : ∀ r ∈ accepted,
        (Dispatcher.build accepted settings defaults).forRule r = r.configured settings defaults := by
      intro r hr
      obtain ⟨r', hr', hname, hforRule⟩ := exists_forRule_eq_configured hr
      obtain ⟨i, hi⟩ := List.mem_iff_getElem?.mp hr
      obtain ⟨j, hj⟩ := List.mem_iff_getElem?.mp hr'
      rw [hforRule]
      by_cases hij : i = j
      · subst hij
        rw [Option.some.inj (hi.symm.trans hj)]
      · -- Neither rule of the name has anybody to tell.
        have hshared := (hcondition i j r r' hi hj hij).2
        unfold nameShared at hshared
        rw [not_and, not_or, not_not, not_not] at hshared
        obtain ⟨hnone, hnone'⟩ := hshared hname.symm
        rw [hnone, hnone']
    refine ⟨?_, hdispatched⟩
    intro i j r r' hi hj hij state sends now computed hfits
    obtain ⟨hmeet, hshared⟩ := hcondition i j r r' hi hj hij
    let round : Round := ⟨r, (Dispatcher.build accepted settings defaults).forRule r, sends, now⟩
    constructor
    · intro key howns'
      exact @get_performComputed round state computed key r' hfits hmeet howns'
    · obtain ⟨es, hours, hperform⟩ := @exists_performComputed_eq round computed hfits state
      rw [hperform]
      intro x hx d hd hruleName
      obtain ⟨he, entry, hdeliveries⟩ := deliveries_of_mem_perform hx
      rw [hdeliveries] at hd
      obtain ⟨hname, hnotifier⟩ := of_mem_deliveries hd
      apply hshared
      rw [(hours x.1 he).rule] at hname
      refine ⟨hname.symm.trans hruleName, Or.inl ?_⟩
      rw [(hours x.1 he).notifiers] at hnotifier
      rw [← hdispatched r (List.mem_of_getElem? hi)]
      exact List.ne_nil_of_mem hnotifier

/-- In an independent list, the evaluation of a rule changes the states of its own keys only, and
whoever is told of it is told in its name. -/
theorem Independent.evaluateRule {engine : Engine} {db : Database} {sends : Sends} {now : DateTime}
    {state state' : AlertEngineState} {labels : List Label} {i j : Nat} {r' : Rule}
    (h : Independent rules settings defaults) (hi : rules[i]? = some r) (hj : rules[j]? = some r')
    (hij : i ≠ j)
    (heval : evaluateRule engine db
      ⟨r, (Dispatcher.build rules settings defaults).forRule r, sends, now⟩ state =
        some (state', labels)) :
    (∀ key, r'.Owns key → state'.get key = state.get key) ∧
      ∀ x ∈ labels, ∀ d ∈ x.2, d.alert.ruleName ≠ r'.name := by
  unfold Alerting.evaluateRule at heval
  split at heval
  · rename_i computed hcomputed
    obtain ⟨rfl, rfl⟩ := Prod.mk.inj (Option.some.inj heval)
    exact h.apart i j r r' hi hj hij state sends now computed (fits_of_compute hcomputed)
  · obtain ⟨rfl, rfl⟩ := Prod.mk.inj (Option.some.inj heval)
    exact ⟨fun key _ => rfl, fun x hx => absurd hx List.not_mem_nil⟩
  · cases heval

end Independence

/-- The errors by service, and a count of all of them. -/
def errorRules (count : String) : List Rule :=
  [{ name := "errors", kind := .logGroupCount, groupBy := some "service_name", windowSecs := 300 },
    { name := count, kind := .logCount, severityMin := some 17, windowSecs := 300 }]

/-- No channel is configured. -/
def noChannels : DispatchSettings := ⟨none, none, fun _ => true⟩

/-- The two orders in which two rules of a list can be taken. -/
theorem forall_two {r₁ r₂ : Rule} {P : Rule → Rule → Prop} (h : P r₁ r₂) (h' : P r₂ r₁) (i j : Nat)
    (r r' : Rule) (hi : [r₁, r₂][i]? = some r) (hj : [r₁, r₂][j]? = some r') (hij : i ≠ j) :
    P r r' := by
  have hi' := (List.getElem?_eq_some_iff.mp hi).1
  have hj' := (List.getElem?_eq_some_iff.mp hj).1
  match i, j, hi, hj with
  | 0, 0, hi, hj => exact absurd rfl hij
  | 1, 1, hi, hj => exact absurd rfl hij
  | 0, 1, hi, hj =>
    obtain rfl := Option.some.inj hi
    obtain rfl := Option.some.inj hj
    exact h
  | 1, 0, hi, hj =>
    obtain rfl := Option.some.inj hi
    obtain rfl := Option.some.inj hj
    exact h'
  | i + 2, _, hi, hj => exact absurd hi' (Nat.not_lt.mpr (Nat.le_add_left 2 i))
  | _, j + 2, hi, hj => exact absurd hj' (Nat.not_lt.mpr (Nat.le_add_left 2 j))

/-- The count has a name apart. -/
theorem independent_iff_errors :
    Independent (errorRules "all-errors") noChannels [.slack "token" "#alerts"] := by
  refine (@independent_iff (errorRules "all-errors") _ _ _ rfl).mpr ?_
  apply forall_two
  · exact ⟨by decide, fun h => absurd h.1 (by decide)⟩
  · exact ⟨by decide, fun h => absurd h.1 (by decide)⟩

/-- A count named like a group of the other rule is taken for a group that has gone. -/
theorem not_independent_errors :
    parseRules (errorRules "errors::all") = .ok (errorRules "errors::all") ∧
      ¬ Independent (errorRules "errors::all") noChannels [.slack "token" "#alerts"] := by
  refine ⟨rfl, fun h => ?_⟩
  have hframe := (h.apart 0 1 _ _ rfl rfl Nat.zero_ne_one (onlyFiring "errors::all")
    (fun _ _ => true) ⟨0⟩ (.groups []) ⟨rfl, List.nodup_nil⟩).1
  have hget := hframe "errors::all" rfl
  revert hget
  decide +kernel

end Datacat.Alerting
