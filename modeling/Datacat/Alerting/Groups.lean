import Datacat.Alerting.Independence

/-!
# Grouped Rules

A grouped rule fires for each group apart. After an evaluation it fires for the groups that were
computed and breach, and for no others: what was computed decides, not what fired before.

The states are found by the beginning of their keys. Two grouped rules whose names differ by a
colon at the end read the keys of each other, as do two of one name.

## Main results

- `firesGroup_performGroups`: the groups that fire afterwards.
- `keysMeet_iff_of_names`: which grouped rules read the keys of each other.
- `groupsSettle_iff`: each evaluation settles the groups of its rule and leaves the other rules
  alone when no two of them do.
-/

namespace Datacat.Alerting

open Basics

/-! ## Runs of a list of rules -/

/-- The evaluation of a rule of the list, with an answer that its queries may give. -/
def Evaluates (rules : List Rule) (state : AlertEngineState) (x : Round × Computed)
    (state' : AlertEngineState) : Prop :=
  x.1.rule ∈ rules ∧ x.1.rule.Fits x.2 ∧ (x.1.performComputed state x.2).1 = state'

/-- The rule fires for the group. -/
def FiresGroup (r : Rule) (state : AlertEngineState) (group : String) : Prop :=
  (state.entry (Round.groupStateKey r.name group)).firing = true

/-- What the evaluation of a grouped rule, the one at a place of the list, makes of a state. -/
structure Settled (rules : List Rule) (i : Nat) (round : Round) (state : AlertEngineState)
    (groups : List (String × F64)) : Prop where
  firing : ∀ group, FiresGroup round.rule (round.performComputed state (.groups groups)).1 group ↔
    ∃ value, (group, value) ∈ groups ∧
      round.rule.comparator.compare value round.rule.threshold = true
  resolved : ∀ group, FiresGroup round.rule state group → group ∉ groups.map Prod.fst →
    ∃ x ∈ (round.performComputed state (.groups groups)).2,
      x.1 = round.group group false (F64.ofInt 0)
  others : ∀ j r, rules[j]? = some r → j ≠ i → ∀ key, r.Owns key →
    (round.performComputed state (.groups groups)).1.get key = state.get key

/-- In every state reached, whatever is computed for a grouped rule is settled; an error of its
queries leaves the states and sends nothing. -/
def GroupsSettle (rules : List Rule) : Prop :=
  ∀ i (round : Round), rules[i]? = some round.rule → round.rule.kind.isGrouped = true →
    ∀ labels state, Run (Evaluates rules) BTreeMap.empty labels state →
      (∀ groups, (groups.map Prod.fst).Nodup → Settled rules i round state groups) ∧
      ∀ engine db, compute engine db round.rule round.now = .error .error →
        evaluateRule engine db round state = some (state, [])

section Reached

variable {engine : Engine} {db : Database} {round : Round} {state state' : AlertEngineState}
  {labels : List Label} {rules part : List Rule} {dispatcher : Dispatcher} {sends : Sends}
  {now : DateTime}

theorem run_evaluates_of_evaluateRule (hmem : round.rule ∈ rules)
    (h : evaluateRule engine db round state = some (state', labels)) :
    ∃ answers, Run (Evaluates rules) state answers state' := by
  unfold evaluateRule at h
  split at h
  · rename_i computed hcomputed
    obtain ⟨hstate, -⟩ := Prod.mk.inj (Option.some.inj h)
    exact ⟨[(round, computed)], Run.single ⟨hmem, fits_of_compute hcomputed, hstate⟩⟩
  · obtain ⟨rfl, -⟩ := Prod.mk.inj (Option.some.inj h)
    exact ⟨[], .nil⟩
  · cases h

/-- A round of evaluations leads to a state that is reached. -/
theorem run_evaluates_of_evaluateOnce (hpart : ∀ r ∈ part, r ∈ rules)
    (h : evaluateOnce engine db dispatcher sends now part state = some (state', labels)) :
    ∃ answers, Run (Evaluates rules) state answers state' := by
  induction part generalizing state labels with
  | nil =>
    obtain ⟨rfl, -⟩ := Prod.mk.inj (Option.some.inj h)
    exact ⟨[], .nil⟩
  | cons r part ih =>
    obtain ⟨hr, hpart⟩ := List.forall_mem_cons.mp hpart
    obtain ⟨mid, first, rest, hfirst, hrest, -⟩ := evaluateOnce_cons h
    obtain ⟨answers, hmid⟩ : ∃ answers, Run (Evaluates rules) state answers mid :=
      run_evaluates_of_evaluateRule hr hfirst
    obtain ⟨answers', hlast⟩ := ih hpart hrest
    exact ⟨answers ++ answers', Run.append_iff.mpr ⟨mid, hmid, hlast⟩⟩

end Reached

/-! ## Groups that fire -/

section Firing

variable {round : Round} {state : AlertEngineState} {es : List Evaluation} {key group : String}
  {seen : List String} {groups : List (String × F64)} {b : Bool}

theorem exists_label {e : Evaluation} (h : e ∈ es) : ∃ x ∈ (perform state es).2, x.1 = e := by
  induction es generalizing state with
  | nil => cases h
  | cons e' es ih =>
    rcases List.mem_cons.mp h with rfl | h
    · exact ⟨_, List.mem_cons_self, rfl⟩
    · obtain ⟨x, hx, heval⟩ := ih h
      exact ⟨x, List.mem_cons_of_mem _ hx, heval⟩

theorem entry_perform (h : ∀ e ∈ es, e.key ≠ key) :
    (perform state es).1.entry key = state.entry key := by
  rw [AlertEngineState.entry, get_perform h]
  rfl

/-- Evaluations of a key that all agree decide whether it fires. -/
theorem firing_perform (hsome : ∃ e ∈ es, e.key = key)
    (hall : ∀ e ∈ es, e.key = key → e.breaching = b) :
    ((perform state es).1.entry key).firing = b := by
  induction es generalizing state with
  | nil =>
    obtain ⟨e, he, -⟩ := hsome
    cases he
  | cons e es ih =>
    obtain ⟨he, hes⟩ := List.forall_mem_cons.mp hall
    by_cases hlater : ∃ e' ∈ es, e'.key = key
    · -- A later one of the same key decides.
      exact ih hlater hes
    · -- It is the last one of the key.
      have hrest : ∀ e' ∈ es, e'.key ≠ key := fun e' he' hkey => hlater ⟨e', he', hkey⟩
      have hkey : e.key = key := by
        obtain ⟨e', he', hkey⟩ := hsome
        rcases List.mem_cons.mp he' with rfl | he'
        · exact hkey
        · exact absurd hkey (hrest e' he')
      have hstep : Step state (e, (processTransition state e).2) (processTransition state e).1 := rfl
      have hentry : (perform state (e :: es)).1.entry key =
          (processTransition state e).1.entry key := entry_perform hrest
      rw [hentry, ← hkey, hstep.entry_self]
      exact he hkey

theorem groupStateKey_inj {name group group' : String} :
    Round.groupStateKey name group = Round.groupStateKey name group' ↔ group = group' := by
  constructor
  · intro h
    have hlist := congrArg String.toList h
    rw [groupStateKey_toList, groupStateKey_toList] at hlist
    exact String.toList_injective (List.append_cancel_left hlist)
  · rintro rfl
    rfl

/-- The stale groups are those that fire and were not seen. -/
theorem mem_staleGroups :
    group ∈ round.staleGroups seen state ↔ FiresGroup round.rule state group ∧ group ∉ seen := by
  unfold Round.staleGroups FiresGroup
  rw [List.mem_filterMap]
  constructor
  · rintro ⟨⟨key, entry⟩, hentry, h⟩
    dsimp only at h
    split at h
    · rename_i rest hrest
      split at h
      · rename_i hfires
        obtain rfl := Option.some.inj h
        rw [Bool.and_eq_true, Bool.not_eq_true', List.contains_eq_mem, decide_eq_false_iff_not]
          at hfires
        have hkey : Round.groupStateKey round.rule.name (String.ofList rest) = key :=
          groupStateKey_of_dropPrefix hrest
        rw [hkey, AlertEngineState.entry, (state.get_eq_some_iff key entry).mpr hentry]
        exact hfires
      · cases h
    · cases h
  · rintro ⟨hfires, hseen⟩
    -- A key without an entry does not fire.
    cases hget : state.get (Round.groupStateKey round.rule.name group) with
    | none =>
      rw [AlertEngineState.entry, hget] at hfires
      cases hfires
    | some entry =>
      rw [AlertEngineState.entry, hget, Option.getD_some] at hfires
      refine ⟨_, (state.get_eq_some_iff _ entry).mp hget, ?_⟩
      have hrest : (Round.groupStateKey round.rule.name group).toList.dropPrefix?
          (round.rule.name ++ "::").toList = some group.toList :=
        List.dropPrefix?_eq_some_iff.mpr ⟨_, groupStateKey_toList _ _, BEq.rfl⟩
      dsimp only
      rw [hrest]
      dsimp only
      rw [String.ofList_toList, if_pos]
      rw [hfires, List.contains_eq_mem, decide_eq_false hseen]
      rfl

/-- The evaluations of the groups computed. -/
def Round.computedGroups (round : Round) (groups : List (String × F64)) : List Evaluation :=
  groups.map fun g =>
    round.group g.1 (round.rule.comparator.compare g.2 round.rule.threshold) g.2

/-- The evaluations of the groups that have gone. -/
def Round.goneGroups (round : Round) (groups : List (String × F64)) (state : AlertEngineState) :
    List Evaluation :=
  (round.staleGroups (groups.map Prod.fst) state).map fun g => round.group g false (F64.ofInt 0)

theorem performGroups_fst (round : Round) (state : AlertEngineState)
    (groups : List (String × F64)) :
    (round.performGroups state groups).1 =
      (perform (perform state (round.computedGroups groups)).1
        (round.goneGroups groups (perform state (round.computedGroups groups)).1)).1 := rfl

theorem firesGroup_computedGroups {value : F64} (hnodup : (groups.map Prod.fst).Nodup)
    (hmem : (group, value) ∈ groups) :
    FiresGroup round.rule (perform state (round.computedGroups groups)).1 group ↔
      round.rule.comparator.compare value round.rule.threshold = true := by
  have hfiring : ((perform state (round.computedGroups groups)).1.entry
      (Round.groupStateKey round.rule.name group)).firing =
        round.rule.comparator.compare value round.rule.threshold := by
    apply firing_perform ⟨_, List.mem_map_of_mem hmem, rfl⟩
    intro e he hkey
    obtain ⟨g, hg, rfl⟩ := List.mem_map.mp he
    -- A group is computed once.
    rw [List.inj_on_of_nodup_map hnodup hg hmem (groupStateKey_inj.mp hkey)]
    rfl
  rw [FiresGroup, hfiring]

theorem firesGroup_computedGroups_of_not_mem (h : group ∉ groups.map Prod.fst) :
    FiresGroup round.rule (perform state (round.computedGroups groups)).1 group ↔
      FiresGroup round.rule state group := by
  unfold FiresGroup
  rw [entry_perform]
  intro e he hkey
  obtain ⟨g, hg, rfl⟩ := List.mem_map.mp he
  exact h (groupStateKey_inj.mp hkey ▸ List.mem_map_of_mem hg)

/-- Of the groups that fire, those seen go on. -/
theorem firesGroup_goneGroups :
    FiresGroup round.rule (perform state (round.goneGroups groups state)).1 group ↔
      FiresGroup round.rule state group ∧ group ∈ groups.map Prod.fst := by
  by_cases hstale : group ∈ round.staleGroups (groups.map Prod.fst) state
  · -- The group fires and was not seen: it is resolved.
    have hresolved : ¬ FiresGroup round.rule (perform state (round.goneGroups groups state)).1
        group := by
      apply Bool.eq_false_iff.mp
      apply firing_perform ⟨_, List.mem_map_of_mem hstale, rfl⟩
      intro e he hkey
      obtain ⟨g, -, rfl⟩ := List.mem_map.mp he
      rfl
    constructor
    · intro h
      exact absurd h hresolved
    · intro h
      exact absurd h.2 (mem_staleGroups.mp hstale).2
  · -- No evaluation is of this group, and its state is the one of before.
    have hkept : FiresGroup round.rule (perform state (round.goneGroups groups state)).1 group ↔
        FiresGroup round.rule state group := by
      unfold FiresGroup
      rw [entry_perform]
      intro e he hkey
      obtain ⟨g, hg, rfl⟩ := List.mem_map.mp he
      exact hstale (groupStateKey_inj.mp hkey ▸ hg)
    rw [hkept]
    constructor
    · intro h
      refine ⟨h, ?_⟩
      by_contra hseen
      exact hstale (mem_staleGroups.mpr ⟨h, hseen⟩)
    · exact And.left

/-- What was computed decides which groups fire. -/
theorem firesGroup_performGroups (hnodup : (groups.map Prod.fst).Nodup) :
    FiresGroup round.rule (round.performGroups state groups).1 group ↔
      ∃ value, (group, value) ∈ groups ∧
        round.rule.comparator.compare value round.rule.threshold = true := by
  rw [performGroups_fst, firesGroup_goneGroups]
  constructor
  · rintro ⟨hfires, hseen⟩
    obtain ⟨⟨group, value⟩, hmem, rfl⟩ := List.mem_map.mp hseen
    exact ⟨value, hmem, (firesGroup_computedGroups hnodup hmem).mp hfires⟩
  · rintro ⟨value, hmem, hbreaches⟩
    exact ⟨(firesGroup_computedGroups hnodup hmem).mpr hbreaches, List.mem_map_of_mem hmem⟩

/-- A group that fired and was not computed is resolved. -/
theorem resolved_performGroups (hfires : FiresGroup round.rule state group)
    (hseen : group ∉ groups.map Prod.fst) :
    ∃ x ∈ (round.performGroups state groups).2, x.1 = round.group group false (F64.ofInt 0) := by
  have hstale : group ∈ round.staleGroups (groups.map Prod.fst)
      (perform state (round.computedGroups groups)).1 :=
    mem_staleGroups.mpr ⟨(firesGroup_computedGroups_of_not_mem hseen).mpr hfires, hseen⟩
  obtain ⟨x, hx, heval⟩ := exists_label (List.mem_map_of_mem hstale)
  exact ⟨x, List.mem_append_right _ hx, heval⟩

end Firing

/-! ## Names -/

section Names

variable {r r' : Rule} {a b : List Char}

/-- Before two colons, one text without two colons begins with another when it is that one, or
that one with a colon. -/
theorem append_colons_prefix_iff (hb : ¬ [':', ':'] <:+: b) :
    a ++ [':', ':'] <+: b ++ [':', ':'] ↔ b = a ∨ b = a ++ [':'] := by
  constructor
  · intro h
    have hlength : a.length ≤ b.length := by
      have hle := h.length_le
      rw [List.length_append, List.length_append] at hle
      omega
    obtain ⟨rest, rfl⟩ : a <+: b :=
      List.prefix_of_prefix_length_le ((List.prefix_append a _).trans h) (List.prefix_append b _)
        hlength
    rw [List.append_assoc, List.prefix_append_right_inj] at h
    match rest, h with
    | [], _ => exact .inl (List.append_nil a)
    | [c], h =>
      obtain ⟨rfl, -⟩ := List.cons_prefix_cons.mp h
      exact .inr rfl
    | c :: c' :: rest, h =>
      -- Two more characters would be the two colons.
      obtain ⟨rfl, htail⟩ := List.cons_prefix_cons.mp h
      obtain ⟨rfl, -⟩ := List.cons_prefix_cons.mp htail
      exact absurd ⟨a, rest, by simp⟩ hb
  · rintro (rfl | rfl)
    · exact List.prefix_rfl
    · rw [List.append_assoc, List.prefix_append_right_inj]
      exact ⟨[':'], rfl⟩

/-- The name has no two colons. -/
def Rule.Plain (r : Rule) : Prop := ¬ "::".toList <:+: r.name.toList

/-- The two names are the same, or the first followed by a colon is the second. -/
def shadows (r r' : Rule) : Prop := r'.name = r.name ∨ r'.name = r.name ++ ":"

theorem groupPrefix_eq (r : Rule) : groupPrefix r = r.name.toList ++ [':', ':'] :=
  String.toList_append

theorem groupPrefix_prefix_iff (h : r'.Plain) :
    groupPrefix r <+: groupPrefix r' ↔ shadows r r' := by
  have hcolon : (r.name ++ ":").toList = r.name.toList ++ [':'] := String.toList_append
  rw [groupPrefix_eq, groupPrefix_eq, append_colons_prefix_iff h, shadows, ← hcolon,
    String.toList_inj, String.toList_inj]

theorem keysMeet_iff_of_names (h : r.Plain) (h' : r'.Plain) (hr : r.kind.isGrouped = true) :
    keysMeet r r' = true ↔ r'.kind.isGrouped = true ∧ (shadows r r' ∨ shadows r' r) := by
  unfold keysMeet
  rw [hr]
  cases hr' : r'.kind.isGrouped with
  | true =>
    dsimp only
    rw [Bool.or_eq_true, List.isPrefixOf_iff_prefix, List.isPrefixOf_iff_prefix,
      groupPrefix_prefix_iff h', groupPrefix_prefix_iff h]
    exact (and_iff_right rfl).symm
  | false =>
    dsimp only
    rw [List.isPrefixOf_iff_prefix]
    constructor
    · intro hprefix
      -- The name would hold the two colons of the beginning.
      rw [groupPrefix_eq] at hprefix
      exact absurd ((List.suffix_append _ _).isInfix.trans hprefix.isInfix) h'
    · rintro ⟨hgrouped, -⟩
      cases hgrouped

end Names

/-! ## Settled groups -/

section Settling

variable {rules : List Rule}

/-- A key that is evaluated has a state from then on. -/
theorem get_perform_ne_none {state : AlertEngineState} {es : List Evaluation} {key : String}
    (h : state.get key ≠ none ∨ ∃ e ∈ es, e.key = key) :
    (perform state es).1.get key ≠ none := by
  induction es generalizing state with
  | nil =>
    rcases h with h | ⟨e, he, -⟩
    · exact h
    · cases he
  | cons e es ih =>
    apply ih
    by_cases hkey : e.key = key
    · left
      show (state.insert e.key _).get key ≠ none
      rw [BTreeMap.get_insert, if_pos hkey.symm]
      exact Option.some_ne_none _
    · rcases h with h | ⟨e', he', hkey'⟩
      · left
        show (state.insert e.key _).get key ≠ none
        rw [BTreeMap.get_insert, if_neg (Ne.symm hkey)]
        exact h
      · right
        rcases List.mem_cons.mp he' with rfl | he'
        · exact absurd hkey' hkey
        · exact ⟨e', he', hkey'⟩

/-- A grouped rule can be made to write at any key of its own. -/
theorem exists_groups_of_owns {round : Round} {key : String}
    (hgrouped : round.rule.kind.isGrouped = true) (howns : round.rule.Owns key) :
    ∃ groups, (groups.map Prod.fst).Nodup ∧
      (round.performComputed BTreeMap.empty (.groups groups)).1.get key ≠ none := by
  unfold Rule.Owns at howns
  rw [hgrouped] at howns
  obtain ⟨group, hgroup⟩ := howns
  have hkey : Round.groupStateKey round.rule.name (String.ofList group) = key := by
    apply String.toList_injective
    rw [groupStateKey_toList, String.toList_ofList]
    exact hgroup
  refine ⟨[(String.ofList group, F64.nan)], List.nodup_singleton _, ?_⟩
  show (round.performGroups BTreeMap.empty [(String.ofList group, F64.nan)]).1.get key ≠ none
  rw [performGroups_fst]
  apply get_perform_ne_none
  left
  apply get_perform_ne_none
  right
  exact ⟨_, List.mem_singleton.mpr rfl, hkey⟩

/-- **Grouped rules.** In a list of rules whose names have no two colons, each evaluation of a
grouped rule settles its groups exactly when no two grouped rules have one name, or names that
differ by a colon at the end. -/
theorem groupsSettle_iff (hnames : ∀ r ∈ rules, r.Plain) :
    GroupsSettle rules ↔
      ∀ (i j : Nat) (r r' : Rule), rules[i]? = some r → rules[j]? = some r' → i ≠ j →
        r.kind.isGrouped = true → r'.kind.isGrouped = true → ¬ shadows r r' := by
  constructor
  · intro hsettle i j r r' hi hj hij hr hr' hshadows
    have hmeet : keysMeet r r' = true :=
      (keysMeet_iff_of_names (hnames r (List.mem_of_getElem? hi))
        (hnames r' (List.mem_of_getElem? hj)) hr).mpr ⟨hr', .inl hshadows⟩
    obtain ⟨key, howns, howns'⟩ := keysMeet_iff.mp hmeet
    -- A key that both own stands for a group of the first: its evaluation writes it.
    let round : Round := ⟨r, [], fun _ _ => true, ⟨0⟩⟩
    obtain ⟨groups, hnodup, hget⟩ := @exists_groups_of_owns round key hr howns
    apply hget
    exact ((hsettle i round hi hr [] _ .nil).1 groups hnodup).others j r' hj hij.symm key howns'
  · intro hcondition i round hi hgrouped labels state hrun
    constructor
    · intro groups hnodup
      refine ⟨fun group => firesGroup_performGroups hnodup,
        fun group => resolved_performGroups, ?_⟩
      intro j r hj hji key howns
      have hfits : round.rule.Fits (.groups groups) := ⟨hgrouped, hnodup⟩
      apply get_performComputed hfits _ howns
      rw [← Bool.not_eq_true, keysMeet_iff_of_names (hnames _ (List.mem_of_getElem? hi))
        (hnames r (List.mem_of_getElem? hj)) hgrouped]
      -- A key of both would mean that one of the names shadows the other.
      rintro ⟨hr, hshadows | hshadows⟩
      · exact hcondition i j _ r hi hj hji.symm hgrouped hr hshadows
      · exact hcondition j i r _ hj hi hji hr hgrouped hshadows
    · intro engine db hfailed
      -- The query failed: nothing is written and nothing is sent.
      rw [evaluateRule, hfailed]

end Settling

/-- Two rules that look for errors, by service and by trace. -/
def errorGroups (byTrace : String) : List Rule :=
  [{ name := "errors", kind := .logGroupCount, groupBy := some "service_name", windowSecs := 300 },
    { name := byTrace, kind := .logGroupCount, groupBy := some "trace_id", windowSecs := 300 }]

theorem groupsSettle_iff_errorGroups : GroupsSettle (errorGroups "traces") := by
  refine (@groupsSettle_iff (errorGroups "traces") ?_).mpr ?_
  · unfold Rule.Plain
    decide +kernel
  · apply forall_two
    · intro _ _ hshadows
      revert hshadows
      unfold shadows
      decide +kernel
    · intro _ _ hshadows
      revert hshadows
      unfold shadows
      decide +kernel

/-- A group that fires for the second rule is taken for a group of the first that has gone. -/
theorem not_groupsSettle_errorGroups :
    ¬ ∀ rules : List Rule, (∀ r ∈ rules, r.Plain) → GroupsSettle rules := by
  intro h
  have hsettle := h (errorGroups "errors:") (by unfold Rule.Plain; decide +kernel)
  let byService : Round := ⟨(errorGroups "errors:")[0], [], fun _ _ => true, ⟨0⟩⟩
  let byTrace : Round := ⟨(errorGroups "errors:")[1], [], fun _ _ => true, ⟨0⟩⟩
  have hfires : Evaluates (errorGroups "errors:") BTreeMap.empty
      (byTrace, .groups [("t", F64.ofInt 1)]) _ :=
    ⟨List.mem_cons_of_mem _ List.mem_cons_self, ⟨rfl, List.nodup_singleton _⟩, rfl⟩
  have hsettled := (hsettle 0 byService rfl rfl _ _ (Run.single hfires)).1 [] List.nodup_nil
  have hget := hsettled.others 1 _ rfl (by decide) "errors:::t" ⟨['t'], rfl⟩
  revert hget
  decide +kernel

end Datacat.Alerting
