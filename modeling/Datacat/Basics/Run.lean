import Mathlib

/-!
# Runs

Runs of a labelled step relation: the labels taken, oldest first, and the state reached. A
label carries what the environment chose and what the step answered, so that a property of a
run is a property of its labels.

## Main results

- `Run.invariant`: what holds at the start and is kept by every step holds at the end.
- `Run.append_iff`: a run over two lists of labels is a run over the first, then one over the
  second.
- `Run.mono`, `Run.strengthen`: runs of a larger and of a smaller step relation.
- `Run.map`: the run of another system that the states are mapped to.
- `Run.lockstep`: two runs of steps that nobody can tell apart.
- `Run.of_replay`: the run of a step function over a list of inputs.
- `Run.eachState_snoc`, `Run.eachStep_snoc`: a property of each state of a run, and of each step,
  which may look at the labels before it.
- `Endless.finite_of_potential`: which steps of an endless run are finitely many.
-/

namespace Datacat.Basics

universe u v

/-- The runs of `step` from `start`. -/
inductive Run {σ : Type u} {α : Type v} (step : σ → α → σ → Prop) (start : σ) :
    List α → σ → Prop where
  | nil : Run step start [] start
  | snoc {labels : List α} {s s' : σ} {a : α} :
      Run step start labels s → step s a s' → Run step start (labels ++ [a]) s'

namespace Run

variable {σ : Type u} {α : Type v} {step : σ → α → σ → Prop} {start : σ}

theorem single {s : σ} {a : α} (h : step start a s) : Run step start [a] s :=
  @snoc _ _ step start [] start s a nil h

theorem nil_iff {s : σ} : Run step start [] s ↔ s = start := by
  constructor
  · intro h
    generalize hl : ([] : List α) = labels at h
    cases h with
    | nil => rfl
    | snoc _ _ => simp at hl
  · rintro rfl
    exact nil

theorem snoc_iff {labels : List α} {a : α} {s' : σ} :
    Run step start (labels ++ [a]) s' ↔ ∃ s, Run step start labels s ∧ step s a s' := by
  constructor
  · intro h
    generalize hl : labels ++ [a] = all at h
    cases h with
    | nil => simp at hl
    | @snoc pre s _ b hpre hb =>
      obtain ⟨rfl, hab⟩ := List.append_inj' hl rfl
      obtain rfl : a = b := by simpa using hab
      exact ⟨s, hpre, hb⟩
  · rintro ⟨s, hs, ha⟩
    exact snoc hs ha

/-- A run over two lists of labels is one over the first, then one over the second. -/
theorem append_iff {first second : List α} {s : σ} :
    Run step start (first ++ second) s ↔
      ∃ mid, Run step start first mid ∧ Run step mid second s := by
  induction second using List.reverseRecOn generalizing s with
  | nil => simp [nil_iff]
  | append_singleton second a ih =>
    rw [← List.append_assoc, snoc_iff]
    constructor
    · rintro ⟨m, hm, ha⟩
      obtain ⟨mid, h1, h2⟩ := ih.mp hm
      exact ⟨mid, h1, snoc h2 ha⟩
    · rintro ⟨mid, h1, h2⟩
      obtain ⟨m, hm, ha⟩ := snoc_iff.mp h2
      exact ⟨m, ih.mpr ⟨mid, h1, hm⟩, ha⟩

theorem cons_iff {a : α} {labels : List α} {s : σ} :
    Run step start (a :: labels) s ↔ ∃ mid, step start a mid ∧ Run step mid labels s := by
  rw [show a :: labels = [a] ++ labels from rfl, append_iff]
  constructor
  · rintro ⟨mid, h1, h2⟩
    obtain ⟨s0, h0, ha⟩ := snoc_iff.mp (show Run step start ([] ++ [a]) mid from h1)
    rw [nil_iff.mp h0] at ha
    exact ⟨mid, ha, h2⟩
  · rintro ⟨mid, ha, h2⟩
    exact ⟨mid, single ha, h2⟩

/-- **Inductive invariants.** -/
theorem invariant {Inv : σ → Prop} {labels : List α} {s : σ} (h : Run step start labels s)
    (hstart : Inv start) (hstep : ∀ s a s', Inv s → step s a s' → Inv s') : Inv s := by
  induction h with
  | nil => exact hstart
  | snoc _ ha ih => exact hstep _ _ _ ih ha

theorem mono {step' : σ → α → σ → Prop} {labels : List α} {s : σ} (h : Run step start labels s)
    (hsub : ∀ s a s', step s a s' → step' s a s') : Run step' start labels s := by
  induction h with
  | nil => exact nil
  | snoc _ ha ih => exact snoc ih (hsub _ _ _ ha)

/-- A map of the states that takes steps to steps takes runs to runs. -/
theorem map {τ : Type*} {step' : τ → α → τ → Prop} (f : σ → τ) {labels : List α} {s : σ}
    (h : Run step start labels s) (hstep : ∀ s a s', step s a s' → step' (f s) a (f s')) :
    Run step' (f start) labels (f s) := by
  induction h with
  | nil => exact nil
  | snoc _ ha ih => exact snoc ih (hstep _ _ _ ha)

/-- The run with its labels renamed. -/
theorem relabel {β : Type*} {step' : σ → β → σ → Prop} (f : α → β)
    {labels : List α} {s : σ} (h : Run step start labels s)
    (hstep : ∀ s a s', step s a s' → step' s (f a) s') : Run step' start (labels.map f) s := by
  induction h with
  | nil => exact nil
  | snoc _ ha ih =>
    rw [List.map_append]
    exact snoc ih (hstep _ _ _ ha)

/-- A deterministic system reaches one state. -/
theorem unique {labels : List α} {s s' : σ}
    (hstep : ∀ s a s₁ s₂, step s a s₁ → step s a s₂ → s₁ = s₂) (h : Run step start labels s)
    (h' : Run step start labels s') : s = s' := by
  induction h generalizing s' with
  | nil => exact (nil_iff.mp h').symm
  | snoc _ ha ih =>
    obtain ⟨mid, hmid, ha'⟩ := snoc_iff.mp h'
    obtain rfl := ih hmid
    exact hstep _ _ _ _ ha ha'

/-- **Unwinding.** Two runs over labels that look the same, from states that look the same, are
runs over the same labels when every step that looks the same is the same. -/
theorem lockstep {κ : Type*} {look : α → κ} {R : σ → σ → Prop} {start' : σ} {labels labels' : List α}
    {s s' : σ} (h : Run step start labels s) (h' : Run step start' labels' s')
    (hstart : R start start') (hlook : labels.map look = labels'.map look)
    (hstep : ∀ s t a b s' t', R s t → look a = look b → step s a s' → step t b t' →
      a = b ∧ R s' t') : labels = labels' ∧ R s s' := by
  induction h generalizing labels' s' with
  | nil =>
    obtain rfl : labels' = [] := List.map_eq_nil_iff.mp hlook.symm
    rw [nil_iff] at h'
    exact ⟨rfl, h' ▸ hstart⟩
  | @snoc labels s next a _ ha ih =>
    rcases List.eq_nil_or_concat labels' with rfl | ⟨labels', b, rfl⟩
    · simp at hlook
    · rw [List.concat_eq_append] at h' hlook ⊢
      obtain ⟨t, ht, hb⟩ := snoc_iff.mp h'
      rw [List.map_append, List.map_append] at hlook
      obtain ⟨hbefore, hlast⟩ := List.append_inj' hlook rfl
      obtain ⟨rfl, hR⟩ := ih ht hbefore
      obtain ⟨rfl, hnext⟩ := hstep _ _ _ _ _ _ hR (List.head_eq_of_cons_eq hlast) ha hb
      exact ⟨rfl, hnext⟩

/-- Each step of the run has the property, which sees the labels before the step and the state that
the step starts from. -/
def EachStep (step : σ → α → σ → Prop) (start : σ) (prop : List α → σ → α → Prop)
    (labels : List α) : Prop :=
  ∀ before a after s, labels = before ++ a :: after → Run step start before s → prop before s a

theorem eachStep_nil {prop : List α → σ → α → Prop} : EachStep step start prop [] :=
  fun before a after s hlabels => by simp at hlabels

theorem EachStep.of_snoc {prop : List α → σ → α → Prop} {labels : List α} {a : α}
    (h : EachStep step start prop (labels ++ [a])) : EachStep step start prop labels := by
  intro before b after mid hlabels hmid
  apply h before b (after ++ [a]) mid _ hmid
  rw [hlabels, List.append_assoc, List.cons_append]

theorem EachStep.last {prop : List α → σ → α → Prop} {labels : List α} {a : α} {s : σ}
    (h : EachStep step start prop (labels ++ [a])) (hs : Run step start labels s) :
    prop labels s a :=
  h labels a [] s rfl hs

/-- In a deterministic system the last step starts from the state that the run has reached. -/
theorem eachStep_snoc {prop : List α → σ → α → Prop} {labels : List α} {a : α} {s : σ}
    (hstep : ∀ s a s₁ s₂, step s a s₁ → step s a s₂ → s₁ = s₂) (h : Run step start labels s) :
    EachStep step start prop (labels ++ [a]) ↔
      EachStep step start prop labels ∧ prop labels s a := by
  constructor
  · intro heach
    exact ⟨heach.of_snoc, heach.last h⟩
  · rintro ⟨heach, hlast⟩ before b after mid hlabels hmid
    rcases List.eq_nil_or_concat after with rfl | ⟨after, z, rfl⟩
    · obtain ⟨rfl, ha⟩ := List.append_inj' hlabels rfl
      obtain rfl : a = b := List.head_eq_of_cons_eq ha
      obtain rfl := unique hstep h hmid
      exact hlast
    · rw [List.concat_eq_append, ← List.cons_append, ← List.append_assoc] at hlabels
      exact heach before b after mid (List.append_inj' hlabels rfl).1 hmid

/-- Each state of the run has the property. -/
def EachState (step : σ → α → σ → Prop) (start : σ) (prop : σ → Prop) (labels : List α) : Prop :=
  ∀ before after s, labels = before ++ after → Run step start before s → prop s

theorem eachState_nil {prop : σ → Prop} : EachState step start prop [] ↔ prop start := by
  constructor
  · intro heach
    exact heach [] [] start rfl nil
  · intro hstart before after s hlabels hs
    obtain ⟨rfl, -⟩ := List.append_eq_nil_iff.mp hlabels.symm
    rwa [nil_iff.mp hs]

theorem eachState_snoc {prop : σ → Prop} {labels : List α} {a : α} {s : σ}
    (hstep : ∀ s a s₁ s₂, step s a s₁ → step s a s₂ → s₁ = s₂)
    (h : Run step start (labels ++ [a]) s) :
    EachState step start prop (labels ++ [a]) ↔ EachState step start prop labels ∧ prop s := by
  constructor
  · intro heach
    constructor
    · intro before after mid hlabels hmid
      apply heach before (after ++ [a]) mid _ hmid
      rw [hlabels, List.append_assoc]
    · exact heach (labels ++ [a]) [] s (List.append_nil _).symm h
  · rintro ⟨heach, hlast⟩ before after mid hlabels hmid
    rcases List.eq_nil_or_concat after with rfl | ⟨after, z, rfl⟩
    · rw [List.append_nil] at hlabels
      subst hlabels
      rwa [← unique hstep h hmid]
    · rw [List.concat_eq_append, ← List.append_assoc] at hlabels
      exact heach before after mid (List.append_inj' hlabels rfl).1 hmid

/-- A run is a run of the steps that satisfy what every state reached gives them. -/
theorem strengthen {P : σ → α → Prop} {labels : List α} {s : σ} (h : Run step start labels s)
    (hP : ∀ pre s a, Run step start pre s → P s a) :
    Run (fun s a s' => P s a ∧ step s a s') start labels s := by
  induction h with
  | nil => exact nil
  | snoc hpre ha ih => exact snoc ih ⟨hP _ _ _ hpre, ha⟩

/-- The run that a guarded step function computes. -/
theorem of_foldlM {f : σ → α → Option σ} {labels : List α} {s : σ}
    (h : labels.foldlM f start = some s) : Run (fun s a s' => f s a = some s') start labels s := by
  induction labels generalizing start with
  | nil =>
    obtain rfl : start = s := by simpa using h
    exact nil
  | cons a labels ih =>
    rw [List.foldlM_cons] at h
    cases hf : f start a with
    | none => simp [hf] at h
    | some mid =>
      rw [hf] at h
      exact cons_iff.mpr ⟨mid, hf, ih h⟩

/-! ## Replays -/

/-- The inputs one after the other, with what each step gives. -/
def replay {ι : Type*} {ω : Type*} (next : σ → ι → Option (σ × ω)) :
    List ι → σ → Option (σ × List (ι × ω))
  | [], s => some (s, [])
  | input :: inputs, s =>
    (next s input).bind fun (mid, output) =>
      (replay next inputs mid).map fun (last, labels) => (last, (input, output) :: labels)

/-- The run that a replay computes. -/
theorem of_replay {ι : Type*} {ω : Type*} {next : σ → ι → Option (σ × ω)} {inputs : List ι}
    {labels : List (ι × ω)} {s : σ} (h : replay next inputs start = some (s, labels)) :
    Run (fun s x s' => next s x.1 = some (s', x.2)) start labels s := by
  induction inputs generalizing start labels with
  | nil =>
    obtain ⟨rfl, rfl⟩ := Prod.mk.inj (Option.some.inj h)
    exact nil
  | cons input inputs ih =>
    rw [replay, Option.bind_eq_some_iff] at h
    obtain ⟨⟨mid, output⟩, hnext, h⟩ := h
    obtain ⟨⟨last, rest⟩, hrest, h⟩ := Option.map_eq_some_iff.mp h
    obtain ⟨rfl, rfl⟩ := Prod.mk.inj h
    exact cons_iff.mpr ⟨mid, hnext, ih hrest⟩

theorem map_fst_of_replay {ι : Type*} {ω : Type*} {next : σ → ι → Option (σ × ω)}
    {inputs : List ι} {labels : List (ι × ω)} {s : σ}
    (h : replay next inputs start = some (s, labels)) : labels.map Prod.fst = inputs := by
  induction inputs generalizing start labels with
  | nil =>
    obtain ⟨rfl, rfl⟩ := Prod.mk.inj (Option.some.inj h)
    rfl
  | cons input inputs ih =>
    rw [replay, Option.bind_eq_some_iff] at h
    obtain ⟨⟨mid, output⟩, -, h⟩ := h
    obtain ⟨⟨last, rest⟩, hrest, h⟩ := Option.map_eq_some_iff.mp h
    obtain ⟨rfl, rfl⟩ := Prod.mk.inj h
    rw [List.map_cons, ih hrest]

end Run

/-! ## Endless runs -/

/-- A run that has a step at each number. -/
structure Endless {σ : Type u} {α : Type v} (step : σ → α → σ → Prop) (start : σ)
    (states : Nat → σ) (labels : Nat → α) : Prop where
  zero : states 0 = start
  succ : ∀ n, step (states n) (labels n) (states (n + 1))

namespace Endless

variable {σ : Type u} {α : Type v} {step : σ → α → σ → Prop} {start : σ} {states : Nat → σ}
  {labels : Nat → α}

/-- A step that changes nothing can be taken for ever. -/
theorem of_fixed {s : σ} {a : α} (h : step s a s) : Endless step s (fun _ => s) fun _ => a :=
  ⟨rfl, fun _ => h⟩

theorem invariant {Inv : σ → Prop} (h : Endless step start states labels) (hstart : Inv start)
    (hstep : ∀ n, Inv (states n) → Inv (states (n + 1))) (n : Nat) : Inv (states n) := by
  induction n with
  | zero => rwa [h.zero]
  | succ n ih => exact hstep n ih

/-- Steps that lower a number which no step raises are finitely many. -/
theorem finite_of_potential {potential : Nat → Nat} {marked : Nat → Prop}
    (hle : ∀ n, potential (n + 1) ≤ potential n)
    (hlt : ∀ n, marked n → potential (n + 1) < potential n) : {n | marked n}.Finite := by
  -- The number is the same from some step on.
  obtain ⟨last, hlast⟩ := WellFoundedGT.monotone_chain_condition
    (⟨fun n => OrderDual.toDual (potential n), monotone_nat_of_le_succ hle⟩ : ℕ →o ℕᵒᵈ)
  have hsame : ∀ n, last ≤ n → potential n = potential last :=
    fun n hn => (OrderDual.toDual.injective (hlast n hn)).symm
  refine (Set.finite_lt_nat last).subset fun n hn => ?_
  by_contra hlate
  have hn' := hlt n hn
  rw [hsame n (not_lt.mp hlate), hsame (n + 1) (Nat.le_succ_of_le (not_lt.mp hlate))] at hn'
  exact Nat.lt_irrefl _ hn'

end Endless
end Datacat.Basics
