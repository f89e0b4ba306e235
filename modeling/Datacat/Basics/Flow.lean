import Mathlib

/-!
# Loops with an Early Exit

A loop over a list whose body may leave the loop, and the facts used about such loops:

- **Fusion**: a nest of loops left by one labelled `break` is a single loop over the
  flattened list of its innermost elements (`forEach_flatMap`).
- **Bounded collection**: a loop that keeps what a partial function selects and stops once
  more than `max` elements are kept returns the first `max + 1` selected elements
  (`stored_collect`), and what it visits and counts on the way depends on the selection only
  (`reached_eq_visited`, `forEach_tally`).

Nothing here depends on what is collected.
-/

namespace Datacat.Basics

universe u v w

/-! ## Loop bodies -/

/-- Outcome of one loop body: go on to the next element, or leave the labelled loop. -/
inductive Flow (σ : Type u) where
  | next (s : σ)
  | stop (s : σ)

/-- The state reached, whether or not the loop was left. -/
def Flow.state {σ : Type u} : Flow σ → σ
  | .next s => s
  | .stop s => s

@[simp] theorem Flow.state_next {σ : Type u} (s : σ) : (Flow.next s).state = s := rfl
@[simp] theorem Flow.state_stop {σ : Type u} (s : σ) : (Flow.stop s).state = s := rfl

/-- Runs `rest` unless the labelled loop was left. -/
def Flow.andThen {σ : Type u} (flow : Flow σ) (rest : σ → Flow σ) : Flow σ :=
  match flow with
  | .next s => rest s
  | .stop s => .stop s

section Loops

variable {σ : Type u} {α : Type v} {β : Type w}

/-- `for x in xs { body }`, where `body` may leave the loop. -/
def forEach (body : σ → α → Flow σ) : List α → σ → Flow σ
  | [], s => .next s
  | x :: xs, s =>
    match body s x with
    | .next s' => forEach body xs s'
    | .stop s' => .stop s'

@[simp] theorem forEach_nil (body : σ → α → Flow σ) (s : σ) :
    forEach body [] s = .next s := rfl

theorem forEach_cons (body : σ → α → Flow σ) (x : α) (xs : List α) (s : σ) :
    forEach body (x :: xs) s =
      match body s x with
      | .next s' => forEach body xs s'
      | .stop s' => .stop s' := rfl

theorem forEach_append (body : σ → α → Flow σ) (xs ys : List α) (s : σ) :
    forEach body (xs ++ ys) s = (forEach body xs s).andThen (forEach body ys) := by
  induction xs generalizing s with
  | nil => rfl
  | cons x xs ih =>
    simp only [List.cons_append, forEach_cons]
    cases body s x with
    | next s' => exact ih s'
    | stop s' => rfl

theorem forEach_map (body : σ → β → Flow σ) (f : α → β) (xs : List α) (s : σ) :
    forEach body (xs.map f) s = forEach (fun s x => body s (f x)) xs s := by
  induction xs generalizing s with
  | nil => rfl
  | cons x xs ih =>
    simp only [List.map_cons, forEach_cons]
    cases body s (f x) with
    | next s' => exact ih s'
    | stop s' => rfl

/-- Two bodies that agree on the elements of the list give the same loop. -/
theorem forEach_congr {body body' : σ → α → Flow σ} {xs : List α}
    (h : ∀ x ∈ xs, ∀ s, body s x = body' s x) (s : σ) :
    forEach body xs s = forEach body' xs s := by
  induction xs generalizing s with
  | nil => rfl
  | cons x xs ih =>
    simp only [forEach_cons, h x (List.mem_cons_self ..) s]
    cases body' s x with
    | next s' => exact ih (fun y hy => h y (List.mem_cons_of_mem _ hy)) s'
    | stop s' => rfl

/-- **Fusion**: an inner loop that leaves the outer one is one loop over the flattened list. -/
theorem forEach_flatMap (body : σ → β → Flow σ) (items : α → List β) (xs : List α) (s : σ) :
    forEach (fun s x => forEach body (items x) s) xs s =
      forEach body (xs.flatMap items) s := by
  induction xs generalizing s with
  | nil => rfl
  | cons x xs ih =>
    rw [List.flatMap_cons, forEach_append, forEach_cons]
    cases forEach body (items x) s with
    | next s' => exact ih s'
    | stop s' => rfl

/-! ## Bounded collection -/

/-- A body guarded by a bound on what the loop has kept so far. -/
def guardedBody (full : σ → Bool) (step : σ → α → σ) (s : σ) (x : α) : Flow σ :=
  if full s then .stop s else .next (step s x)

/-- The elements the guarded loop gets to before the bound stops it. -/
def reached (full : σ → Bool) (step : σ → α → σ) : List α → σ → List α
  | [], _ => []
  | x :: xs, s => if full s then [] else x :: reached full step xs (step s x)

/-- The guarded loop runs `step` over the reached elements and nothing else. -/
theorem forEach_guardedBody (full : σ → Bool) (step : σ → α → σ) (xs : List α) (s : σ) :
    (forEach (guardedBody full step) xs s).state = (reached full step xs s).foldl step s := by
  induction xs generalizing s with
  | nil => rfl
  | cons x xs ih =>
    cases hfull : full s with
    | true => simp [forEach_cons, guardedBody, reached, hfull]
    | false => simpa [forEach_cons, guardedBody, reached, hfull] using ih (step s x)

/-- **Bounded collection**: when every step keeps what `keep` selects and the loop is full
once more than `max` elements are kept, the loop keeps the first `max + 1` selected ones. -/
theorem stored_collect (max : Nat) (stored : σ → List β) (keep : α → Option β)
    (full : σ → Bool) (step : σ → α → σ)
    (hfull : ∀ s, full s = decide (max < (stored s).length))
    (hstep : ∀ s x, stored (step s x) = stored s ++ (keep x).toList)
    (xs : List α) (s : σ) :
    stored (forEach (guardedBody full step) xs s).state =
      stored s ++ (xs.filterMap keep).take (max + 1 - (stored s).length) := by
  induction xs generalizing s with
  | nil => simp
  | cons x xs ih =>
    -- A full loop stops at once.
    by_cases hs : max < (stored s).length
    · have hzero : max + 1 - (stored s).length = 0 := by omega
      simp [forEach_cons, guardedBody, hfull, hs, hzero]
    · have hrun : (forEach (guardedBody full step) (x :: xs) s).state =
          (forEach (guardedBody full step) xs (step s x)).state := by
        simp [forEach_cons, guardedBody, hfull, hs]
      rw [hrun, ih, hstep]
      -- The element takes one of the places left, or none.
      cases hk : keep x with
      | none => simp [hk]
      | some b =>
        have hsucc : max + 1 - (stored s).length = (max - (stored s).length) + 1 := by omega
        have hlen : max + 1 - ((stored s).length + 1) = max - (stored s).length := by omega
        simp [hk, hsucc, hlen]

/-! ## What a bounded loop visits -/

/-- The elements before `room` elements are kept. -/
def visited (keep : α → Bool) : Nat → List α → List α
  | 0, _ => []
  | _ + 1, [] => []
  | room + 1, x :: xs => x :: visited keep (if keep x then room else room + 1) xs

/-- They depend on the elements only through `keep`. -/
theorem visited_map {γ : Type*} (keep : α → Bool) (f : γ → α) (room : Nat) (xs : List γ) :
    visited keep room (xs.map f) = (visited (keep ∘ f) room xs).map f := by
  induction xs generalizing room with
  | nil => cases room <;> rfl
  | cons x xs ih =>
    cases room with
    | zero => rfl
    | succ room => simp [visited, ih]

/-- When every step adds one kept element or none, the guarded loop gets to the elements
before `max + 1` are kept. -/
theorem reached_eq_visited (max : Nat) (kept : σ → Nat) (full : σ → Bool) (keep : α → Bool)
    (step : σ → α → σ) (hfull : ∀ s, full s = decide (max < kept s))
    (hstep : ∀ s x, kept (step s x) = kept s + if keep x then 1 else 0) (xs : List α) (s : σ) :
    reached full step xs s = visited keep (max + 1 - kept s) xs := by
  induction xs generalizing s with
  | nil => cases max + 1 - kept s <;> rfl
  | cons x xs ih =>
    by_cases hs : max < kept s
    · have hzero : max + 1 - kept s = 0 := by omega
      simp [reached, hfull, hs, hzero, visited]
    · have hroom : max + 1 - kept s = (max - kept s) + 1 := by omega
      have hnext : max + 1 - kept (step s x)
          = if keep x then max - kept s else (max - kept s) + 1 := by
        rw [hstep]
        split <;> omega
      simp [reached, hfull, hs, hroom, visited, ih, hnext]

/-! ## Keeping and counting -/

/-- How many elements are refused before `room` elements are kept. -/
def refused (keep : α → Bool) : Nat → List α → Nat
  | 0, _ => 0
  | _ + 1, [] => 0
  | room + 1, x :: xs =>
    if keep x then refused keep room xs else refused keep (room + 1) xs + 1

/-- The count depends on the elements only through `keep`. -/
theorem refused_map {γ : Type*} (keep : α → Bool) (f : γ → α) (room : Nat) (xs : List γ) :
    refused keep room (xs.map f) = refused (keep ∘ f) room xs := by
  induction xs generalizing room with
  | nil => cases room <;> rfl
  | cons x xs ih =>
    cases room with
    | zero => rfl
    | succ room => simp [refused, ih]

/-- What is visited is kept or refused. -/
theorem length_visited (keep : α → Bool) (room : Nat) (xs : List α) :
    (visited keep room xs).length = min (xs.countP keep) room + refused keep room xs := by
  induction xs generalizing room with
  | nil => cases room <;> rfl
  | cons x xs ih =>
    cases room with
    | zero => simp [visited, refused]
    | succ room =>
      rw [visited, refused, List.length_cons, ih]
      cases hx : keep x with
      | true =>
        rw [List.countP_cons_of_pos hx, if_pos rfl, if_pos rfl]
        omega
      | false =>
        rw [List.countP_cons_of_neg (by simp [hx]), if_neg (by simp), if_neg (by simp)]
        omega

theorem countP_visited (keep : α → Bool) (room : Nat) (xs : List α) :
    (visited keep room xs).countP keep = min (xs.countP keep) room := by
  induction xs generalizing room with
  | nil => cases room <;> rfl
  | cons x xs ih =>
    cases room with
    | zero => simp [visited]
    | succ room =>
      rw [visited]
      cases hx : keep x with
      | true =>
        rw [List.countP_cons_of_pos hx, List.countP_cons_of_pos hx, if_pos rfl, ih]
        omega
      | false =>
        rw [List.countP_cons_of_neg (by simp [hx]), List.countP_cons_of_neg (by simp [hx]),
          if_neg (by simp), ih]

/-- Everything is visited exactly when at most `max` elements before the last are kept. -/
theorem length_visited_eq_iff {max : Nat} {keep : α → Bool} {xs : List α} :
    (visited keep (max + 1) xs).length = xs.length ↔ xs.dropLast.countP keep ≤ max := by
  induction xs generalizing max with
  | nil => simp [visited]
  | cons x xs ih =>
    rw [visited, List.length_cons, List.length_cons, Nat.add_right_cancel_iff]
    cases xs with
    | nil => cases keep x <;> cases max <;> simp [visited]
    | cons y ys =>
      rw [List.dropLast_cons_cons]
      cases hx : keep x with
      | false =>
        rw [List.countP_cons_of_neg (by simp [hx]), if_neg (by simp)]
        exact ih
      | true =>
        rw [List.countP_cons_of_pos hx, if_pos rfl]
        cases max with
        | zero => simp [visited]
        | succ max =>
          rw [ih]
          omega

/-- **Keeping and counting**: when every step either keeps one element or counts it as
refused, the loop keeps the first `max + 1` elements that `keep` selects and counts the
refused ones before it is full. -/
theorem forEach_tally (max : Nat) (stored : σ → List β) (dropped : σ → Nat) (full : σ → Bool)
    (keep : α → Bool) (build : α → β) (step : σ → α → σ)
    (hfull : ∀ s, full s = decide (max < (stored s).length))
    (hkeep : ∀ s x, keep x = true →
      stored (step s x) = stored s ++ [build x] ∧ dropped (step s x) = dropped s)
    (hdrop : ∀ s x, keep x = false →
      stored (step s x) = stored s ∧ dropped (step s x) = dropped s + 1)
    (xs : List α) (s : σ) :
    stored (forEach (guardedBody full step) xs s).state
        = stored s ++ ((xs.filter keep).take (max + 1 - (stored s).length)).map build ∧
      dropped (forEach (guardedBody full step) xs s).state
        = dropped s + refused keep (max + 1 - (stored s).length) xs := by
  induction xs generalizing s with
  | nil => cases max + 1 - (stored s).length <;> simp [refused]
  | cons x xs ih =>
    -- A full loop stops at once: it keeps and counts nothing more.
    by_cases hs : max < (stored s).length
    · have hzero : max + 1 - (stored s).length = 0 := by omega
      simp [forEach_cons, guardedBody, hfull, hs, hzero, refused]
    · have hrun : (forEach (guardedBody full step) (x :: xs) s).state =
          (forEach (guardedBody full step) xs (step s x)).state := by
        simp [forEach_cons, guardedBody, hfull, hs]
      obtain ⟨hstored, hdropped⟩ := ih (step s x)
      have hroom : max + 1 - (stored s).length = (max - (stored s).length) + 1 := by omega
      rw [hrun, hstored, hdropped]
      -- One place less, or one refusal more.
      cases hk : keep x with
      | true =>
        obtain ⟨h₁, h₂⟩ := hkeep s x hk
        have hnext : max + 1 - ((stored s).length + 1) = max - (stored s).length := by omega
        simp [h₁, h₂, hk, hroom, hnext, refused]
      | false =>
        obtain ⟨h₁, h₂⟩ := hdrop s x hk
        constructor
        · simp [h₁, hk]
        · rw [h₁, h₂, hroom, refused, hk]
          simp only [Bool.false_eq_true, if_false]
          omega

end Loops

end Datacat.Basics
