import Mathlib

/-!
# Histories

What a history tells since the last label that resets it: the labels are the steps of a run, oldest
first, and a state that is emptied at some of them is a function of the labels since.

## Main results

- `since_snoc`: one label more.
- `since_append`: where nothing resets, what came before stays.
- `since_append_of_silent`: where nothing is picked, it stays or is reset.
-/

namespace Datacat.Basics

universe u v

variable {α : Type u} {β : Type v}

/-- What the labels since the last reset say, oldest first. -/
def since (reset : α → Bool) (pick : α → Option β) (labels : List α) : List β :=
  (labels.rtakeWhile fun a => !reset a).filterMap pick

variable {reset : α → Bool} {pick : α → Option β}

theorem since_nil : since reset pick [] = [] := rfl

theorem since_snoc (labels : List α) (a : α) :
    since reset pick (labels ++ [a]) =
      if reset a then [] else since reset pick labels ++ (pick a).toList := by
  unfold since
  rw [List.rtakeWhile_concat]
  cases hreset : reset a with
  | true => rfl
  | false =>
    rw [if_pos (show (!false) = true from rfl), if_neg Bool.false_ne_true, List.filterMap_append]
    rfl

/-- Where nothing resets, what came before stays. -/
theorem since_append {first second : List α} (h : ∀ a ∈ second, reset a = false) :
    since reset pick (first ++ second) = since reset pick first ++ second.filterMap pick := by
  induction second using List.reverseRecOn with
  | nil => rw [List.append_nil, List.filterMap_nil, List.append_nil]
  | append_singleton second a ih =>
    have hsecond : ∀ b ∈ second, reset b = false := fun b hb => h b (List.mem_append_left _ hb)
    have ha : reset a = false := h a (List.mem_append_right _ List.mem_cons_self)
    rw [← List.append_assoc, since_snoc, ha, if_neg Bool.false_ne_true, ih hsecond,
      List.filterMap_append, List.append_assoc]
    rfl

/-- Where nothing is picked, what came before stays or is reset. -/
theorem since_append_of_silent {first second : List α} (h : ∀ a ∈ second, pick a = none) :
    since reset pick (first ++ second) = since reset pick first ∨
      since reset pick (first ++ second) = [] := by
  induction second using List.reverseRecOn with
  | nil =>
    rw [List.append_nil]
    exact .inl rfl
  | append_singleton second a ih =>
    have hsecond : ∀ b ∈ second, pick b = none := fun b hb => h b (List.mem_append_left _ hb)
    have ha : pick a = none := h a (List.mem_append_right _ List.mem_cons_self)
    rw [← List.append_assoc, since_snoc, ha, Option.toList_none, List.append_nil]
    split_ifs
    · exact .inr rfl
    · exact ih hsecond

end Datacat.Basics
