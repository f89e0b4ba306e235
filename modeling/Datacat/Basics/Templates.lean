import Datacat.Basics.Settings

/-!
# The Grammar of Variable References

A string of the configuration is a template: literal text with references `${…}` in it, and perhaps
a last one that is not closed. Every string is one template in one way (`Template.exists_source`,
`Template.source_inj`), and `expandStr` gives the literals with a value in the place of each
reference (`expandStr_ok_iff`). A value is not read again.
-/

namespace Datacat.Basics

/-! ## First occurrences -/

section Pairs

variable {α : Type} {a b : α}

/-- A list holds two elements side by side, and is cut at the first place, or it does not. -/
theorem pair_split (a b : α) (cs : List α) :
    ¬[a, b] <:+: cs ∨ ∃ before after, ¬[a, b] <:+: before ∧ cs = before ++ a :: b :: after := by
  induction cs with
  | nil => exact .inl fun h => by cases List.eq_nil_of_infix_nil h
  | cons c cs ih =>
    by_cases hhere : [a, b] <+: c :: cs
    · obtain ⟨after, hafter⟩ := hhere
      refine .inr ⟨[], after, fun h => ?_, hafter.symm⟩
      cases List.eq_nil_of_infix_nil h
    · rcases ih with hnone | ⟨before, after, hbefore, rfl⟩
      · exact .inl fun h => (List.infix_cons_iff.mp h).elim hhere hnone
      · refine .inr ⟨c :: before, after, fun h => ?_, rfl⟩
        rcases List.infix_cons_iff.mp h with ⟨rest, hrest⟩ | h
        · -- The pair starts here already.
          refine hhere ⟨rest ++ a :: b :: after, ?_⟩
          rw [← List.cons_append, ← hrest]
          rfl
        · exact hbefore h

/-- The elements before the first occurrence, read one by one. -/
theorem not_pair_cons {c : α} {cs : List α} (h : ¬[a, b] <:+: c :: cs) :
    ¬[a, b] <:+: cs ∧ (c = a → cs.head? ≠ some b) := by
  refine ⟨fun hcs => h (List.infix_cons hcs), ?_⟩
  rintro rfl hhead
  cases cs with
  | nil => cases hhead
  | cons d cs =>
    obtain rfl := Option.some.inj hhead
    exact h ⟨[], cs, rfl⟩

theorem pair_split_inj (hne : a ≠ b) {x₁ x₂ z₁ z₂ : List α} (h₁ : ¬[a, b] <:+: x₁)
    (h₂ : ¬[a, b] <:+: x₂) (h : x₁ ++ a :: b :: z₁ = x₂ ++ a :: b :: z₂) :
    x₁ = x₂ ∧ z₁ = z₂ := by
  induction x₁ generalizing x₂ with
  | nil =>
    match x₂ with
    | [] => exact ⟨rfl, (List.cons.inj (List.cons.inj h).2).2⟩
    | [c] => exact absurd (List.cons.inj (List.cons.inj h).2).1.symm hne
    | c :: d :: x₂ =>
      obtain ⟨rfl, htail⟩ := List.cons.inj h
      obtain ⟨rfl, -⟩ := List.cons.inj htail
      -- The first pair stands in a text that has none.
      exact absurd ⟨[], x₂, rfl⟩ h₂
  | cons c x₁ ih =>
    cases x₂ with
    | nil =>
      obtain ⟨rfl, htail⟩ := List.cons.inj h
      cases x₁ with
      | nil => exact absurd (List.cons.inj htail).1 hne
      | cons d x₁ =>
        obtain ⟨rfl, -⟩ := List.cons.inj htail
        exact absurd ⟨[], x₁, rfl⟩ h₁
    | cons d x₂ =>
      obtain ⟨rfl, htail⟩ := List.cons.inj h
      obtain ⟨rfl, hz⟩ := ih (not_pair_cons h₁).1 (not_pair_cons h₂).1 htail
      exact ⟨rfl, hz⟩

end Pairs

/-! ## Templates -/

inductive Template where
  | literal (text : List Char)
  /-- The literal text before a reference that is not closed, and all that follows it. -/
  | unclosed (text inner : List Char)
  | reference (text inner : List Char) (rest : Template)

/-- The text has no `${`. -/
def NoOpening (text : List Char) : Prop := ¬['$', '{'] <:+: text

namespace Template

def source : Template → List Char
  | literal text => text
  | unclosed text inner => text ++ '$' :: '{' :: inner
  | reference text inner rest => text ++ '$' :: '{' :: (inner ++ '}' :: rest.source)

/-- A reference starts at the first `${` and ends at the next closing brace. -/
def WellFormed : Template → Prop
  | literal text => NoOpening text
  | unclosed text inner => NoOpening text ∧ '}' ∉ inner
  | reference text inner rest => NoOpening text ∧ '}' ∉ inner ∧ rest.WellFormed

def references : Template → List (List Char)
  | literal _ => []
  | unclosed _ _ => []
  | reference _ inner rest => inner :: rest.references

/-- Every reference is closed. -/
def Closed : Template → Prop
  | literal _ => True
  | unclosed _ _ => False
  | reference _ _ rest => rest.Closed

theorem exists_source (input : List Char) :
    ∃ template : Template, template.WellFormed ∧ template.source = input := by
  -- What follows a closed reference is shorter.
  induction hlength : input.length using Nat.strong_induction_on generalizing input with
  | h n ih =>
    rcases pair_split '$' '{' input with hnone | ⟨text, after, htext, rfl⟩
    · exact ⟨.literal input, hnone, rfl⟩
    · by_cases hclosed : '}' ∈ after
      · obtain ⟨inner, rest, rfl, hinner⟩ := List.eq_append_cons_of_mem hclosed
        have hshorter : rest.length < n := by
          rw [← hlength]
          simp only [List.length_append, List.length_cons]
          omega
        obtain ⟨template, hformed, rfl⟩ := ih _ hshorter rest rfl
        exact ⟨.reference text inner template, ⟨htext, hinner, hformed⟩, rfl⟩
      · exact ⟨.unclosed text after, ⟨htext, hclosed⟩, rfl⟩

private theorem NoOpening.not_source {text x y : List Char} (h : NoOpening text) :
    text ≠ x ++ '$' :: '{' :: y := by
  rintro rfl
  exact h ⟨x, y, by simp⟩

/-- A string is a template in one way. -/
theorem source_inj {s t : Template} (hs : s.WellFormed) (ht : t.WellFormed)
    (h : s.source = t.source) : s = t := by
  have hne : '$' ≠ '{' := by decide
  induction s generalizing t with
  | literal text =>
    cases t with
    | literal text' => exact congrArg literal h
    | unclosed text' inner' => exact absurd h (NoOpening.not_source hs)
    | reference text' inner' rest' => exact absurd h (NoOpening.not_source hs)
  | unclosed text inner =>
    cases t with
    | literal text' => exact absurd h.symm (NoOpening.not_source ht)
    | unclosed text' inner' =>
      obtain ⟨rfl, rfl⟩ := pair_split_inj hne hs.1 ht.1 h
      rfl
    | reference text' inner' rest' =>
      obtain ⟨-, rfl⟩ := pair_split_inj hne hs.1 ht.1 h
      -- The brace of the one is in what the other leaves open.
      exact absurd (List.mem_append_right _ (List.mem_cons_self ..)) hs.2
  | reference text inner rest ih =>
    cases t with
    | literal text' => exact absurd h.symm (NoOpening.not_source ht)
    | unclosed text' inner' =>
      obtain ⟨-, rfl⟩ := pair_split_inj hne hs.1 ht.1 h
      exact absurd (List.mem_append_right _ (List.mem_cons_self ..)) ht.2
    | reference text' inner' rest' =>
      obtain ⟨rfl, hafter⟩ := pair_split_inj hne hs.1 ht.1 h
      obtain ⟨rfl, hrest⟩ := append_sep_inj hs.2.1 ht.2.1 hafter
      rw [ih hs.2.2 ht.2.2 hrest]

end Template

/-! ## References -/

/-- What stands between the braces: a name, with the white space around it left out, and perhaps a
default after the first `:-`. -/
inductive Names : List Char → String → Option (List Char) → Prop where
  | plain {inner : List Char} (h : ¬[':', '-'] <:+: inner) :
      Names inner (String.ofList (trim inner)) none
  | withDefault {name default : List Char} (h : ¬[':', '-'] <:+: name) :
      Names (name ++ ':' :: '-' :: default) (String.ofList (trim name)) (some default)

theorem splitDefault_plain {inner : List Char} (h : ¬[':', '-'] <:+: inner) :
    splitDefault inner = (inner, none) := by
  induction inner with
  | nil => rfl
  | cons c inner ih =>
    obtain ⟨hrest, hhead⟩ := not_pair_cons h
    unfold splitDefault
    split
    · rename_i heq
      cases heq
    · rename_i rest heq
      obtain ⟨rfl, rfl⟩ := List.cons.inj heq
      -- The text would have a colon and a dash side by side.
      exact absurd rfl (hhead rfl)
    · rename_i rest _ heq
      obtain ⟨rfl, rfl⟩ := List.cons.inj heq
      rw [ih hrest]

theorem splitDefault_withDefault {name : List Char} (default : List Char)
    (h : ¬[':', '-'] <:+: name) :
    splitDefault (name ++ ':' :: '-' :: default) = (name, some default) := by
  induction name with
  | nil => rfl
  | cons c name ih =>
    obtain ⟨hrest, hhead⟩ := not_pair_cons h
    rw [List.cons_append]
    unfold splitDefault
    split
    · rename_i heq
      cases heq
    · rename_i rest heq
      obtain ⟨rfl, htail⟩ := List.cons.inj heq
      -- The dash would be the first character of the name, or the colon of the separator.
      cases name with
      | nil => exact absurd (List.cons.inj htail).1 (by decide)
      | cons d name =>
        obtain ⟨rfl, -⟩ := List.cons.inj htail
        exact absurd rfl (hhead rfl)
    · rename_i rest _ heq
      obtain ⟨rfl, rfl⟩ := List.cons.inj heq
      rw [ih hrest]

theorem names_iff {inner : List Char} {name : String} {default : Option (List Char)} :
    Names inner name default ↔
      name = String.ofList (trim (splitDefault inner).1) ∧ default = (splitDefault inner).2 := by
  constructor
  · intro h
    cases h with
    | plain h => rw [splitDefault_plain h]; exact ⟨rfl, rfl⟩
    | withDefault h => rw [splitDefault_withDefault _ h]; exact ⟨rfl, rfl⟩
  · rintro ⟨rfl, rfl⟩
    rcases pair_split ':' '-' inner with hnone | ⟨name, default, hname, rfl⟩
    · rw [splitDefault_plain hnone]
      exact .plain hnone
    · rw [splitDefault_withDefault _ hname]
      exact .withDefault hname

/-- The value that takes the place of a reference: that of the variable, or the default when the
variable is not set. -/
def Resolves (env : String → Option String) (inner value : List Char) : Prop :=
  ∃ name default, Names inner name default ∧ name ≠ "" ∧
    ((∃ v, env name = some v ∧ value = v.toList) ∨ (env name = none ∧ default = some value))

/-- The reference has no name. -/
def Nameless (inner : List Char) : Prop := ∃ default, Names inner "" default

/-- The reference names a variable that is not set, without a default. -/
def Unset (env : String → Option String) (inner : List Char) : Prop :=
  ∃ name, Names inner name none ∧ name ≠ "" ∧ env name = none

namespace Template

/-- The literals in order, with a value in the place of each reference. -/
inductive Renders (env : String → Option String) : Template → List Char → Prop where
  | literal (text : List Char) : Renders env (.literal text) text
  | reference {text inner value out : List Char} {rest : Template}
      (hvalue : Resolves env inner value) (hrest : Renders env rest out) :
      Renders env (.reference text inner rest) (text ++ value ++ out)

/-- A reference is not closed, has no name, or names nothing that is set. -/
def Refused (env : String → Option String) (template : Template) : Prop :=
  ¬template.Closed ∨ ∃ inner ∈ template.references, Nameless inner ∨ Unset env inner

end Template

/-! ## What the program computes -/

section Expansion

variable {texts : ExpandTexts} {env : String → Option String}

theorem placeholderValue_ok_iff {inner value : List Char} :
    placeholderValue texts env inner = .ok value ↔ Resolves env inner value := by
  unfold placeholderValue Resolves
  simp only [names_iff]
  generalize splitDefault inner = split
  obtain ⟨cs, default⟩ := split
  dsimp only
  generalize String.ofList (trim cs) = name
  by_cases hname : name = ""
  · simp [hname]
  · cases hvalue : env name with
    | some v => simpa [hname, hvalue] using eq_comm
    | none => cases default <;> simp [hname, hvalue]

theorem placeholderValue_error_iff {inner : List Char} :
    (∃ error, placeholderValue texts env inner = .error error) ↔
      Nameless inner ∨ Unset env inner := by
  unfold placeholderValue Nameless Unset
  simp only [names_iff]
  generalize splitDefault inner = split
  obtain ⟨cs, default⟩ := split
  dsimp only
  generalize String.ofList (trim cs) = name
  by_cases hname : name = ""
  · simp [hname]
  · cases hvalue : env name with
    | some v => simp [hname, Ne.symm hname, hvalue]
    | none => cases default <;> simp [hname, Ne.symm hname, hvalue]

private theorem expandFrom_char {c : Char} {rest : List Char}
    (h : c = '$' → rest.head? ≠ some '{') :
    expandFrom texts env none (c :: rest) = (expandFrom texts env none rest).map (c :: ·) := by
  rw [expandFrom]
  rintro after rfl rfl
  exact h rfl rfl

theorem expandFrom_literal {text : List Char} (h : NoOpening text) :
    expandFrom texts env none text = .ok text := by
  induction text with
  | nil => rfl
  | cons c text ih =>
    obtain ⟨hrest, hhead⟩ := not_pair_cons h
    rw [expandFrom_char hhead, ih hrest]
    rfl

theorem expandFrom_opening {text : List Char} (after : List Char) (h : NoOpening text) :
    expandFrom texts env none (text ++ '$' :: '{' :: after) =
      (expandFrom texts env (some []) after).map (text ++ ·) := by
  induction text with
  | nil =>
    rw [List.nil_append, expandFrom]
    cases expandFrom texts env (some []) after <;> rfl
  | cons c text ih =>
    obtain ⟨hrest, hhead⟩ := not_pair_cons h
    have hnext : c = '$' → (text ++ '$' :: '{' :: after).head? ≠ some '{' := by
      intro hc
      cases text with
      | nil => exact fun hbrace => absurd (Option.some.inj hbrace) (by decide)
      | cons d text => exact hhead hc
    rw [List.cons_append, expandFrom_char hnext, ih hrest]
    cases expandFrom texts env (some []) after <;> rfl

theorem expandFrom_unclosed {read inner : List Char} (h : '}' ∉ inner) :
    expandFrom texts env (some read) inner = .error [texts.unterminated] := by
  induction inner generalizing read with
  | nil => rfl
  | cons c inner ih =>
    rw [List.mem_cons, not_or] at h
    rw [expandFrom, if_neg (Ne.symm h.1), ih h.2]

theorem expandFrom_reference {read inner : List Char} (rest : List Char) (h : '}' ∉ inner) :
    expandFrom texts env (some read) (inner ++ '}' :: rest) = (do
      let value ← placeholderValue texts env (read ++ inner)
      return value ++ (← expandFrom texts env none rest)) := by
  induction inner generalizing read with
  | nil =>
    rw [List.nil_append, expandFrom, if_pos rfl, List.append_nil]
  | cons c inner ih =>
    rw [List.mem_cons, not_or] at h
    rw [List.cons_append, expandFrom, if_neg (Ne.symm h.1), ih h.2, List.append_assoc]
    rfl

/-- A template gives the text that it renders, and nothing else. -/
theorem expandFrom_source_ok_iff {template : Template} (h : template.WellFormed)
    {out : List Char} :
    expandFrom texts env none template.source = .ok out ↔ template.Renders env out := by
  induction template generalizing out with
  | literal text =>
    rw [Template.source, expandFrom_literal h]
    constructor
    · intro hout
      rw [← Except.ok.inj hout]
      exact .literal text
    · intro hrenders
      cases hrenders
      rfl
  | unclosed text inner =>
    rw [Template.source, expandFrom_opening _ h.1, expandFrom_unclosed h.2]
    exact ⟨nofun, nofun⟩
  | reference text inner rest ih =>
    rw [Template.source, expandFrom_opening _ h.1, expandFrom_reference _ h.2.1, List.nil_append]
    constructor
    · intro hout
      -- There is a value, and what follows the reference gives something.
      cases hvalue : placeholderValue texts env inner with
      | error error => rw [hvalue] at hout; cases hout
      | ok value =>
        cases hrest : expandFrom texts env none rest.source with
        | error error => rw [hvalue, hrest] at hout; cases hout
        | ok after =>
          rw [hvalue, hrest] at hout
          rw [← Except.ok.inj hout]
          show Template.Renders env _ (text ++ (value ++ after))
          rw [← List.append_assoc]
          exact .reference (placeholderValue_ok_iff.mp hvalue) ((ih h.2.2).mp hrest)
    · intro hrenders
      cases hrenders with
      | reference hvalue hrest =>
        rw [placeholderValue_ok_iff.mpr hvalue, (ih h.2.2).mpr hrest]
        exact congrArg Except.ok (List.append_assoc ..).symm

/-- Nothing is rendered exactly where a reference is wrong. -/
theorem expandFrom_source_error_iff {template : Template} (h : template.WellFormed) :
    (∃ error, expandFrom texts env none template.source = .error error) ↔
      template.Refused env := by
  induction template with
  | literal text =>
    rw [Template.source, expandFrom_literal h]
    refine iff_of_false (fun ⟨error, herror⟩ => by cases herror) ?_
    rintro (hopen | ⟨inner, hinner, -⟩)
    · exact hopen trivial
    · cases hinner
  | unclosed text inner =>
    rw [Template.source, expandFrom_opening _ h.1, expandFrom_unclosed h.2]
    exact iff_of_true ⟨_, rfl⟩ (.inl id)
  | reference text inner rest ih =>
    rw [Template.source, expandFrom_opening _ h.1, expandFrom_reference _ h.2.1, List.nil_append]
    have hrefused : (Template.reference text inner rest).Refused env ↔
        (Nameless inner ∨ Unset env inner) ∨ rest.Refused env := by
      unfold Template.Refused
      simp only [Template.Closed, Template.references, List.mem_cons, exists_eq_or_imp]
      exact or_left_comm
    -- The first error is reported, here or further on.
    rw [hrefused, ← ih h.2.2, ← @placeholderValue_error_iff texts env]
    cases hvalue : placeholderValue texts env inner with
    | error error => exact iff_of_true ⟨error, rfl⟩ (.inl ⟨error, rfl⟩)
    | ok value =>
      cases hrest : expandFrom texts env none rest.source with
      | error error => exact iff_of_true ⟨error, rfl⟩ (.inr ⟨error, rfl⟩)
      | ok after =>
        refine iff_of_false (fun ⟨error, herror⟩ => by cases herror) ?_
        rintro (⟨error, herror⟩ | ⟨error, herror⟩) <;> cases herror

theorem expandStr_ok_iff {template : Template} (h : template.WellFormed) {input out : String}
    (hsource : template.source = input.toList) :
    expandStr texts env input = .ok out ↔ template.Renders env out.toList := by
  rw [← @expandFrom_source_ok_iff texts env _ h, hsource]
  unfold expandStr
  cases expandFrom texts env none input.toList with
  | error error => exact ⟨nofun, nofun⟩
  | ok text =>
    constructor
    · intro hout
      rw [← Except.ok.inj hout, String.toList_ofList]
    · intro hout
      rw [Except.ok.inj hout]
      exact congrArg Except.ok String.ofList_toList

theorem expandStr_error_iff {template : Template} (h : template.WellFormed) {input : String}
    (hsource : template.source = input.toList) :
    (∃ error, expandStr texts env input = .error error) ↔ template.Refused env := by
  rw [← @expandFrom_source_error_iff texts env _ h, hsource]
  unfold expandStr
  cases expandFrom texts env none input.toList with
  | error error => exact iff_of_true ⟨error, rfl⟩ ⟨error, rfl⟩
  | ok text => exact ⟨nofun, nofun⟩

/-- A text without a dollar sign stays as it is. -/
theorem expandStr_plain {input : String} (h : '$' ∉ input.toList) :
    expandStr texts env input = .ok input := by
  have hopening : NoOpening input.toList := fun hwithin => h (hwithin.subset (List.mem_cons_self ..))
  unfold expandStr
  rw [expandFrom_literal hopening]
  exact congrArg Except.ok String.ofList_toList

end Expansion

end Datacat.Basics
