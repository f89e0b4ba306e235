import Mathlib
import Datacat.Basics.Text

/-!
# Values of a Configuration File

What the programs of the repository do with the texts of their configuration: the expansion of
`${VAR}` and `${VAR:-default}`, and durations such as `15s` or `31d`. An error is the list of its
contexts, the outermost first. The two programs have the same code with texts of their own, which
are parameters here.
-/

namespace Datacat.Basics

/-- The contexts of an error, outermost first. -/
abbrev Contexts := List String

/-- `Context::context`. -/
def Contexts.wrap {α : Type} (text : String) : Except Contexts α → Except Contexts α
  | .ok value => .ok value
  | .error contexts => .error (text :: contexts)

theorem Contexts.bind_eq_ok {α β : Type} {x : Except Contexts α} {f : α → Except Contexts β}
    {b : β} (h : (x >>= f) = .ok b) : ∃ a, x = .ok a ∧ f a = .ok b := by
  cases x with
  | error contexts => cases h
  | ok a => exact ⟨a, rfl, h⟩

theorem Contexts.wrap_eq_ok {α : Type} {text : String} {x : Except Contexts α} {a : α}
    (h : wrap text x = .ok a) : x = .ok a := by
  cases x with
  | error contexts => cases h
  | ok b => exact h

/-- A result that is known to satisfy a test. -/
theorem Contexts.exists_of_any {α : Type} {x : Except Contexts α} {p : α → Bool}
    (h : x.toOption.any p = true) : ∃ a, x = .ok a ∧ p a = true := by
  cases x with
  | error contexts => cases h
  | ok a => exact ⟨a, rfl, h⟩

/-- Each of several results is the one of an item. -/
theorem Contexts.exists_of_mapM {α β : Type} {f : α → Except Contexts β} {xs : List α}
    {ys : List β} (h : xs.mapM f = .ok ys) {y : β} (hy : y ∈ ys) : ∃ x ∈ xs, f x = .ok y := by
  induction xs generalizing ys with
  | nil =>
    obtain rfl := Except.ok.inj h
    cases hy
  | cons x xs ih =>
    rw [List.mapM_cons] at h
    obtain ⟨first, hfirst, h⟩ := bind_eq_ok h
    obtain ⟨rest, hrest, h⟩ := bind_eq_ok h
    obtain rfl := Except.ok.inj h
    rcases List.mem_cons.mp hy with rfl | hy
    · exact ⟨x, List.mem_cons_self, hfirst⟩
    · obtain ⟨x', hx', heq⟩ := ih hrest hy
      exact ⟨x', List.mem_cons_of_mem _ hx', heq⟩

/-! ## Environment variables -/

/-- The texts of `expand_str`. -/
structure ExpandTexts where
  unterminated : String
  noName : String
  notSet : String → String

/-- `inner.split_once(":-")`. -/
def splitDefault : List Char → List Char × Option (List Char)
  | [] => ([], none)
  | ':' :: '-' :: rest => ([], some rest)
  | c :: rest => let (name, default) := splitDefault rest; (c :: name, default)

/-- The value of one placeholder: the variable, or else the default. -/
def placeholderValue (texts : ExpandTexts) (env : String → Option String) (inner : List Char) :
    Except Contexts (List Char) :=
  let (name, default) := splitDefault inner
  let name := String.ofList (trim name)
  if name.isEmpty then .error [texts.noName]
  else
    match env name, default with
    | some value, _ => .ok value.toList
    | none, some default => .ok default
    | none, none => .error [texts.notSet name]

/-- The loop of `expand_str`; inside a placeholder it carries the characters read since `${`. -/
def expandFrom (texts : ExpandTexts) (env : String → Option String) :
    Option (List Char) → List Char → Except Contexts (List Char)
  | none, [] => .ok []
  | none, '$' :: '{' :: rest => expandFrom texts env (some []) rest
  | none, c :: rest => (expandFrom texts env none rest).map (c :: ·)
  | some _, [] => .error [texts.unterminated]
  | some inner, c :: rest =>
    if c = '}' then do
      let value ← placeholderValue texts env inner
      return value ++ (← expandFrom texts env none rest)
    else expandFrom texts env (some (inner ++ [c])) rest

/-- `expand_str`. -/
def expandStr (texts : ExpandTexts) (env : String → Option String) (input : String) :
    Except Contexts String :=
  (expandFrom texts env none input.toList).map String.ofList

/-! ## Durations -/

/-- The texts of `parse_duration`. -/
structure DurationTexts where
  empty : String
  noUnit : String
  invalidValue : String
  unknownUnit : String → String

/-- Nanoseconds of a number of seconds. -/
def fromSecs (secs : UInt64) : Nat := secs.toNat * 1000000000

/-- `parse_duration`, in nanoseconds; the products are those of `u64`, which wrap in a release
build. -/
def parseDuration (texts : DurationTexts) (s : String) : Except Contexts Nat :=
  let s := trim s.toList
  if s.isEmpty then .error [texts.empty]
  else
    let num := s.takeWhile fun c => !c.isAlpha
    let unit := s.dropWhile fun c => !c.isAlpha
    if unit.isEmpty then .error [texts.noUnit]
    else
      match parseU64 (trim num) with
      | none => .error [texts.invalidValue]
      | some value =>
        match String.ofList unit with
        | "ms" => .ok (value.toNat * 1000000)
        | "s" => .ok (fromSecs value)
        | "m" => .ok (fromSecs (value * 60))
        | "h" => .ok (fromSecs (value * 3600))
        | "d" => .ok (fromSecs (value * 86400))
        | other => .error [texts.unknownUnit other]

end Datacat.Basics
