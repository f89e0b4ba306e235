import Mathlib

/-!
# Patterns of LIKE

A pattern is read as a list of tokens: any sequence, any character, or a character itself. A
backslash takes its meaning from the character after it.

`matches_containing_iff` is the intended use: a text between two percent signs matches what contains
the text, as long as the text has no character with a meaning. `matches_instanceOf` and
`exists_instanceOf` say what becomes of a text that has one: it matches a text of its own that does
not contain it.
-/

namespace Datacat.Basics.Like

/-! ## Patterns -/

inductive Token where
  /-- `%`. -/
  | any
  /-- `_`. -/
  | one
  | char (c : Char)
deriving DecidableEq

/-- The tokens of a pattern; none when it ends with a backslash that escapes nothing. -/
def tokens : List Char → Option (List Token)
  | [] => some []
  | ['\\'] => none
  | '\\' :: c :: rest => (tokens rest).map (.char c :: ·)
  | '%' :: rest => (tokens rest).map (.any :: ·)
  | '_' :: rest => (tokens rest).map (.one :: ·)
  | c :: rest => (tokens rest).map (.char c :: ·)

def matchesTokens : List Token → List Char → Bool
  | [], s => s.isEmpty
  | .any :: rest, s => s.tails.any (matchesTokens rest)
  | .one :: _, [] => false
  | .one :: rest, _ :: s => matchesTokens rest s
  | .char _ :: _, [] => false
  | .char c :: rest, d :: s => c == d && matchesTokens rest s

/-- `<text> LIKE <pattern>`; none is an error. -/
def like (text pattern : List Char) : Option Bool :=
  (tokens pattern).map fun ts => matchesTokens ts text

/-- A character that means something in a pattern. -/
def isSpecial (c : Char) : Bool := c == '%' || c == '_' || c == '\\'

/-- No character of the text means something in a pattern. -/
def Plain (cs : List Char) : Prop := ∀ c ∈ cs, isSpecial c = false

theorem tokens_cons_of_plain {c : Char} (h : isSpecial c = false) (rest : List Char) :
    tokens (c :: rest) = (tokens rest).map (.char c :: ·) := by
  simp only [isSpecial, Bool.or_eq_false_iff, beq_eq_false_iff_ne] at h
  obtain ⟨⟨hpercent, hunderscore⟩, hbackslash⟩ := h
  rw [tokens]
  · exact fun hc _ => hbackslash hc
  · exact fun _ _ hc _ => hbackslash hc
  · exact hpercent
  · exact hunderscore

/-! ## Texts between percent signs -/

theorem tokens_containing_of_plain {cs : List Char} (h : Plain cs) :
    tokens (cs ++ ['%']) = some (cs.map .char ++ [.any]) := by
  induction cs with
  | nil => rfl
  | cons c cs ih =>
    obtain ⟨hc, hcs⟩ := List.forall_mem_cons.mp h
    rw [List.cons_append, tokens_cons_of_plain hc, ih hcs]
    rfl

theorem matches_prefix_iff {cs s : List Char} :
    matchesTokens (cs.map .char ++ [.any]) s = true ↔ cs <+: s := by
  induction cs generalizing s with
  | nil =>
    refine iff_of_true ?_ List.nil_prefix
    show s.tails.any (matchesTokens []) = true
    -- The last percent sign takes all that is left of the text.
    exact List.any_eq_true.mpr ⟨[], (List.mem_tails ..).mpr List.nil_suffix, rfl⟩
  | cons c cs ih =>
    cases s with
    | nil => exact iff_of_false nofun (fun h => by cases List.prefix_nil.mp h)
    | cons d s =>
      show (c == d && matchesTokens (cs.map .char ++ [.any]) s) = true ↔ _
      rw [Bool.and_eq_true, beq_iff_eq, ih, List.cons_prefix_cons]

/-- A text without special characters, between two percent signs. -/
theorem matches_containing_iff {cs s : List Char} :
    matchesTokens (.any :: (cs.map .char ++ [.any])) s = true ↔ cs <:+: s := by
  show s.tails.any (matchesTokens (cs.map .char ++ [.any])) = true ↔ _
  rw [List.any_eq_true, List.infix_iff_prefix_suffix]
  simp only [List.mem_tails, matches_prefix_iff]
  exact exists_congr fun _ => and_comm

theorem like_containing_of_plain {cs : List Char} (h : Plain cs) (s : List Char) :
    ∃ b, like s ('%' :: (cs ++ ['%'])) = some b ∧ (b = true ↔ cs <:+: s) := by
  refine ⟨_, ?_, matches_containing_iff⟩
  unfold like
  show ((tokens (cs ++ ['%'])).map (Token.any :: ·)).map _ = _
  rw [tokens_containing_of_plain h]
  rfl

/-! ## Letter case -/

/-- The lower-case mapping of a database. What means something in a pattern is no letter, in
either case. -/
structure LetterCase where
  lower : Char → Char
  lower_eq_iff : ∀ c special, isSpecial special = true → (lower c = special ↔ c = special)

/-- `<text> ILIKE <pattern>`. -/
def ilike (letters : LetterCase) (text pattern : List Char) : Option Bool :=
  like (text.map letters.lower) (pattern.map letters.lower)

/-- The text contains the other one, up to letter case. -/
def ContainsUpToCase (letters : LetterCase) (text cs : List Char) : Prop :=
  cs.map letters.lower <:+: text.map letters.lower

def Token.lower (letters : LetterCase) : Token → Token
  | any => any
  | one => one
  | char c => char (letters.lower c)

section LetterCase

variable (letters : LetterCase)

theorem LetterCase.lower_special {c : Char} (h : isSpecial c = true) : letters.lower c = c :=
  (letters.lower_eq_iff c c h).mpr rfl

theorem LetterCase.isSpecial_lower (c : Char) : isSpecial (letters.lower c) = isSpecial c := by
  apply Bool.eq_iff_iff.mpr
  constructor
  · intro h
    have hsame : c = letters.lower c := (letters.lower_eq_iff c _ h).mp rfl
    rw [← hsame] at h
    exact h
  · intro h
    rw [letters.lower_special h]
    exact h

theorem plain_map_lower_iff {cs : List Char} : Plain (cs.map letters.lower) ↔ Plain cs := by
  unfold Plain
  simp only [List.forall_mem_map, letters.isSpecial_lower]

/-! ## An instance of a pattern -/

/-- A text that the tokens match: nothing for any sequence, and an `x` for any character. -/
def instanceOf : List Token → List Char
  | [] => []
  | .any :: rest => instanceOf rest
  | .one :: rest => 'x' :: instanceOf rest
  | .char c :: rest => c :: instanceOf rest

theorem matches_instanceOf (ts : List Token) :
    matchesTokens (ts.map (Token.lower letters)) ((instanceOf ts).map letters.lower) = true := by
  induction ts with
  | nil => rfl
  | cons t ts ih =>
    cases t with
    | any =>
      show ((instanceOf ts).map letters.lower).tails.any
        (matchesTokens (ts.map (Token.lower letters))) = true
      exact List.any_eq_true.mpr ⟨_, (List.mem_tails ..).mpr List.suffix_rfl, ih⟩
    | one => exact ih
    | char c =>
      show (letters.lower c == letters.lower c && _) = true
      rw [beq_self_eq_true, Bool.true_and]
      exact ih

private theorem isSpecial_eq_false {c : Char} {rest : List Char} (hend : c = '\\' → rest = [] → False)
    (hescape : ∀ d rest', c = '\\' → rest = d :: rest' → False) (hany : c = '%' → False)
    (hone : c = '_' → False) : isSpecial c = false := by
  have hbackslash : c ≠ '\\' := by
    intro hc
    cases rest with
    | nil => exact hend hc rfl
    | cons d rest => exact hescape d rest hc rfl
  simp only [isSpecial, Bool.or_eq_false_iff, beq_eq_false_iff_ne]
  exact ⟨⟨hany, hone⟩, hbackslash⟩

theorem tokens_map_lower (cs : List Char) :
    tokens (cs.map letters.lower) = (tokens cs).map (List.map (Token.lower letters)) := by
  have hbackslash := letters.lower_special (c := '\\') rfl
  have hpercent := letters.lower_special (c := '%') rfl
  have hunderscore := letters.lower_special (c := '_') rfl
  induction cs using tokens.induct with
  | case1 => rfl
  | case2 => rw [List.map_singleton, hbackslash]; rfl
  | case3 c rest ih =>
    rw [List.map_cons, List.map_cons, hbackslash, tokens, tokens, ih]
    cases tokens rest <;> rfl
  | case4 rest ih =>
    rw [List.map_cons, hpercent, tokens, tokens, ih]
    cases tokens rest <;> rfl
  | case5 rest ih =>
    rw [List.map_cons, hunderscore, tokens, tokens, ih]
    cases tokens rest <;> rfl
  | case6 c rest hend hescape hany hone ih =>
    have hplain := isSpecial_eq_false hend hescape hany hone
    rw [List.map_cons, tokens_cons_of_plain ((letters.isSpecial_lower c).trans hplain), ih,
      tokens_cons_of_plain hplain]
    cases tokens rest <;> rfl

/-- What becomes of a text between two percent signs: an instance of it is no longer than the text,
and is the text itself, up to case, only where no character has a meaning. -/
theorem exists_instanceOf (cs : List Char) :
    ∃ ts, tokens (cs ++ ['%']) = some ts ∧ (instanceOf ts).length ≤ cs.length ∧
      ((instanceOf ts).map letters.lower = cs.map letters.lower → Plain cs) := by
  induction cs using tokens.induct with
  | case1 => exact ⟨[.any], rfl, le_rfl, fun _ => List.forall_mem_nil _⟩
  | case2 =>
    -- The backslash escapes the second percent sign.
    refine ⟨[.char '%'], rfl, le_rfl, fun h => ?_⟩
    have hsame : letters.lower '%' = letters.lower '\\' := (List.cons.inj h).1
    rw [letters.lower_special rfl, letters.lower_special rfl] at hsame
    exact absurd hsame (by decide)
  | case3 c rest ih =>
    obtain ⟨ts, hts, hlength, -⟩ := ih
    refine ⟨.char c :: ts, ?_, ?_, fun h => ?_⟩
    · rw [List.cons_append, List.cons_append, tokens, hts]
      rfl
    · -- The escape is no character of the instance.
      exact Nat.succ_le_succ (hlength.trans (Nat.le_succ _))
    · have hlengths := congrArg List.length h
      simp only [instanceOf, List.length_map, List.length_cons] at hlengths
      omega
  | case4 rest ih =>
    obtain ⟨ts, hts, hlength, -⟩ := ih
    -- Nothing stands for the percent sign.
    refine ⟨.any :: ts, ?_, hlength.trans (Nat.le_succ _), fun h => ?_⟩
    · rw [List.cons_append, tokens, hts]
      rfl
    · have hlengths := congrArg List.length h
      simp only [instanceOf, List.length_map, List.length_cons] at hlengths
      omega
  | case5 rest ih =>
    obtain ⟨ts, hts, hlength, -⟩ := ih
    -- An `x` stands for the underscore.
    refine ⟨.one :: ts, ?_, Nat.succ_le_succ hlength, fun h => ?_⟩
    · rw [List.cons_append, tokens, hts]
      rfl
    · have hsame : letters.lower 'x' = letters.lower '_' := (List.cons.inj h).1
      rw [letters.lower_special (c := '_') rfl, letters.lower_eq_iff _ _ rfl] at hsame
      exact absurd hsame (by decide)
  | case6 c rest hend hescape hany hone ih =>
    have hplain := isSpecial_eq_false hend hescape hany hone
    obtain ⟨ts, hts, hlength, hrest⟩ := ih
    refine ⟨.char c :: ts, ?_, Nat.succ_le_succ hlength, fun h => ?_⟩
    · rw [List.cons_append, tokens_cons_of_plain hplain, hts]
      rfl
    · exact List.forall_mem_cons.mpr ⟨hplain, hrest (List.cons.inj h).2⟩

/-! ## Search between percent signs -/

/-- A pattern between two percent signs is no error. -/
theorem exists_ilike_containing (text cs : List Char) :
    ∃ b, ilike letters text ('%' :: (cs ++ ['%'])) = some b := by
  obtain ⟨ts, hts, -⟩ := exists_instanceOf letters cs
  unfold ilike like
  rw [tokens_map_lower, tokens, hts]
  exact ⟨_, rfl⟩

/-- A search for what is between two percent signs finds the texts that contain it, up to case. -/
def FindsContained (cs : List Char) : Prop :=
  ∀ text, ∃ b, ilike letters text ('%' :: (cs ++ ['%'])) = some b ∧
    (b = true ↔ ContainsUpToCase letters text cs)

theorem findsContained_iff (cs : List Char) : FindsContained letters cs ↔ Plain cs := by
  have hpattern : ('%' :: (cs ++ ['%'])).map letters.lower =
      '%' :: (cs.map letters.lower ++ ['%']) := by
    rw [List.map_cons, List.map_append, List.map_singleton, letters.lower_special rfl]
  constructor
  · intro hfinds
    obtain ⟨ts, hts, hlength, hplain⟩ := exists_instanceOf letters cs
    obtain ⟨b, hb, hcontains⟩ := hfinds (instanceOf ts)
    -- The instance is found, so it contains the text, and is no longer.
    have htokens : tokens (('%' :: (cs ++ ['%'])).map letters.lower) =
        some ((Token.any :: ts).map (Token.lower letters)) := by
      rw [tokens_map_lower, tokens, hts]
      rfl
    have hfound : b = true := by
      unfold ilike like at hb
      rw [htokens] at hb
      rw [← Option.some.inj hb]
      exact matches_instanceOf letters (.any :: ts)
    have hwithin := hcontains.mp hfound
    refine hplain (hwithin.eq_of_length_le ?_).symm
    rw [List.length_map, List.length_map]
    exact hlength
  · intro hplain text
    unfold ilike
    rw [hpattern]
    exact like_containing_of_plain ((plain_map_lower_iff letters).mpr hplain) _

end LetterCase

end Datacat.Basics.Like
