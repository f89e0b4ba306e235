import Mathlib
import Datacat.Basics.Json.Value

/-!
# The Text of a JSON Value

Compact serialization of a value, as the JSON library writes it. How it prints a finite
double is a parameter (`FloatFormat`); what is relied on is that the text is a JSON number
with a point or an exponent, and that two doubles do not share a text (`LawfulFloatFormat`).

## Main results

- `text_inj`: the text of a value determines the value, whatever delimiter follows it.
- `hasNulEscape_text`: the text has the escape `\u0000` exactly when some string or key of
  the value holds U+0000.
- `nul_not_mem_text`: the text itself never holds U+0000.
-/

namespace Datacat.Basics

/-! ## Strings -/

/-- Escape of one character inside a JSON string. -/
def escapeChar (c : Char) : List Char :=
  if c = '"' then ['\\', '"']
  else if c = '\\' then ['\\', '\\']
  else if c = '\x08' then ['\\', 'b']
  else if c = '\x0c' then ['\\', 'f']
  else if c = '\n' then ['\\', 'n']
  else if c = '\r' then ['\\', 'r']
  else if c = '\t' then ['\\', 't']
  else if c.toNat < 32 then ['\\', 'u', '0', '0', hexDigit (c.toNat / 16), hexDigit (c.toNat % 16)]
  else [c]

/-- Escaped characters and the closing quote. -/
def escaped : List Char → List Char
  | [] => ['"']
  | c :: cs => escapeChar c ++ escaped cs

def quoted (s : String) : List Char := '"' :: escaped s.toList

theorem escapeChar_plain {c : Char} (hcontrol : ¬ c.toNat < 32) (hquote : c ≠ '"')
    (hback : c ≠ '\\') : escapeChar c = [c] := by
  have hne : ∀ d : Char, d.toNat < 32 → c ≠ d := by
    rintro d hd rfl
    exact hcontrol hd
  simp [escapeChar, hquote, hback, hcontrol, hne '\x08' (by decide), hne '\x0c' (by decide),
    hne '\n' (by decide), hne '\r' (by decide), hne '\t' (by decide)]

/-- What is shown of the control characters, the quote, the backslash and every other
character holds of all characters. -/
theorem escape_cases {P : Char → Prop} (hcontrol : ∀ n, n < 32 → P (Char.ofNat n))
    (hquote : P '"') (hback : P '\\')
    (hplain : ∀ c, escapeChar c = [c] → 32 ≤ c.toNat → c ≠ '"' → c ≠ '\\' → P c) (c : Char) :
    P c := by
  by_cases hc : c.toNat < 32
  · have heq : c = Char.ofNat c.toNat := (Char.ofNat_toNat c).symm
    rw [heq]
    exact hcontrol _ hc
  · by_cases hq : c = '"'
    · exact hq ▸ hquote
    · by_cases hb : c = '\\'
      · exact hb ▸ hback
      · exact hplain c (escapeChar_plain hc hq hb) (not_lt.mp hc) hq hb

/-! ## The text of a string determines it -/

def hexValue (c : Char) : Nat :=
  if c.isDigit then c.toNat - 48 else c.toNat - 87

/-- Reads one character of a JSON string back; none at the closing quote. -/
def unescapeChar : List Char → Option (Char × List Char)
  | '\\' :: 'u' :: _ :: _ :: h :: l :: rest => some (Char.ofNat (16 * hexValue h + hexValue l), rest)
  | '\\' :: 'b' :: rest => some ('\x08', rest)
  | '\\' :: 'f' :: rest => some ('\x0c', rest)
  | '\\' :: 'n' :: rest => some ('\n', rest)
  | '\\' :: 'r' :: rest => some ('\r', rest)
  | '\\' :: 't' :: rest => some ('\t', rest)
  | '\\' :: c :: rest => some (c, rest)
  | '"' :: _ => none
  | c :: rest => some (c, rest)
  | [] => none

theorem unescapeChar_escapeChar (c : Char) (rest : List Char) :
    unescapeChar (escapeChar c ++ rest) = some (c, rest) := by
  induction c using escape_cases with
  | hcontrol n hn => interval_cases n <;> rfl
  | hquote => rfl
  | hback => rfl
  | hplain c hescape _ hq hb => simp [hescape, unescapeChar, hb]

/-- Two escaped strings are cut at the same closing quote, and are the same string. -/
theorem escaped_append_inj {s t r₁ r₂ : List Char} (h : escaped s ++ r₁ = escaped t ++ r₂) :
    s = t ∧ r₁ = r₂ := by
  have hclose : ∀ r, unescapeChar ('"' :: r) = none := fun _ => rfl
  induction s generalizing t with
  | nil =>
    cases t with
    | nil => exact ⟨rfl, (List.cons.inj h).2⟩
    | cons d t =>
      have hread := congrArg unescapeChar h
      simp [escaped, hclose, unescapeChar_escapeChar] at hread
  | cons c s ih =>
    cases t with
    | nil =>
      have hread := congrArg unescapeChar h
      simp [escaped, hclose, unescapeChar_escapeChar] at hread
    | cons d t =>
      have hread := congrArg unescapeChar h
      simp only [escaped, List.append_assoc, unescapeChar_escapeChar, Option.some.injEq,
        Prod.mk.injEq] at hread
      obtain ⟨hst, hr⟩ := ih hread.2
      exact ⟨by rw [hread.1, hst], hr⟩

theorem quoted_append_inj {s t : String} {r₁ r₂ : List Char}
    (h : quoted s ++ r₁ = quoted t ++ r₂) : s = t ∧ r₁ = r₂ := by
  obtain ⟨hst, hr⟩ := escaped_append_inj (List.cons.inj h).2
  exact ⟨String.toList_inj.mp hst, hr⟩

/-! ## U+0000 in the text of a string -/

/-- The escape `\u0000` occurs in a JSON text. A backslash takes the next character with it. -/
def hasNulEscape : List Char → Bool
  | '\\' :: 'u' :: '0' :: '0' :: '0' :: '0' :: _ => true
  | '\\' :: _ :: rest => hasNulEscape rest
  | _ :: rest => hasNulEscape rest
  | [] => false

theorem hasNulEscape_cons {c : Char} (hc : c ≠ '\\') (rest : List Char) :
    hasNulEscape (c :: rest) = hasNulEscape rest := by
  rw [hasNulEscape]
  · simp [hc]
  · simp [hc]

theorem hasNulEscape_append_of_forall {w : List Char} (hw : ∀ c ∈ w, c ≠ '\\')
    (rest : List Char) : hasNulEscape (w ++ rest) = hasNulEscape rest := by
  induction w with
  | nil => rfl
  | cons c w ih =>
    rw [List.cons_append, hasNulEscape_cons (hw c (List.mem_cons_self ..)),
      ih fun d hd => hw d (List.mem_cons_of_mem _ hd)]

theorem hasNulEscape_escapeChar (c : Char) (rest : List Char) :
    hasNulEscape (escapeChar c ++ rest) = (c == '\x00' || hasNulEscape rest) := by
  induction c using escape_cases with
  | hcontrol n hn => interval_cases n <;> rfl
  | hquote => rfl
  | hback => rfl
  | hplain c hescape hc _ hb =>
    have hne : (c == '\x00') = false := by
      rw [beq_eq_false_iff_ne]
      rintro rfl
      exact absurd hc (by decide)
    rw [hescape, hne, List.singleton_append, hasNulEscape_cons hb]
    rfl

theorem hasNulEscape_escaped (cs rest : List Char) :
    hasNulEscape (escaped cs ++ rest) = (cs.contains '\x00' || hasNulEscape rest) := by
  induction cs with
  | nil => exact hasNulEscape_cons (by decide) rest
  | cons c cs ih =>
    rw [escaped, List.append_assoc, hasNulEscape_escapeChar, ih, List.contains_cons,
      Bool.or_assoc, Bool.beq_comm]

theorem hasNulEscape_quoted (s : String) (rest : List Char) :
    hasNulEscape (quoted s ++ rest) = (hasNul s || hasNulEscape rest) := by
  rw [quoted, List.cons_append, hasNulEscape_cons (by decide), hasNulEscape_escaped]
  rfl

theorem nul_not_mem_escapeChar (c : Char) : '\x00' ∉ escapeChar c := by
  induction c using escape_cases with
  | hcontrol n hn => interval_cases n <;> decide
  | hquote => decide
  | hback => decide
  | hplain c hescape hc _ _ =>
    rw [hescape, List.mem_singleton]
    rintro rfl
    exact absurd hc (by decide)

theorem nul_not_mem_quoted (s : String) : '\x00' ∉ quoted s := by
  have hescaped : ∀ cs : List Char, '\x00' ∉ escaped cs := by
    intro cs
    induction cs with
    | nil => decide
    | cons c cs ih => simp [escaped, nul_not_mem_escapeChar, ih]
  simp [quoted, hescaped]

/-! ## Numbers -/

/-- How the JSON library prints a finite double. -/
class FloatFormat where
  format : F64 → List Char

/-- The characters of a JSON number. -/
def isJsonNumberChar (c : Char) : Bool :=
  c.isDigit || c == '-' || c == '+' || c == '.' || c == 'e' || c == 'E'

/-- A finite double is printed as a JSON number with a point or an exponent, and its text
identifies it. -/
class LawfulFloatFormat [FloatFormat] : Prop where
  chars : ∀ x : F64, x.isFinite = true → ∀ c ∈ FloatFormat.format x, isJsonNumberChar c = true
  marked : ∀ x : F64, x.isFinite = true → '.' ∈ FloatFormat.format x ∨ 'e' ∈ FloatFormat.format x
  inj : ∀ x y : F64, x.isFinite = true → y.isFinite = true →
    FloatFormat.format x = FloatFormat.format y → x = y

/-- What may follow a value inside a text. -/
def Delimited (r : List Char) : Prop :=
  ∀ c ∈ r.head?, c = ',' ∨ c = ']' ∨ c = '}'

theorem delimited_nil : Delimited [] := nofun

theorem Delimited.not_isJsonNumberChar {r : List Char} (hr : Delimited r) :
    ∀ c ∈ r.head?, isJsonNumberChar c = false := by
  intro c hc
  rcases hr c hc with rfl | rfl | rfl <;> decide

/-- A format with the laws: the bits in decimal, as a number with a point. -/
@[reducible] def FloatFormat.ofBits : FloatFormat where
  format x := (toString x.bits.toNat).toList ++ ['.', '0']

theorem FloatFormat.ofBits_lawful : @LawfulFloatFormat FloatFormat.ofBits :=
  @LawfulFloatFormat.mk FloatFormat.ofBits
    (fun x _ c hc => by
      rcases List.mem_append.mp hc with hc | hc
      · simp [isJsonNumberChar, isDigit_of_mem_toString hc]
      · rcases List.mem_pair.mp hc with rfl | rfl <;> decide)
    (fun x _ => .inl (List.mem_append_right _ (List.mem_cons_self ..)))
    (fun x y _ _ h => by
      have hbits := toString_nat_inj (List.append_cancel_right h)
      cases x
      cases y
      exact congrArg F64.mk (UInt64.toNat_inj.mp hbits))

section Text

variable [FloatFormat]

def Number.text : Number → List Char
  | .posInt n => (toString n.toNat).toList
  | .negInt i _ => (toString i.toInt).toList
  | .float x _ => FloatFormat.format x

/-! ## Values -/

namespace Value

mutual

/-- `serde_json::to_string`, as characters. -/
def text : Value → List Char
  | .null => ['n', 'u', 'l', 'l']
  | .bool true => ['t', 'r', 'u', 'e']
  | .bool false => ['f', 'a', 'l', 's', 'e']
  | .number n => n.text
  | .string s => quoted s
  | .array [] => ['[', ']']
  | .array (v :: rest) => '[' :: (v.text ++ itemsText rest)
  | .object [] => ['{', '}']
  | .object ((k, v) :: rest) => '{' :: (quoted k ++ ':' :: (v.text ++ entriesText rest))

/-- The remaining items of an array and its bracket. -/
def itemsText : List Value → List Char
  | [] => [']']
  | v :: rest => ',' :: (v.text ++ itemsText rest)

/-- The remaining entries of an object and its brace. -/
def entriesText : List (String × Value) → List Char
  | [] => ['}']
  | (k, v) :: rest => ',' :: (quoted k ++ ':' :: (v.text ++ entriesText rest))

end

/-- `serde_json::to_string`. -/
def toJsonString (v : Value) : String := String.ofList v.text

end Value

/-! ## The text of a number determines it -/

namespace Number

variable [LawfulFloatFormat]

theorem text_chars (n : Number) : ∀ c ∈ n.text, isJsonNumberChar c = true := by
  have hdigits : ∀ (k : Nat), ∀ c ∈ (toString k).toList, isJsonNumberChar c = true := by
    intro k c hc
    simp [isJsonNumberChar, isDigit_of_mem_toString hc]
  cases n with
  | posInt n => exact hdigits n.toNat
  | negInt i neg =>
    intro c hc
    rw [text, toString_of_neg neg, String.toList_append, List.mem_append] at hc
    rcases hc with hc | hc
    · rw [List.mem_singleton.mp hc]
      decide
    · exact hdigits _ c hc
  | float x finite => exact LawfulFloatFormat.chars x finite

/-- A text made of digits and minus signs is not the text of a double. -/
private theorem format_ne_of_digits {x : F64} (finite : x.isFinite = true) {w : List Char}
    (hw : ∀ c ∈ w, c.isDigit = true ∨ c = '-') : FloatFormat.format x ≠ w := by
  rintro rfl
  rcases LawfulFloatFormat.marked x finite with hdot | he
  · exact absurd (hw _ hdot) (by decide)
  · exact absurd (hw _ he) (by decide)

theorem text_ne_nil (n : Number) : n.text ≠ [] := by
  cases n with
  | posInt n => simp [text]
  | negInt i neg => simp [text, toString_of_neg neg]
  | float x finite =>
    rcases LawfulFloatFormat.marked x finite with hdot | he
    · exact List.ne_nil_of_mem hdot
    · exact List.ne_nil_of_mem he

theorem text_inj {m n : Number} (h : m.text = n.text) : m = n := by
  have hpos : ∀ k : Nat, ∀ c ∈ (toString k).toList, c.isDigit = true ∨ c = '-' :=
    fun k c hc => .inl (isDigit_of_mem_toString hc)
  have hneg : ∀ i : Int64, i.toInt < 0 →
      (toString i.toInt).toList = '-' :: (toString i.toInt.natAbs).toList := by
    intro i hi
    rw [toString_of_neg hi]
    simp
  have hnegChars : ∀ i : Int64, i.toInt < 0 →
      ∀ c ∈ (toString i.toInt).toList, c.isDigit = true ∨ c = '-' := by
    intro i hi c hc
    rw [hneg i hi, List.mem_cons] at hc
    exact hc.elim .inr (hpos _ c)
  -- a digit is no minus sign, so the two integer cases are apart
  have hapart : ∀ (k : Nat) (cs : List Char), (toString k).toList ≠ '-' :: cs := by
    intro k cs heq
    have hdash : ('-' : Char).isDigit = true :=
      isDigit_of_mem_toString (heq ▸ List.mem_cons_self ..)
    exact absurd hdash (by decide)
  cases m with
  | posInt a =>
    cases n with
    | posInt b => rw [UInt64.toNat_inj.mp (toString_nat_inj h)]
    | negInt j hj => exact absurd (h.trans (hneg j hj)) (hapart _ _)
    | float y hy => exact absurd h.symm (format_ne_of_digits hy (hpos _))
  | negInt i hi =>
    cases n with
    | posInt b => exact absurd (h.symm.trans (hneg i hi)) (hapart _ _)
    | negInt j hj =>
      have habs : (toString i.toInt.natAbs).toList = (toString j.toInt.natAbs).toList := by
        have h' := (hneg i hi).symm.trans (h.trans (hneg j hj))
        exact (List.cons.inj h').2
      have hnat : i.toInt.natAbs = j.toInt.natAbs := toString_nat_inj habs
      have hij : i = j := Int64.toInt_inj.mp (by omega)
      subst hij
      rfl
    | float y hy => exact absurd h.symm (format_ne_of_digits hy (hnegChars i hi))
  | float x hx =>
    cases n with
    | posInt b => exact absurd h (format_ne_of_digits hx (hpos _))
    | negInt j hj => exact absurd h (format_ne_of_digits hx (hnegChars j hj))
    | float y hy =>
      have hxy : x = y := LawfulFloatFormat.inj x y hx hy h
      subst hxy
      rfl

end Number

/-! ## The text of a value determines it -/

/-- The constructor that a first character announces; none for a delimiter. -/
private def shapeOfHead (c : Char) : Option Nat :=
  if c = 'n' then some 0
  else if c = 't' then some 1
  else if c = 'f' then some 2
  else if isJsonNumberChar c then some 3
  else if c = '"' then some 4
  else if c = '[' then some 5
  else if c = '{' then some 6
  else none

namespace Value

private def shape : Value → Nat
  | .null => 0
  | .bool true => 1
  | .bool false => 2
  | .number _ => 3
  | .string _ => 4
  | .array _ => 5
  | .object _ => 6

theorem itemsText_delimited (items : List Value) (r : List Char) :
    Delimited (itemsText items ++ r) := by
  cases items with
  | nil => simp [itemsText, Delimited]
  | cons v rest => simp [itemsText, Delimited]

theorem entriesText_delimited (entries : List (String × Value)) (r : List Char) :
    Delimited (entriesText entries ++ r) := by
  cases entries with
  | nil => simp [entriesText, Delimited]
  | cons e rest => simp [entriesText, Delimited]

variable [LawfulFloatFormat]

/-- The first character of a text announces the constructor of its value. -/
private theorem text_head (v : Value) (r : List Char) :
    (v.text ++ r).head?.bind shapeOfHead = some v.shape := by
  cases v with
  | null => rfl
  | bool b => cases b <;> rfl
  | number n =>
    obtain ⟨c, w, hw⟩ := List.exists_cons_of_ne_nil n.text_ne_nil
    have hc : isJsonNumberChar c = true := n.text_chars c (hw ▸ List.mem_cons_self ..)
    have hne : ∀ d, isJsonNumberChar d = false → c ≠ d := by
      rintro d hd rfl
      rw [hc] at hd
      contradiction
    simp [text, hw, shapeOfHead, shape, hc, hne 'n' (by decide), hne 't' (by decide),
      hne 'f' (by decide)]
  | string s => rfl
  | array items => cases items <;> rfl
  | object entries => cases entries <;> rfl

private theorem shape_eq {v w : Value} {r r' : List Char} (h : v.text ++ r = w.text ++ r') :
    v.shape = w.shape := by
  have hv := text_head v r
  rw [h, text_head w r'] at hv
  exact (Option.some.inj hv).symm

/-- No value starts with a delimiter. -/
private theorem text_ne_delimited {v : Value} {r r' : List Char} (hr : Delimited r) :
    v.text ++ r' ≠ r := by
  rintro rfl
  have hhead := text_head v r'
  cases hc : (v.text ++ r').head? with
  | none => simp [hc] at hhead
  | some c =>
    rw [hc, Option.bind_some] at hhead
    rcases hr c hc with rfl | rfl | rfl <;>
      exact absurd hhead (by simp [shapeOfHead, isJsonNumberChar])

mutual

/-- Two texts, each followed by a delimiter or nothing, are cut at the same place, and are
the texts of one value. -/
theorem text_append_inj : ∀ (v w : Value) {r r' : List Char}, Delimited r → Delimited r' →
    v.text ++ r = w.text ++ r' → v = w ∧ r = r'
  | .null, w, r, r', _, _, h => by
    have hshape := shape_eq h
    cases w with
    | null => exact ⟨rfl, by simpa [text] using h⟩
    | bool b => cases b <;> simp [shape] at hshape
    | _ => simp [shape] at hshape
  | .bool a, w, r, r', _, _, h => by
    have hshape := shape_eq h
    cases w with
    | bool b => cases a <;> cases b <;> simp_all [shape, text]
    | _ => cases a <;> simp [shape] at hshape
  | .number m, w, r, r', hr, hr', h => by
    have hshape := shape_eq h
    cases w with
    | number n =>
      obtain ⟨htext, hrest⟩ := word_append_inj m.text_chars n.text_chars
        hr.not_isJsonNumberChar hr'.not_isJsonNumberChar h
      exact ⟨by rw [Number.text_inj htext], hrest⟩
    | bool b => cases b <;> simp [shape] at hshape
    | _ => simp [shape] at hshape
  | .string s, w, r, r', _, _, h => by
    have hshape := shape_eq h
    cases w with
    | string t =>
      obtain ⟨hst, hrest⟩ := quoted_append_inj h
      exact ⟨by rw [hst], hrest⟩
    | bool b => cases b <;> simp [shape] at hshape
    | _ => simp [shape] at hshape
  | .array items, w, r, r', hr, hr', h => by
    have hshape := shape_eq h
    cases w with
    | array items' =>
      cases items with
      | nil =>
        cases items' with
        | nil => exact ⟨rfl, by simpa [text] using h⟩
        | cons w rest' =>
          -- the closing bracket of the first would be the start of a value of the second
          have htail : ']' :: r = w.text ++ (itemsText rest' ++ r') := by simpa [text] using h
          exact absurd htail.symm (text_ne_delimited (itemsText_delimited [] r))
      | cons v rest =>
        cases items' with
        | nil =>
          have htail : v.text ++ (itemsText rest ++ r) = ']' :: r' := by simpa [text] using h
          exact absurd htail (text_ne_delimited (itemsText_delimited [] r'))
        | cons w rest' =>
          obtain ⟨hitems, hrest⟩ := itemsText_append_inj (v :: rest) (w :: rest') hr hr'
            (by simpa [text, itemsText] using h)
          exact ⟨by rw [hitems], hrest⟩
    | bool b => cases b <;> simp [shape] at hshape
    | _ => simp [shape] at hshape
  | .object entries, w, r, r', hr, hr', h => by
    have hshape := shape_eq h
    cases w with
    | object entries' =>
      cases entries with
      | nil =>
        cases entries' with
        | nil => exact ⟨rfl, by simpa [text] using h⟩
        | cons e rest' => simp [text, quoted] at h
      | cons e rest =>
        cases entries' with
        | nil => simp [text, quoted] at h
        | cons e' rest' =>
          obtain ⟨hentries, hrest⟩ := entriesText_append_inj (e :: rest) (e' :: rest') hr hr'
            (by simpa [text, entriesText] using h)
          exact ⟨by rw [hentries], hrest⟩
    | bool b => cases b <;> simp [shape] at hshape
    | _ => simp [shape] at hshape

theorem itemsText_append_inj : ∀ (items items' : List Value) {r r' : List Char},
    Delimited r → Delimited r' → itemsText items ++ r = itemsText items' ++ r' →
    items = items' ∧ r = r'
  | [], [], r, r', _, _, h => ⟨rfl, by simpa [itemsText] using h⟩
  | [], _ :: _, r, r', _, _, h => by simp [itemsText] at h
  | _ :: _, [], r, r', _, _, h => by simp [itemsText] at h
  | v :: rest, w :: rest', r, r', hr, hr', h => by
    have htail : v.text ++ (itemsText rest ++ r) = w.text ++ (itemsText rest' ++ r') := by
      simpa [itemsText] using h
    obtain ⟨hv, hrest⟩ := text_append_inj v w (itemsText_delimited rest r)
      (itemsText_delimited rest' r') htail
    obtain ⟨hrest, hr⟩ := itemsText_append_inj rest rest' hr hr' hrest
    exact ⟨by rw [hv, hrest], hr⟩

theorem entriesText_append_inj : ∀ (entries entries' : List (String × Value))
    {r r' : List Char}, Delimited r → Delimited r' →
    entriesText entries ++ r = entriesText entries' ++ r' → entries = entries' ∧ r = r'
  | [], [], r, r', _, _, h => ⟨rfl, by simpa [entriesText] using h⟩
  | [], _ :: _, r, r', _, _, h => by simp [entriesText] at h
  | _ :: _, [], r, r', _, _, h => by simp [entriesText] at h
  | (k, v) :: rest, (k', w) :: rest', r, r', hr, hr', h => by
    have htail : quoted k ++ (':' :: (v.text ++ (entriesText rest ++ r)))
        = quoted k' ++ (':' :: (w.text ++ (entriesText rest' ++ r'))) := by
      simpa [entriesText] using h
    obtain ⟨hk, hvalue⟩ := quoted_append_inj htail
    obtain ⟨hv, hrest⟩ := text_append_inj v w (entriesText_delimited rest r)
      (entriesText_delimited rest' r') (List.cons.inj hvalue).2
    obtain ⟨hrest, hr⟩ := entriesText_append_inj rest rest' hr hr' hrest
    exact ⟨by rw [hk, hv, hrest], hr⟩

end

theorem text_inj {v w : Value} (h : v.text = w.text) : v = w :=
  (text_append_inj v w delimited_nil delimited_nil (by rw [h])).1

theorem toJsonString_ne_empty (v : Value) : v.toJsonString ≠ "" := by
  intro h
  have hnil : v.text ++ [] = [] := by
    simpa [toJsonString] using congrArg String.toList h
  exact text_ne_delimited delimited_nil hnil

theorem toJsonString_injective : Function.Injective toJsonString := fun _ _ h =>
  text_inj (by simpa [toJsonString] using congrArg String.toList h)

/-! ## U+0000 in the text of a value -/

mutual

/-- The text has the escape of U+0000 exactly when a string or a key of the value holds
U+0000. -/
theorem hasNulEscape_text : ∀ (v : Value) (r : List Char),
    hasNulEscape (v.text ++ r) = (v.hasNul || hasNulEscape r)
  | .null, r => hasNulEscape_append_of_forall (w := ['n', 'u', 'l', 'l']) (by simp) r
  | .bool true, r => hasNulEscape_append_of_forall (w := ['t', 'r', 'u', 'e']) (by simp) r
  | .bool false, r => hasNulEscape_append_of_forall (w := ['f', 'a', 'l', 's', 'e']) (by simp) r
  | .number n, r => by
    have hplain : ∀ c ∈ n.text, c ≠ '\\' := by
      rintro c hc rfl
      exact absurd (n.text_chars _ hc) (by decide)
    exact hasNulEscape_append_of_forall hplain r
  | .string s, r => hasNulEscape_quoted s r
  | .array [], r => hasNulEscape_append_of_forall (w := ['[', ']']) (by simp) r
  | .array (v :: rest), r => by
    rw [text, List.cons_append, hasNulEscape_cons (by decide), List.append_assoc,
      hasNulEscape_text v, hasNulEscape_itemsText rest, hasNul, hasNulItems, Bool.or_assoc]
  | .object [], r => hasNulEscape_append_of_forall (w := ['{', '}']) (by simp) r
  | .object ((k, v) :: rest), r => by
    rw [text, List.cons_append, hasNulEscape_cons (by decide), List.append_assoc,
      hasNulEscape_quoted, List.cons_append, hasNulEscape_cons (by decide), List.append_assoc,
      hasNulEscape_text v, hasNulEscape_entriesText rest, hasNul, hasNulEntries, Bool.or_assoc,
      Bool.or_assoc]

theorem hasNulEscape_itemsText : ∀ (items : List Value) (r : List Char),
    hasNulEscape (itemsText items ++ r) = (hasNulItems items || hasNulEscape r)
  | [], r => hasNulEscape_cons (by decide) r
  | v :: rest, r => by
    rw [itemsText, List.cons_append, hasNulEscape_cons (by decide), List.append_assoc,
      hasNulEscape_text v, hasNulEscape_itemsText rest, hasNulItems, Bool.or_assoc]

theorem hasNulEscape_entriesText : ∀ (entries : List (String × Value)) (r : List Char),
    hasNulEscape (entriesText entries ++ r) = (hasNulEntries entries || hasNulEscape r)
  | [], r => hasNulEscape_cons (by decide) r
  | (k, v) :: rest, r => by
    rw [entriesText, List.cons_append, hasNulEscape_cons (by decide), List.append_assoc,
      hasNulEscape_quoted, List.cons_append, hasNulEscape_cons (by decide), List.append_assoc,
      hasNulEscape_text v, hasNulEscape_entriesText rest, hasNulEntries, Bool.or_assoc,
      Bool.or_assoc]

end

mutual

/-- The text itself holds no U+0000: the serializer escapes it. -/
theorem nul_not_mem_text : ∀ v : Value, '\x00' ∉ v.text
  | .null => by simp [text]
  | .bool true => by simp [text]
  | .bool false => by simp [text]
  | .number n => fun h => absurd (n.text_chars _ h) (by decide)
  | .string s => nul_not_mem_quoted s
  | .array [] => by simp [text]
  | .array (v :: rest) => by
    simp [text, nul_not_mem_text v, nul_not_mem_itemsText rest]
  | .object [] => by simp [text]
  | .object ((k, v) :: rest) => by
    simp [text, nul_not_mem_quoted, nul_not_mem_text v, nul_not_mem_entriesText rest]

theorem nul_not_mem_itemsText : ∀ items : List Value, '\x00' ∉ itemsText items
  | [] => by simp [itemsText]
  | v :: rest => by simp [itemsText, nul_not_mem_text v, nul_not_mem_itemsText rest]

theorem nul_not_mem_entriesText : ∀ entries : List (String × Value), '\x00' ∉ entriesText entries
  | [] => by simp [entriesText]
  | (k, v) :: rest => by
    simp [entriesText, nul_not_mem_quoted, nul_not_mem_text v, nul_not_mem_entriesText rest]

end

theorem hasNul_toJsonString (v : Value) : Basics.hasNul v.toJsonString = false := by
  simp [Basics.hasNul, toJsonString, nul_not_mem_text v]

end Value

end Text

end Datacat.Basics
