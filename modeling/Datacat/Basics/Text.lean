import Mathlib

/-!
# Text: Bytes, Decimals, Hexadecimal and Base64

The string operations of the host language that the program relies on, with the facts its
proofs use:

- the UTF-8 bytes of a string determine it, and hold a zero byte exactly where the string
  holds U+0000;
- the decimal text of a 64-bit integer parses back to it, a negative one does not parse;
- the hexadecimal and the Base64 text of the same bytes differ unless there are none.
-/

namespace Datacat.Basics

/-! ## Lists cut by a separator -/

/-- A separator that occurs in neither left part cuts two equal lists at the same place. -/
theorem append_sep_inj {α : Type*} {a : α} {x₁ x₂ z₁ z₂ : List α}
    (h₁ : a ∉ x₁) (h₂ : a ∉ x₂) (h : x₁ ++ a :: z₁ = x₂ ++ a :: z₂) :
    x₁ = x₂ ∧ z₁ = z₂ := by
  induction x₁ generalizing x₂ with
  | nil =>
    cases x₂ with
    | nil => exact ⟨rfl, (List.cons.inj h).2⟩
    | cons b x₂ =>
      have hab : a = b := (List.cons.inj h).1
      exact absurd (hab ▸ List.mem_cons_self ..) h₂
  | cons b x₁ ih =>
    cases x₂ with
    | nil =>
      have hba : b = a := (List.cons.inj h).1
      exact absurd (hba ▸ List.mem_cons_self ..) h₁
    | cons c x₂ =>
      obtain ⟨hbc, htail⟩ := List.cons.inj h
      obtain ⟨hx, hz⟩ := ih (fun hm => h₁ (List.mem_cons_of_mem _ hm))
        (fun hm => h₂ (List.mem_cons_of_mem _ hm)) htail
      exact ⟨by rw [hbc, hx], hz⟩

/-- A separator that occurs in neither right part cuts two equal lists at the same place. -/
theorem append_last_sep_inj {α : Type*} {a : α} {x₁ x₂ z₁ z₂ : List α}
    (h₁ : a ∉ z₁) (h₂ : a ∉ z₂) (h : x₁ ++ a :: z₁ = x₂ ++ a :: z₂) :
    x₁ = x₂ ∧ z₁ = z₂ := by
  have hreverse : z₁.reverse ++ a :: x₁.reverse = z₂.reverse ++ a :: x₂.reverse := by
    simpa using congrArg List.reverse h
  obtain ⟨hz, hx⟩ := append_sep_inj (List.mem_reverse.not.mpr h₁) (List.mem_reverse.not.mpr h₂)
    hreverse
  exact ⟨List.reverse_inj.mp hx, List.reverse_inj.mp hz⟩

/-- Two words over a class of characters, each followed by something outside the class, are
cut at the same place. -/
theorem word_append_inj {p : Char → Bool} {w₁ w₂ r₁ r₂ : List Char}
    (h₁ : ∀ c ∈ w₁, p c = true) (h₂ : ∀ c ∈ w₂, p c = true)
    (hr₁ : ∀ c ∈ r₁.head?, p c = false) (hr₂ : ∀ c ∈ r₂.head?, p c = false)
    (h : w₁ ++ r₁ = w₂ ++ r₂) : w₁ = w₂ ∧ r₁ = r₂ := by
  have htake : ∀ w r : List Char, (∀ c ∈ w, p c = true) → (∀ c ∈ r.head?, p c = false) →
      (w ++ r).takeWhile p = w ∧ (w ++ r).dropWhile p = r := by
    intro w r hw hr
    have hhead : r.takeWhile p = [] ∧ r.dropWhile p = r := by
      cases r with
      | nil => exact ⟨rfl, rfl⟩
      | cons c r => simp [hr c rfl]
    rw [List.takeWhile_append_of_pos hw, List.dropWhile_append_of_pos hw, hhead.1, hhead.2]
    exact ⟨List.append_nil w, rfl⟩
  obtain ⟨ht₁, hd₁⟩ := htake w₁ r₁ h₁ hr₁
  obtain ⟨ht₂, hd₂⟩ := htake w₂ r₂ h₂ hr₂
  exact ⟨by rw [← ht₁, ← ht₂, h], by rw [← hd₁, ← hd₂, h]⟩

/-! ## UTF-8 bytes -/

/-- `str::as_bytes`: the UTF-8 encoding of the string. -/
def asBytes (s : String) : List UInt8 :=
  s.toList.flatMap String.utf8EncodeChar

@[simp] theorem asBytes_empty : asBytes "" = [] := rfl

theorem asBytes_append (s t : String) : asBytes (s ++ t) = asBytes s ++ asBytes t := by
  simp [asBytes]

/-- The bytes of a string determine it. -/
theorem asBytes_injective : Function.Injective asBytes := by
  intro s t h
  have hbytes : ∀ u : String, u.toByteArray = (asBytes u).toByteArray := by
    intro u
    rw [← String.utf8Encode_toList, List.utf8Encode, asBytes]
  apply String.toByteArray_inj.mp
  rw [hbytes s, hbytes t, h]

private theorem zero_eq_ofNat (n : Nat) : (0 : UInt8) = UInt8.ofNat n ↔ n % 256 = 0 := by
  rw [← UInt8.toNat_inj]
  simp [eq_comm]

/-- U+0000 is the only character whose encoding has a zero byte. -/
theorem zero_mem_utf8EncodeChar (c : Char) :
    (0 : UInt8) ∈ String.utf8EncodeChar c ↔ c = '\x00' := by
  constructor
  · intro h
    have hlt : c.val.toNat < 0x110000 := by
      have hvalid := c.valid
      simp only [UInt32.isValidChar, Nat.isValidChar] at hvalid
      omega
    have hzero : c.val.toNat = 0 := by
      rw [String.utf8EncodeChar] at h
      split_ifs at h
      all_goals simp only [List.mem_cons, List.not_mem_nil, or_false, zero_eq_ofNat] at h
      all_goals omega
    exact Char.ext (UInt32.toNat_inj.mp hzero)
  · rintro rfl
    decide

/-- The text holds U+0000. -/
def hasNul (s : String) : Bool :=
  s.toList.contains '\x00'

theorem zero_mem_asBytes (s : String) : (0 : UInt8) ∈ asBytes s ↔ hasNul s = true := by
  simp [asBytes, hasNul, List.mem_flatMap, zero_mem_utf8EncodeChar]

theorem zero_notMem_asBytes {s : String} (h : hasNul s = false) : (0 : UInt8) ∉ asBytes s := by
  rw [zero_mem_asBytes, h]
  exact Bool.false_ne_true

/-- A text without U+0000 that a zero byte closes is read off the front. -/
theorem asBytes_append_inj {s t : String} {r₁ r₂ : List UInt8} (hs : hasNul s = false)
    (ht : hasNul t = false) (h : asBytes s ++ 0 :: r₁ = asBytes t ++ 0 :: r₂) :
    s = t ∧ r₁ = r₂ := by
  obtain ⟨hbytes, hrest⟩ := append_sep_inj (zero_notMem_asBytes hs) (zero_notMem_asBytes ht) h
  exact ⟨asBytes_injective hbytes, hrest⟩

/-! ## Optional and concatenated texts -/

theorem eq_of_getD_eq {s t : Option String} (hs : s ≠ some "") (ht : t ≠ some "")
    (h : s.getD "" = t.getD "") : s = t := by
  cases s with
  | none =>
    cases t with
    | none => rfl
    | some t => exact absurd (congrArg some h.symm) ht
  | some s =>
    cases t with
    | none => exact absurd (congrArg some h) hs
    | some t => exact congrArg some h

/-- Two texts of one length, followed by two others, are cut at the same place. -/
theorem string_append_inj {s₁ s₂ t₁ t₂ : String} (hlength : s₁.length = s₂.length)
    (h : s₁ ++ t₁ = s₂ ++ t₂) : s₁ = s₂ ∧ t₁ = t₂ := by
  have hchars : s₁.toList ++ t₁.toList = s₂.toList ++ t₂.toList := by
    simpa using congrArg String.toList h
  obtain ⟨hs, ht⟩ := List.append_inj hchars (by
    rw [String.length_toList, String.length_toList, hlength])
  exact ⟨String.toList_inj.mp hs, String.toList_inj.mp ht⟩

/-! ## Little-endian bytes -/

/-- `to_le_bytes` of an unsigned value of `width` bytes. -/
def leBytes : Nat → Nat → List UInt8
  | 0, _ => []
  | width + 1, n => UInt8.ofNat (n % 256) :: leBytes width (n / 256)

@[simp] theorem leBytes_length (width n : Nat) : (leBytes width n).length = width := by
  induction width generalizing n with
  | zero => rfl
  | succ width ih => simp [leBytes, ih]

/-- The little-endian bytes of a value that fits determine it. -/
theorem leBytes_inj {width m n : Nat} (hm : m < 256 ^ width) (hn : n < 256 ^ width)
    (h : leBytes width m = leBytes width n) : m = n := by
  induction width generalizing m n with
  | zero => simp at hm hn; omega
  | succ width ih =>
    simp only [leBytes, List.cons.injEq] at h
    obtain ⟨hlow, hhigh⟩ := h
    have hmod : m % 256 = n % 256 := by
      have := congrArg UInt8.toNat hlow
      simpa using this
    have hdiv : m / 256 = n / 256 := by
      apply ih _ _ hhigh
      · rw [Nat.pow_succ] at hm; omega
      · rw [Nat.pow_succ] at hn; omega
    omega

/-- A value of known width is read off the front. -/
theorem leBytes_append_inj {width m n : Nat} {r₁ r₂ : List UInt8} (hm : m < 256 ^ width)
    (hn : n < 256 ^ width) (h : leBytes width m ++ r₁ = leBytes width n ++ r₂) :
    m = n ∧ r₁ = r₂ := by
  obtain ⟨hbytes, hrest⟩ := List.append_inj h (by simp)
  exact ⟨leBytes_inj hm hn hbytes, hrest⟩

/-! ## Trimming and decimal numbers -/

/-- `char::is_whitespace`: the Unicode `White_Space` property. -/
def isWhitespace (c : Char) : Bool :=
  let n := c.toNat
  (0x09 ≤ n && n ≤ 0x0D) || n == 0x20 || n == 0x85 || n == 0xA0 || n == 0x1680 ||
    (0x2000 ≤ n && n ≤ 0x200A) || n == 0x2028 || n == 0x2029 || n == 0x202F || n == 0x205F ||
    n == 0x3000

/-- `str::trim`, on the characters of the string. -/
def trim (cs : List Char) : List Char :=
  ((cs.dropWhile isWhitespace).reverse.dropWhile isWhitespace).reverse

/-- A text whose characters are no white space is left as it is. -/
theorem trim_eq_self {cs : List Char} (h : ∀ c ∈ cs, isWhitespace c = false) : trim cs = cs := by
  have hdrop : ∀ l : List Char, (∀ c ∈ l, isWhitespace c = false) →
      l.dropWhile isWhitespace = l := by
    intro l hl
    cases l with
    | nil => rfl
    | cons c l => simp [hl c (List.mem_cons_self ..)]
  unfold trim
  rw [hdrop cs h, hdrop cs.reverse (fun c hc => h c (List.mem_reverse.mp hc)), List.reverse_reverse]

/-- What is trimmed to nothing is white space. -/
theorem isWhitespace_of_trim {cs : List Char} (h : trim cs = []) :
    ∀ c ∈ cs, isWhitespace c = true := by
  have hback := List.dropWhile_eq_nil_iff.mp (List.reverse_eq_nil_iff.mp h)
  have hdropped : cs.dropWhile isWhitespace = [] := by
    by_contra hne
    have hhead := List.head_dropWhile_not isWhitespace hne
    rw [hback _ (List.mem_reverse.mpr (List.head_mem hne))] at hhead
    cases hhead
  exact List.dropWhile_eq_nil_iff.mp hdropped

/-- Digits of `str::parse::<u64>`: at least one, decimal, and no overflow. -/
def parseDigits (cs : List Char) : Option UInt64 :=
  if cs ≠ [] ∧ cs.all Char.isDigit then
    let n := Nat.ofDigitChars 10 cs 0
    if n < 2 ^ 64 then some (UInt64.ofNat n) else none
  else none

/-- `str::parse::<u64>`: an optional `+`, then digits. -/
def parseU64 : List Char → Option UInt64
  | '+' :: cs => parseDigits cs
  | cs => parseDigits cs

theorem isWhitespace_of_isDigit {c : Char} (h : c.isDigit = true) : isWhitespace c = false := by
  have hrange : 48 ≤ c.toNat ∧ c.toNat ≤ 57 := by
    simp only [Char.isDigit, Bool.and_eq_true, decide_eq_true_eq] at h
    exact ⟨h.1, h.2⟩
  simp only [isWhitespace, Bool.or_eq_false_iff, Bool.and_eq_false_iff, decide_eq_false_iff_not,
    beq_eq_false_iff_ne]
  omega

theorem isDigit_of_mem_toString {n : Nat} {c : Char} (hc : c ∈ (toString n).toList) :
    c.isDigit = true := by
  have hrepr : (toString n).toList = Nat.toDigits 10 n := Nat.toList_repr
  rw [hrepr] at hc
  exact Nat.isDigit_of_mem_toDigits (by decide) (by decide) hc

/-- The decimal text of a natural number determines it. -/
theorem toString_nat_inj {m n : Nat} (h : (toString m).toList = (toString n).toList) : m = n := by
  have hrepr : ∀ k : Nat, (toString k).toList = Nat.toDigits 10 k := fun _ => Nat.toList_repr
  rw [hrepr, hrepr] at h
  calc
    m = Nat.ofDigitChars 10 (Nat.toDigits 10 m) 0 := Nat.ofDigitChars_ten_toDigits.symm
    _ = Nat.ofDigitChars 10 (Nat.toDigits 10 n) 0 := by rw [h]
    _ = n := Nat.ofDigitChars_ten_toDigits

/-- The decimal text of a `u64` parses back to it. -/
theorem parseU64_toString (n : UInt64) : parseU64 (toString n.toNat).toList = some n := by
  have hdigits : parseDigits (toString n.toNat).toList = some n := by
    have hrepr : (toString n.toNat).toList = Nat.toDigits 10 n.toNat := Nat.toList_repr
    have hall : (toString n.toNat).toList.all Char.isDigit = true := by
      rw [List.all_eq_true]
      exact fun c hc => isDigit_of_mem_toString hc
    have hne : (toString n.toNat).toList ≠ [] := by
      rw [hrepr]
      exact Nat.toDigits_ne_nil
    simp only [parseDigits, hne, hall, ne_eq, not_false_eq_true, and_self, if_true]
    rw [hrepr, Nat.ofDigitChars_ten_toDigits, if_pos n.toNat_lt, UInt64.ofNat_toNat]
  have hhead : ∀ cs, (toString n.toNat).toList ≠ '+' :: cs := by
    intro cs heq
    have hplus : ('+' : Char).isDigit = true :=
      isDigit_of_mem_toString (heq ▸ List.mem_cons_self ..)
    exact absurd hplus (by decide)
  unfold parseU64
  split
  · rename_i cs heq
    exact absurd heq (hhead cs)
  · exact hdigits

theorem trim_toString (n : Nat) : trim (toString n).toList = (toString n).toList :=
  trim_eq_self fun _ hc => isWhitespace_of_isDigit (isDigit_of_mem_toString hc)

/-- The text of a negative integer is a minus sign and the digits of its absolute value. -/
theorem toString_of_neg {i : Int} (h : i < 0) : toString i = "-" ++ toString i.natAbs := by
  cases i with
  | ofNat n => exact absurd h (by simp)
  | negSucc n => rfl

theorem toString_of_nonneg {i : Int} (h : 0 ≤ i) : toString i = toString i.toNat := by
  cases i with
  | ofNat n => rfl
  | negSucc n => exact absurd h (by simp)

/-- The text of a negative integer, trimmed, is no `u64`. -/
theorem parseU64_toString_of_neg {i : Int} (h : i < 0) :
    parseU64 (trim (toString i).toList) = none := by
  have htext : (toString i).toList = '-' :: (toString i.natAbs).toList := by
    rw [toString_of_neg h]
    simp
  have htrim : trim (toString i).toList = (toString i).toList := by
    apply trim_eq_self
    intro c hc
    rw [htext, List.mem_cons] at hc
    rcases hc with rfl | hc
    · decide
    · exact isWhitespace_of_isDigit (isDigit_of_mem_toString hc)
  have hminus : ('-' : Char).isDigit = false := by decide
  rw [htrim, htext]
  simp [parseU64, parseDigits, hminus]

/-! ## Hexadecimal and Base64 -/

/-- One digit of `{:x}`. -/
def hexDigit (n : Nat) : Char :=
  if n < 10 then Char.ofNat (48 + n) else Char.ofNat (87 + n)

/-- Two lower-case hexadecimal digits a byte, as `{:02x}` writes them. -/
def hexChars (bytes : List UInt8) : List Char :=
  bytes.flatMap fun b => [hexDigit (b.toNat / 16), hexDigit (b.toNat % 16)]

/-- One digit of the standard Base64 alphabet. -/
def base64Digit (n : Nat) : Char :=
  if n < 26 then Char.ofNat (65 + n)
  else if n < 52 then Char.ofNat (71 + n)
  else if n < 62 then Char.ofNat (n - 4)
  else if n = 62 then '+' else '/'

/-- Base64 with padding, three bytes in four digits. -/
def base64Chars : List UInt8 → List Char
  | [] => []
  | [a] =>
    [base64Digit (a.toNat / 4), base64Digit (a.toNat % 4 * 16), '=', '=']
  | [a, b] =>
    [base64Digit (a.toNat / 4), base64Digit (a.toNat % 4 * 16 + b.toNat / 16),
      base64Digit (b.toNat % 16 * 4), '=']
  | a :: b :: c :: rest =>
    base64Digit (a.toNat / 4) :: base64Digit (a.toNat % 4 * 16 + b.toNat / 16) ::
      base64Digit (b.toNat % 16 * 4 + c.toNat / 64) :: base64Digit (c.toNat % 64) ::
      base64Chars rest

@[simp] theorem hexChars_length (bytes : List UInt8) :
    (hexChars bytes).length = 2 * bytes.length := by
  induction bytes with
  | nil => rfl
  | cons b bytes ih =>
    simp only [hexChars, List.flatMap_cons, List.length_append, List.length_cons,
      List.length_nil] at ih ⊢
    omega

theorem hexDigit_ne_eqSign : ∀ n, n < 16 → hexDigit n ≠ '=' := by decide

theorem eqSign_not_mem_hexChars (bytes : List UInt8) : '=' ∉ hexChars bytes := by
  intro h
  simp only [hexChars, List.mem_flatMap, List.mem_cons, List.not_mem_nil, or_false] at h
  obtain ⟨b, -, hb⟩ := h
  have hlt := b.toNat_lt
  rcases hb with hb | hb
  · exact hexDigit_ne_eqSign _ (by omega) hb.symm
  · exact hexDigit_ne_eqSign _ (by omega) hb.symm

/-- Base64 text is padded, or four digits for every three bytes. -/
theorem base64Chars_padded_or (bytes : List UInt8) :
    '=' ∈ base64Chars bytes ∨ 3 * (base64Chars bytes).length = 4 * bytes.length := by
  induction bytes using base64Chars.induct with
  | case1 => right; rfl
  | case2 a => left; simp [base64Chars]
  | case3 a b => left; simp [base64Chars]
  | case4 a b c rest ih =>
    rcases ih with ih | ih
    · left; simp [base64Chars, ih]
    · right; simp only [base64Chars, List.length_cons]; omega

/-- The two texts of the same bytes agree only when there are no bytes. -/
theorem base64Chars_eq_hexChars_iff (bytes : List UInt8) :
    base64Chars bytes = hexChars bytes ↔ bytes = [] := by
  constructor
  · intro h
    rcases base64Chars_padded_or bytes with hpad | hlen
    · exact absurd (h ▸ hpad) (eqSign_not_mem_hexChars bytes)
    · rw [h, hexChars_length] at hlen
      exact List.length_eq_zero_iff.mp (by omega)
  · rintro rfl
    rfl

end Datacat.Basics
