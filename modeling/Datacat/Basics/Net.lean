import Mathlib

/-!
# Network Addresses

Addresses of peers, ordered as the code's, their text and its reader, which follows the grammar of
the standard library.
-/

namespace Datacat.Basics

/-- `IpAddr`. -/
inductive IpAddr where
  | v4 (bits : BitVec 32)
  | v6 (bits : BitVec 128)

namespace IpAddr

/-- The place of an address in the order: the short ones first. -/
def rank : IpAddr → Nat
  | v4 bits => bits.toNat
  | v6 bits => 2 ^ 32 + bits.toNat

theorem rank_injective : Function.Injective rank := by
  intro a b h
  cases a with
  | v4 x =>
    cases b with
    | v4 y => exact congrArg v4 (BitVec.eq_of_toNat_eq h)
    | v6 y =>
      have hx := x.isLt
      simp only [rank] at h
      omega
  | v6 x =>
    cases b with
    | v4 y =>
      have hy := y.isLt
      simp only [rank] at h
      omega
    | v6 y => exact congrArg v6 (BitVec.eq_of_toNat_eq (Nat.add_left_cancel h))

instance : LinearOrder IpAddr := LinearOrder.lift' rank rank_injective

/-- `is_unspecified`: `0.0.0.0` or `::`. -/
def isUnspecified : IpAddr → Bool
  | v4 bits => bits == 0
  | v6 bits => bits == 0

/-- The dotted text of four bytes. -/
def dotted (bits : BitVec 32) : String :=
  ".".intercalate ([24, 16, 8, 0].map fun shift => toString ((bits >>> shift).toNat % 256))

/-- The eight groups of a long address. -/
def segments (bits : BitVec 128) : List Nat :=
  [112, 96, 80, 64, 48, 32, 16, 0].map fun shift => (bits >>> shift).toNat % 65536

/-- Lower-case hexadecimal, without leading zeros, joined with colons. -/
def groups (segments : List Nat) : String :=
  ":".intercalate (segments.map fun n => String.ofList (Nat.toDigits 16 n))

/-- Start and length of the first longest run of zeros. -/
def longestZeros (segments : List Nat) : Nat × Nat :=
  let step := fun (state : Nat × (Nat × Nat) × (Nat × Nat)) segment =>
    let (i, current, longest) := state
    if segment = 0 then
      let current := (if current.2 = 0 then i else current.1, current.2 + 1)
      (i + 1, current, if longest.2 < current.2 then current else longest)
    else (i + 1, (0, 0), longest)
  (segments.foldl step (0, (0, 0), (0, 0))).2.2

/-- `to_string`. -/
def toText : IpAddr → String
  | v4 bits => dotted bits
  | v6 bits =>
    -- An address that stands for a short one ends with its dotted text.
    if bits >>> 32 = 0xffff then "::ffff:" ++ dotted (bits.truncate 32)
    else
      let all := segments bits
      let (start, length) := longestZeros all
      if 1 < length then groups (all.take start) ++ "::" ++ groups (all.drop (start + length))
      else groups all

/-! ## Reading addresses -/

/-- `to_digit`. -/
def digit (radix : Nat) (c : Char) : Option Nat :=
  let value :=
    if '0' ≤ c ∧ c ≤ '9' then some (c.toNat - 48)
    else if 'a' ≤ c ∧ c ≤ 'z' then some (c.toNat - 87)
    else if 'A' ≤ c ∧ c ≤ 'Z' then some (c.toNat - 55)
    else none
  value.filter (· < radix)

/-- A number of at most `maxDigits` digits, below `limit`. -/
def readNumber (radix maxDigits limit : Nat) (allowZeroPrefix : Bool) (s : List Char) :
    Option (Nat × List Char) :=
  let digits := s.takeWhile fun c => (digit radix c).isSome
  let n := digits.foldl (fun n c => n * radix + (digit radix c).getD 0) 0
  if digits.length = 0 ∨ maxDigits < digits.length then none
  else if !allowZeroPrefix && digits.head? == some '0' && decide (1 < digits.length) then none
  else if n < limit then some (n, s.drop digits.length)
  else none

/-- What follows a separator, which the first of several groups does not need. -/
def readSeparator (separator : Char) (first : Bool) (s : List Char) : Option (List Char) :=
  if first then some s
  else
    match s with
    | c :: rest => if c = separator then some rest else none
    | [] => none

/-- `count` bytes in decimal, separated by points. -/
def readBytes : Nat → Bool → List Char → Option (List Nat × List Char)
  | 0, _, s => some ([], s)
  | count + 1, first, s => do
    let s ← readSeparator '.' first s
    let (byte, s) ← readNumber 10 3 256 false s
    let (bytes, s) ← readBytes count false s
    return (byte :: bytes, s)

/-- `read_ipv4_addr`. -/
def readIpv4 (s : List Char) : Option (List Nat × List Char) := readBytes 4 true s

/-- `read_groups`: up to `limit` groups of a long address, and whether the last two of them are
a dotted short one. -/
def readGroups : Nat → Bool → List Char → List Nat × Bool × List Char
  | 0, _, s => ([], false, s)
  | limit + 1, first, s =>
    -- A short address takes the place of two groups.
    let short := if 0 < limit then (readSeparator ':' first s).bind readIpv4 else none
    match short with
    | some ([one, two, three, four], s) => ([one * 256 + two, three * 256 + four], true, s)
    | _ =>
      match (readSeparator ':' first s).bind (readNumber 16 4 65536 true) with
      | some (group, s) =>
        let (groups, hasShort, s) := readGroups limit false s
        (group :: groups, hasShort, s)
      | none => ([], false, s)

/-- `read_ipv6_addr`. -/
def readIpv6 (s : List Char) : Option (List Nat × List Char) :=
  let (start, hasShort, s) := readGroups 8 true s
  if start.length = 8 then some (start, s)
  else if hasShort then none
  else
    match s with
    | ':' :: ':' :: s =>
      -- The two colons stand for one group of zeros at least.
      let (tail, _, s) := readGroups (7 - start.length) true s
      some (start ++ List.replicate (8 - start.length - tail.length) 0 ++ tail, s)
    | _ => none

/-- The number with these digits. -/
def ofDigits (radix : Nat) (digits : List Nat) : Nat := digits.foldl (fun n d => n * radix + d) 0

/-- `parse::<IpAddr>`. -/
def parse (s : List Char) : Option IpAddr :=
  match readIpv4 s with
  | some (bytes, []) => some (v4 (BitVec.ofNat 32 (ofDigits 256 bytes)))
  | some (_, _ :: _) => none
  | none =>
    match readIpv6 s with
    | some (segments, []) => some (v6 (BitVec.ofNat 128 (ofDigits 65536 segments)))
    | _ => none

end IpAddr

example : (IpAddr.v6 0x20010db8000000000000000000000001).toText = "2001:db8::1" := by
  decide +kernel

example : ["3.3.3.3", "2001:DB8::1", "::ffff:10.0.0.1", "::", "01.2.3.4", "not-an-ip"].map
    (fun s => (IpAddr.parse s.toList).map IpAddr.toText) =
      [some "3.3.3.3", some "2001:db8::1", some "::ffff:10.0.0.1", some "::", none, none] := by
  decide +kernel

end Datacat.Basics
