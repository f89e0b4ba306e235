import Datacat.Basics.Net
import Datacat.Basics.Text

/-!
# The Address of the Client

Behind a trusted proxy the address of a client is the entry that the proxy appends to
`X-Forwarded-For`. A request may have several lines of this header, and what counts is the last
entry of all of them joined.

The code reads the first line, and falls back on `X-Real-IP` when this line does not end with an
address. Both are the client's when the proxy adds a line of its own.

## Main results

- `clientIp_eq_trusted_iff`: when the address is the one that the proxy vouches for.
- `clientIp_agrees_iff`: which requests resolve as all those with the same final entry do.
-/

namespace Datacat.Security

open Basics

/-- `HeaderMap`: the lines in order, with their names in lower case. -/
abbrev HeaderMap := List (String × List UInt8)

/-- `headers.get`: the first line of a name. -/
def HeaderMap.get (headers : HeaderMap) (name : String) : Option (List UInt8) :=
  (headers.find? fun line => line.1 == name).map Prod.snd

/-- The values of all lines of that name. -/
def HeaderMap.getAll (headers : HeaderMap) (name : String) : List (List UInt8) :=
  (headers.filter fun line => line.1 == name).map Prod.snd

/-- `HeaderValue::to_str`: visible ASCII, spaces and tabs. -/
def toStr (value : List UInt8) : Option (List Char) :=
  if value.all fun b => (32 ≤ b && b < 127) || b == 9 then
    some (value.map fun b => Char.ofNat b.toNat)
  else none

/-- What follows the last separator. -/
def lastPiece {α : Type} [DecidableEq α] (separator : α) (s : List α) : List α :=
  (s.reverse.takeWhile fun c => decide (c ≠ separator)).reverse

/-- The address that a line ends with. -/
def rightmost (value : List UInt8) : Option IpAddr :=
  (toStr value).bind fun s => IpAddr.parse (trim (lastPiece ',' s))

/-- The address of `X-Real-IP`. -/
def realIp (headers : HeaderMap) : Option IpAddr :=
  ((headers.get "x-real-ip").bind toStr).bind fun s => IpAddr.parse (trim s)

/-- `client_ip`. -/
def clientIp (headers : HeaderMap) (peer : IpAddr) (trustForwarded : Bool) : IpAddr :=
  if !trustForwarded then peer
  else
    match (headers.get "x-forwarded-for").bind rightmost with
    | some ip => ip
    | none =>
      match realIp headers with
      | some ip => ip
      | none => peer

/-! ## What the proxy vouches for -/

/-- All lines of `X-Forwarded-For` joined with commas. -/
def forwardedFor (headers : HeaderMap) : List UInt8 :=
  [44].intercalate (headers.getAll "x-forwarded-for")

/-- The request has an `X-Forwarded-For` that ends with this entry. -/
def EndsWith (headers : HeaderMap) (entry : List UInt8) : Prop :=
  headers.getAll "x-forwarded-for" ≠ [] ∧ lastPiece 44 (forwardedFor headers) = entry

/-- The address that an entry stands for, the peer when it is none. -/
def trusted (entry : List UInt8) (peer : IpAddr) : IpAddr :=
  (((toStr entry).bind fun s => IpAddr.parse (trim s))).getD peer

/-- Something else than the entry of the proxy is let in: the end of the first line, or without an
address there `X-Real-IP`, or without both the peer in the place of the entry. -/
inductive Leaks (headers : HeaderMap) (entry : List UInt8) (peer : IpAddr) : Prop where
  | firstLine {line : List UInt8} {ip : IpAddr}
      (hline : headers.get "x-forwarded-for" = some line) (hip : rightmost line = some ip)
      (hother : ip ≠ trusted entry peer) : Leaks headers entry peer
  | realIp {line : List UInt8} {ip : IpAddr}
      (hline : headers.get "x-forwarded-for" = some line) (hnone : rightmost line = none)
      (hip : realIp headers = some ip) (hother : ip ≠ trusted entry peer) :
      Leaks headers entry peer
  | ignored {line : List UInt8}
      (hline : headers.get "x-forwarded-for" = some line) (hnone : rightmost line = none)
      (hreal : Security.realIp headers = none) (hother : peer ≠ trusted entry peer) :
      Leaks headers entry peer

section Resolution

variable {headers : HeaderMap} {entry : List UInt8} {peer : IpAddr}

theorem get_eq_head? (name : String) : headers.get name = (headers.getAll name).head? := by
  unfold HeaderMap.get HeaderMap.getAll
  rw [List.head?_map, List.head?_filter]

/-- A header that is there has a first line. -/
theorem exists_get_of_getAll {name : String} (h : headers.getAll name ≠ []) :
    ∃ line, headers.get name = some line := by
  rw [get_eq_head?]
  cases hall : headers.getAll name with
  | nil => exact absurd hall h
  | cons line rest => exact ⟨line, rfl⟩

/-- **The trusted address.** A request resolves to the address that the proxy vouches for if and
only if it lets nothing else in. -/
theorem clientIp_eq_trusted_iff (hentry : EndsWith headers entry) :
    clientIp headers peer true = trusted entry peer ↔ ¬ Leaks headers entry peer := by
  obtain ⟨line, hget⟩ := exists_get_of_getAll hentry.1
  unfold clientIp
  rw [Bool.not_true, if_neg Bool.false_ne_true, hget, Option.bind_some]
  cases hline : rightmost line with
  -- The first line ends with an address: it decides.
  | some ip =>
    dsimp only
    constructor
    · rintro heq (⟨hget', hip, hother⟩ | ⟨hget', hnone, -, -⟩ | ⟨hget', hnone, -, -⟩)
      all_goals obtain rfl := Option.some.inj (hget.symm.trans hget')
      · exact hother ((Option.some.inj (hip.symm.trans hline)).trans heq)
      · exact nomatch hnone.symm.trans hline
      · exact nomatch hnone.symm.trans hline
    · intro hclean
      by_contra hother
      exact hclean (.firstLine hget hline hother)
  | none =>
    dsimp only
    cases hreal : realIp headers with
    -- The first line gives nothing: `X-Real-IP` decides, when it is readable.
    | some ip =>
      dsimp only
      constructor
      · rintro heq (⟨hget', hip, -⟩ | ⟨-, -, hip, hother⟩ | ⟨-, -, hnone, -⟩)
        · obtain rfl := Option.some.inj (hget.symm.trans hget')
          exact nomatch hip.symm.trans hline
        · exact hother ((Option.some.inj (hip.symm.trans hreal)).trans heq)
        · exact nomatch hnone.symm.trans hreal
      · intro hclean
        by_contra hother
        exact hclean (.realIp hget hline hreal hother)
    -- Neither header gives an address: the peer stands.
    | none =>
      dsimp only
      constructor
      · rintro heq (⟨hget', hip, -⟩ | ⟨-, -, hip, -⟩ | ⟨-, -, -, hother⟩)
        · obtain rfl := Option.some.inj (hget.symm.trans hget')
          exact nomatch hip.symm.trans hline
        · exact nomatch hip.symm.trans hreal
        · exact hother heq
      · intro hclean
        by_contra hother
        exact hclean (.ignored hget hline hreal hother)

/-- A byte is a comma when its character is. -/
theorem char_eq_comma_iff (b : UInt8) : Char.ofNat b.toNat = ',' ↔ b = 44 := by
  constructor
  · intro h
    have hvalid : b.toNat.isValidChar := Or.inl (b.toNat_lt.trans (by decide))
    have hnat := congrArg Char.toNat h
    rw [Char.toNat_ofNat, if_pos hvalid] at hnat
    exact UInt8.toNat_inj.mp hnat
  · rintro rfl
    rfl

/-- The last piece of a readable line is the line's last entry, read. -/
theorem toStr_lastPiece {line : List UInt8} {s : List Char} (h : toStr line = some s) :
    toStr (lastPiece 44 line) = some (lastPiece ',' s) := by
  unfold toStr at h ⊢
  split at h
  · rename_i hvisible
    obtain rfl := Option.some.inj h
    have hsub : ∀ b ∈ lastPiece 44 line, b ∈ line := fun b hb => by
      have hmem := (List.takeWhile_sublist _).subset (List.mem_reverse.mp hb)
      exact List.mem_reverse.mp hmem
    rw [if_pos]
    · congr 1
      unfold lastPiece
      rw [← List.map_reverse, List.takeWhile_map, List.map_reverse]
      congr 3
      funext b
      simp [Function.comp, char_eq_comma_iff]
    · rw [List.all_eq_true] at hvisible ⊢
      exact fun b hb => hvisible b (hsub b hb)
  · cases h

theorem lastPiece_lastPiece {α : Type} [DecidableEq α] (separator : α) (s : List α) :
    lastPiece separator (lastPiece separator s) = lastPiece separator s := by
  unfold lastPiece
  rw [List.reverse_reverse, List.takeWhile_takeWhile]
  simp

/-- A line and its last entry stand for the same address, when the line can be read. -/
theorem rightmost_eq_of_lastPiece {line : List UInt8} {s : List Char}
    (hreadable : toStr line = some s) (hlast : lastPiece 44 line = entry) :
    rightmost line = (toStr entry).bind fun s => IpAddr.parse (trim s) := by
  unfold rightmost
  rw [← hlast, toStr_lastPiece hreadable, hreadable]
  rfl

/-- The request that carries the entry of the proxy alone. -/
def bare (entry : List UInt8) : HeaderMap := [("x-forwarded-for", entry)]

theorem forwardedFor_single {line : List UInt8}
    (h : headers.getAll "x-forwarded-for" = [line]) : forwardedFor headers = line := by
  rw [forwardedFor, h]
  simp

theorem endsWith_bare (hentry : EndsWith headers entry) : EndsWith (bare entry) entry := by
  have hall : (bare entry).getAll "x-forwarded-for" = [entry] := rfl
  refine ⟨by rw [hall]; exact List.cons_ne_nil _ _, ?_⟩
  rw [forwardedFor_single hall, ← hentry.2, lastPiece_lastPiece]

theorem clientIp_bare (hlast : lastPiece 44 entry = entry) :
    clientIp (bare entry) peer true = trusted entry peer := by
  have hget : (bare entry).get "x-forwarded-for" = some entry := rfl
  have hreal : realIp (bare entry) = none := rfl
  have hright : rightmost entry = (toStr entry).bind fun s => IpAddr.parse (trim s) := by
    cases hreadable : toStr entry with
    | some s => rw [rightmost_eq_of_lastPiece hreadable hlast, hreadable]
    | none =>
      unfold rightmost
      rw [hreadable]
      rfl
  unfold clientIp trusted
  rw [Bool.not_true, if_neg Bool.false_ne_true, hget, Option.bind_some, hright, hreal]
  cases (toStr entry).bind fun s => IpAddr.parse (trim s) with
  | some ip => rfl
  | none => rfl

/-- A single readable line whose last entry is an address lets nothing else in, whatever
`X-Real-IP` holds. -/
theorem not_leaks_of_single {line : List UInt8} {ip : IpAddr} {s : List Char}
    (hsingle : headers.getAll "x-forwarded-for" = [line]) (hreadable : toStr line = some s)
    (hip : rightmost line = some ip) (hentry : EndsWith headers entry) :
    ¬ Leaks headers entry peer := by
  have hget : headers.get "x-forwarded-for" = some line := by rw [get_eq_head?, hsingle]; rfl
  have hlast : lastPiece 44 line = entry := by
    rw [← forwardedFor_single hsingle]
    exact hentry.2
  rw [← clientIp_eq_trusted_iff hentry]
  unfold clientIp trusted
  rw [Bool.not_true, if_neg Bool.false_ne_true, hget, Option.bind_some, hip,
    ← rightmost_eq_of_lastPiece hreadable hlast, hip]
  rfl

/-- **Noninterference of the client.** A request resolves as all requests from the same peer with
the same final entry that let nothing else in, if and only if it lets nothing else in itself. -/
theorem clientIp_agrees_iff (hentry : EndsWith headers entry) :
    (∀ headers', EndsWith headers' entry → ¬ Leaks headers' entry peer →
      clientIp headers peer true = clientIp headers' peer true) ↔ ¬ Leaks headers entry peer := by
  constructor
  · intro h hleaks
    -- Compare with the request that carries the entry alone.
    have hbare := endsWith_bare hentry
    have hlast : lastPiece 44 entry = entry := by
      rw [← hentry.2, lastPiece_lastPiece]
    have hresolved : clientIp (bare entry) peer true = trusted entry peer := clientIp_bare hlast
    have hagree := h (bare entry) hbare ((clientIp_eq_trusted_iff hbare).mp hresolved)
    exact (clientIp_eq_trusted_iff hentry).mp (hagree.trans hresolved) hleaks
  · intro hclean headers' hentry' hclean'
    rw [(clientIp_eq_trusted_iff hentry).mpr hclean, (clientIp_eq_trusted_iff hentry').mpr hclean']

end Resolution

/-- The proxy's line after one that the client sent. -/
def appended : HeaderMap :=
  [("x-forwarded-for", asBytes "9.9.9.9"), ("x-forwarded-for", asBytes "203.0.113.7")]

theorem clientIp_agrees_iff_behindProxy :
    (∀ headers', EndsWith headers' (asBytes "203.0.113.7") →
      ¬ Leaks headers' (asBytes "203.0.113.7") (.v4 0x0a000001) →
      clientIp [("x-forwarded-for", asBytes "1.1.1.1,203.0.113.7")] (.v4 0x0a000001) true =
        clientIp headers' (.v4 0x0a000001) true) ↔
      ¬ Leaks [("x-forwarded-for", asBytes "1.1.1.1,203.0.113.7")] (asBytes "203.0.113.7")
        (.v4 0x0a000001) :=
  clientIp_agrees_iff ⟨by decide +kernel, by decide +kernel⟩

/-- Two requests from the same peer end with the same entry, and the client chooses the address of
the first one. -/
theorem clientIp_ne_appended :
    EndsWith appended (asBytes "203.0.113.7") ∧
      EndsWith (bare (asBytes "203.0.113.7")) (asBytes "203.0.113.7") ∧
      clientIp appended (.v4 0x0a000001) true ≠
        clientIp (bare (asBytes "203.0.113.7")) (.v4 0x0a000001) true := by
  refine ⟨⟨by decide, by decide +kernel⟩, ⟨by decide, by decide +kernel⟩, ?_⟩
  decide +kernel

end Datacat.Security
