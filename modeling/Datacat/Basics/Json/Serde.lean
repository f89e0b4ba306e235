import Datacat.Basics.Json.Value

/-!
# Reading Records from JSON Documents

What derived deserializers do with a document. A record is read field by field: from an
object by name (a known name occurring twice is an error, an unknown name is ignored), from
an array by position. A recursive type is read by a fold that gives each level the readings
of its children.

## Main results

- `fields_present`: the fields of an object written with distinct names are the values
  written.
- `readVec_encodeList`: a list of encodings is read item by item, and one unreadable item
  makes it unreadable.
-/

namespace Datacat.Basics

universe u

/-! ## Levels of a document -/

/-- One level of a document whose children were read as `α`. -/
inductive Node (α : Type u) where
  | null
  | bool (b : Bool)
  | number (n : Number)
  | string (s : String)
  | array (items : List α)
  | object (entries : List (String × α))

namespace Value

variable {α : Type u}

mutual

/-- Reads a document from the leaves up. `f` sees each level twice: as a document, and with
its children already read. -/
def fold (f : Value → Node α → α) : Value → α
  | .null => f .null .null
  | .bool b => f (.bool b) (.bool b)
  | .number n => f (.number n) (.number n)
  | .string s => f (.string s) (.string s)
  | .array items => f (.array items) (.array (foldItems f items))
  | .object entries => f (.object entries) (.object (foldEntries f entries))

def foldItems (f : Value → Node α → α) : List Value → List α
  | [] => []
  | v :: rest => v.fold f :: foldItems f rest

def foldEntries (f : Value → Node α → α) : List (String × Value) → List (String × α)
  | [] => []
  | (k, v) :: rest => (k, v.fold f) :: foldEntries f rest

end

theorem fold_array (f : Value → Node α → α) (items : List Value) :
    fold f (.array items) = f (.array items) (.array (items.map (fold f))) := by
  have hitems : ∀ items, foldItems f items = items.map (fold f) := by
    intro items
    induction items with
    | nil => rfl
    | cons v rest ih => rw [foldItems, ih, List.map_cons]
  rw [fold, hitems]

theorem fold_object (f : Value → Node α → α) (entries : List (String × Value)) :
    fold f (.object entries)
      = f (.object entries) (.object (entries.map fun e => (e.1, fold f e.2))) := by
  have hentries : ∀ entries, foldEntries f entries = entries.map fun e => (e.1, fold f e.2) := by
    intro entries
    induction entries with
    | nil => rfl
    | cons e rest ih => rw [foldEntries, ih, List.map_cons]
  rw [fold, hentries]

/-- The first level of a document. -/
def node : Value → Node Value
  | .null => .null
  | .bool b => .bool b
  | .number n => .number n
  | .string s => .string s
  | .array items => .array items
  | .object entries => .object entries

end Value

/-! ## Fields -/

section Fields

variable {α β : Type u}

/-- The fields named `names` of a record. -/
def Node.fields (names : List String) : Node α → Option (String → Option α)
  | .object entries =>
    if ((entries.map Prod.fst).filter (names.contains ·)).Nodup then
      some fun name => entries.lookup name
    else none
  | .array items =>
    if items.length ≤ names.length then some fun name => (names.zip items).lookup name else none
  | _ => none

/-- A field that must be there. -/
def required (field : Option α) (read : α → Option β) : Option β :=
  field.bind read

/-- A field under `#[serde(default)]`. -/
def defaulted (field : Option α) (default : β) (read : α → Option β) : Option β :=
  match field with
  | none => some default
  | some v => read v

/-- The entries of a record that are written, the others being left out. -/
def present (fs : List (String × Option α)) : List (String × α) :=
  fs.filterMap fun f => f.2.map fun v => (f.1, v)

def fieldOf (fs : List (String × Option α)) (name : String) : Option α :=
  (fs.lookup name).join

@[simp] theorem required_none (read : α → Option β) : required none read = none := rfl

@[simp] theorem required_some (v : α) (read : α → Option β) : required (some v) read = read v :=
  rfl

@[simp] theorem defaulted_none (default : β) (read : α → Option β) :
    defaulted none default read = some default := rfl

@[simp] theorem defaulted_some (v : α) (default : β) (read : α → Option β) :
    defaulted (some v) default read = read v := rfl

@[simp] theorem fieldOf_nil (name : String) : fieldOf ([] : List (String × Option α)) name = none :=
  rfl

@[simp] theorem fieldOf_cons (key : String) (v : Option α) (fs : List (String × Option α))
    (name : String) :
    fieldOf ((key, v) :: fs) name = if name = key then v else fieldOf fs name := by
  by_cases hname : name = key
  · simp [fieldOf, hname]
  · have hbeq : (name == key) = false := beq_eq_false_iff_ne.mpr hname
    simp [fieldOf, List.lookup_cons, hbeq, hname]

theorem fieldOf_map {γ : Type u} (g : α → γ) (fs : List (String × Option α)) (name : String) :
    fieldOf (fs.map fun f => (f.1, f.2.map g)) name = (fieldOf fs name).map g := by
  induction fs with
  | nil => rfl
  | cons f fs ih =>
    rw [List.map_cons, fieldOf_cons, fieldOf_cons, ih]
    split <;> rfl

theorem present_map {γ : Type u} (g : α → γ) (fs : List (String × Option α)) :
    (present fs).map (fun e => (e.1, g e.2)) = present (fs.map fun f => (f.1, f.2.map g)) := by
  induction fs with
  | nil => rfl
  | cons f fs ih =>
    obtain ⟨name, v⟩ := f
    cases v with
    | none => simpa [present] using ih
    | some v => simpa [present] using ih

theorem mem_names_of_mem_present {fs : List (String × Option α)} {name : String}
    (h : name ∈ (present fs).map Prod.fst) : name ∈ fs.map Prod.fst := by
  simp only [present, List.mem_map, List.mem_filterMap, Option.map_eq_some_iff] at h ⊢
  obtain ⟨_, ⟨f, hf, v, _, rfl⟩, rfl⟩ := h
  exact ⟨f, hf, rfl⟩

theorem names_present_nodup {fs : List (String × Option α)} (h : (fs.map Prod.fst).Nodup) :
    ((present fs).map Prod.fst).Nodup := by
  induction fs with
  | nil => exact List.nodup_nil
  | cons f fs ih =>
    obtain ⟨name, v⟩ := f
    obtain ⟨hname, hrest⟩ := List.nodup_cons.mp h
    cases v with
    | none => exact ih hrest
    | some v =>
      show (name :: (present fs).map Prod.fst).Nodup
      exact List.nodup_cons.mpr ⟨fun hmem => hname (mem_names_of_mem_present hmem), ih hrest⟩

theorem lookup_present {fs : List (String × Option α)} (h : (fs.map Prod.fst).Nodup)
    (name : String) : (present fs).lookup name = fieldOf fs name := by
  have hnone : ∀ entries : List (String × α), name ∉ entries.map Prod.fst →
      entries.lookup name = none := by
    intro entries hmem
    rw [List.lookup_eq_none_iff]
    intro e he
    rw [bne_iff_ne]
    rintro rfl
    exact hmem (List.mem_map_of_mem he)
  induction fs with
  | nil => rfl
  | cons f fs ih =>
    obtain ⟨key, v⟩ := f
    obtain ⟨hkey, hrest⟩ := List.nodup_cons.mp h
    rw [fieldOf_cons]
    by_cases hname : name = key
    · subst hname
      rw [if_pos rfl]
      cases v with
      | none =>
        -- the field is left out, and the names after it differ
        exact hnone (present fs) fun hmem => hkey (mem_names_of_mem_present hmem)
      | some v => simp [present]
    · rw [if_neg hname, ← ih hrest]
      have hbeq : (name == key) = false := beq_eq_false_iff_ne.mpr hname
      cases v with
      | none => rfl
      | some v => simp [present, List.lookup_cons, hbeq]

/-- The fields of an object written with distinct names are the values written. -/
theorem fields_present {fs : List (String × Option α)} (h : (fs.map Prod.fst).Nodup)
    (names : List String) : (Node.object (present fs)).fields names = some (fieldOf fs) := by
  rw [Node.fields, if_pos ((names_present_nodup h).filter _)]
  exact congrArg some (funext fun name => lookup_present h name)

end Fields

/-! ## Reading scalars and arrays -/

namespace Value

/-- An object written field by field. -/
def record (fs : List (String × Option Value)) : Value := .object (present fs)

theorem fold_record {α : Type} (f : Value → Node α → α) (fs : List (String × Option Value)) :
    fold f (record fs) =
      f (record fs) (.object (present (fs.map fun e => (e.1, e.2.map (fold f))))) := by
  rw [record, fold_object, present_map]

theorem fields_record {fs : List (String × Option Value)} (h : (fs.map Prod.fst).Nodup)
    (names : List String) : (record fs).node.fields names = some (fieldOf fs) :=
  fields_present h names

def readString : Value → Option String
  | .string s => some s
  | _ => none

def readBool : Value → Option Bool
  | .bool b => some b
  | _ => none

def readI64 : Value → Option Int64
  | .number n => n.asI64
  | _ => none

def readF64 : Value → Option F64
  | .number n => some n.asF64
  | _ => none

variable {α β : Type}

/-- `Option<T>`: `null` is none. -/
def readOption (read : Value → Option α) : Value → Option (Option α)
  | .null => some none
  | v => (read v).map some

/-- `Vec<T>`. -/
def readVec (read : Value → Option α) : Value → Option (List α)
  | .array items => items.mapM read
  | _ => none

theorem readOption_record (read : Value → Option α) (fs : List (String × Option Value)) :
    readOption read (record fs) = (read (record fs)).map some := rfl

theorem readOption_of_ne_null {v : Value} (hv : v ≠ .null) (read : Value → Option α) :
    readOption read v = (read v).map some := by
  cases v with
  | null => exact absurd rfl hv
  | _ => rfl

end Value

/-- Reading one more field after a field that is readable or not. -/
theorem bind_readable {α β : Type*} {c : Bool} {a : α} {f : α → Option β} :
    (if c then some a else none).bind f = if c then f a else none := by
  cases c <;> rfl

theorem mapM_map_eq_some {α β γ : Type*} {read : β → Option γ} {encode : α → β} {g : α → γ}
    {xs : List α} (h : ∀ x ∈ xs, read (encode x) = some (g x)) :
    (xs.map encode).mapM read = some (xs.map g) := by
  induction xs with
  | nil => rfl
  | cons x xs ih =>
    have hx := h x (List.mem_cons_self ..)
    have htail := ih fun y hy => h y (List.mem_cons_of_mem _ hy)
    simp [hx, htail]

theorem mapM_map_eq_none {α β γ : Type*} {read : β → Option γ} {encode : α → β} {xs : List α}
    {x : α} (hx : x ∈ xs) (h : read (encode x) = none) : (xs.map encode).mapM read = none := by
  induction xs with
  | nil => contradiction
  | cons y xs ih =>
    rcases List.mem_cons.mp hx with rfl | hmem
    · simp [h]
    · simp [ih hmem]

/-- A list without items is left out of a record. -/
def encodeList (items : List Value) : Option Value :=
  if items.isEmpty then none else some (.array items)

/-- A list of encodings is readable when each of its items is, and is then read item by
item. -/
theorem readVec_encodeList {α β : Type} {read : Value → Option β} {encode : α → Value}
    {g : α → β} {readable : α → Bool} (xs : List α)
    (h : ∀ x ∈ xs, read (encode x) = if readable x then some (g x) else none) :
    defaulted (encodeList (xs.map encode)) [] (Value.readVec read)
      = if xs.all readable then some (xs.map g) else none := by
  cases xs with
  | nil => rfl
  | cons x xs =>
    show ((x :: xs).map encode).mapM read = _
    by_cases hall : (x :: xs).all readable = true
    · rw [if_pos hall]
      rw [List.all_eq_true] at hall
      exact mapM_map_eq_some fun y hy => by rw [h y hy, if_pos (hall y hy)]
    · rw [if_neg hall]
      simp only [List.all_eq_true, not_forall] at hall
      obtain ⟨y, hy, hbad⟩ := hall
      exact mapM_map_eq_none hy (by rw [h y hy, if_neg hbad])

end Datacat.Basics
