/-
Fields: values under distinct names, in order.

A `Row` holds one value for each of a list of names, and `Fields` is a row whose names
are distinct.  Keeping the names in the type of the row, and not in pairs with the
values, is what lets a value hold fields of values.  Everyone else sees fields as their
`entries`, the list of name and value pairs, which determines them.
-/
namespace Conform

universe u v

/-- One value for each name of a list. -/
inductive Row (α : Type u) : List String → Type u where
  | nil : Row α []
  | cons {names : List String} (name : String) (value : α) (rest : Row α names) :
      Row α (name :: names)

namespace Row

variable {α : Type u} {β : Type v}

/-- The names with their values. -/
def toList : {names : List String} → Row α names → List (String × α)
  | _, .nil => []
  | _, .cons name value rest => (name, value) :: rest.toList

/-- The row that a list of pairs spells out. -/
def ofList : (entries : List (String × α)) → Row α (entries.map Prod.fst)
  | [] => .nil
  | (name, value) :: rest => .cons name value (ofList rest)

/-- The row with every value replaced. -/
def map (f : String → α → β) : {names : List String} → Row α names → Row β names
  | _, .nil => .nil
  | _, .cons name value rest => .cons name (f name value) (rest.map f)

@[simp] theorem map_fst_toList :
    {names : List String} → (row : Row α names) → row.toList.map Prod.fst = names
  | _, .nil => rfl
  | _, .cons _ _ rest => by simp [toList, map_fst_toList rest]

@[simp] theorem toList_ofList :
    (entries : List (String × α)) → (ofList entries).toList = entries
  | [] => rfl
  | (_, _) :: rest => by simp [toList, ofList, toList_ofList rest]

@[simp] theorem toList_map (f : String → α → β) :
    {names : List String} → (row : Row α names) →
      (row.map f).toList = row.toList.map fun e => (e.1, f e.1 e.2)
  | _, .nil => rfl
  | _, .cons _ _ rest => by simp [toList, map, toList_map f rest]

/-- A row is determined by its entries. -/
theorem eq_of_toList_eq :
    {names : List String} → {a b : Row α names} → a.toList = b.toList → a = b
  | _, .nil, .nil, _ => rfl
  | _, .cons _ x a, .cons _ y b, h => by
    simp only [toList, List.cons.injEq, Prod.mk.injEq, true_and] at h
    rw [h.1, eq_of_toList_eq h.2]

end Row

/-- Values under distinct names, in order. -/
structure Fields (α : Type u) where
  names : List String
  distinct : names.Nodup
  row : Row α names

namespace Fields

variable {α : Type u} {β : Type v}

/-- The names with their values, in order. -/
def entries (f : Fields α) : List (String × α) :=
  f.row.toList

/-- The fields that a list of pairs with distinct names spells out. -/
def ofEntries (entries : List (String × α)) (distinct : (entries.map Prod.fst).Nodup) :
    Fields α :=
  ⟨entries.map Prod.fst, distinct, .ofList entries⟩

@[simp] theorem map_fst_entries (f : Fields α) : f.entries.map Prod.fst = f.names :=
  f.row.map_fst_toList

@[simp] theorem entries_ofEntries (entries : List (String × α))
    (distinct : (entries.map Prod.fst).Nodup) :
    (ofEntries entries distinct).entries = entries :=
  Row.toList_ofList entries

/-- No two entries have the same name. -/
theorem nodup_entries (f : Fields α) : (f.entries.map Prod.fst).Nodup := by
  rw [map_fst_entries]
  exact f.distinct

/-- Fields are determined by their entries. -/
theorem ext {f g : Fields α} (h : f.entries = g.entries) : f = g := by
  have names : f.names = g.names := by rw [← map_fst_entries f, h, map_fst_entries]
  obtain ⟨fn, fd, fr⟩ := f
  obtain ⟨gn, gd, gr⟩ := g
  obtain rfl : fn = gn := names
  rw [Row.eq_of_toList_eq (a := fr) (b := gr) h]

/-- No fields. -/
def empty : Fields α :=
  ⟨[], .nil, .nil⟩

instance : Inhabited (Fields α) := ⟨empty⟩

/-- How many fields there are. -/
def size (f : Fields α) : Nat :=
  f.names.length

/-- The values, in order. -/
def values (f : Fields α) : List α :=
  f.entries.map Prod.snd

/-- The value under a name. -/
def get? (f : Fields α) (name : String) : Option α :=
  (f.entries.find? fun e => e.1 == name).map Prod.snd

/-- There is a field of this name. -/
def contains (f : Fields α) (name : String) : Bool :=
  f.names.contains name

/-- The fields with every value replaced and every name kept. -/
def map (g : String → α → β) (f : Fields α) : Fields β :=
  ⟨f.names, f.distinct, f.row.map g⟩

@[simp] theorem entries_map (g : String → α → β) (f : Fields α) :
    (f.map g).entries = f.entries.map fun e => (e.1, g e.1 e.2) :=
  Row.toList_map g f.row

@[simp] theorem map_map {γ : Type v} (g : String → α → β) (h : String → β → γ) (f : Fields α) :
    (f.map g).map h = f.map fun name value => h name (g name value) :=
  ext (by simp [List.map_map, Function.comp_def])

@[simp] theorem map_self (f : Fields α) : (f.map fun _ value => value) = f :=
  ext (by simp)

/-- The fields that a test holds of. -/
def filter (f : Fields α) (keep : String → α → Bool) : Fields α :=
  ofEntries (f.entries.filter fun e => keep e.1 e.2)
    ((List.filter_sublist.map Prod.fst).nodup f.nodup_entries)

@[simp] theorem entries_filter (f : Fields α) (keep : String → α → Bool) :
    (f.filter keep).entries = f.entries.filter fun e => keep e.1 e.2 :=
  entries_ofEntries ..

/-- Sets the value under a name: in place if there is a field of this name, and as the
last field if there is none. -/
def insert (f : Fields α) (name : String) (value : α) : Fields α :=
  if h : name ∈ f.names then
    f.map fun other old => if other = name then value else old
  else
    ofEntries (f.entries ++ [(name, value)]) <| by
      rw [List.map_append, map_fst_entries, List.map_singleton]
      refine List.nodup_append.2 ⟨f.distinct, by simp, ?_⟩
      rintro a ha b hb rfl
      have is_name : a = name := List.mem_singleton.1 hb
      exact h (is_name ▸ ha)

/-- Inserting under a name that is there changes the value in its place. -/
theorem entries_insert_of_mem {f : Fields α} {name : String} (h : name ∈ f.names) (value : α) :
    (f.insert name value).entries =
      f.entries.map fun e => (e.1, if e.1 = name then value else e.2) := by
  simp [insert, h]

/-- Inserting under a new name adds an entry at the end. -/
theorem entries_insert_of_not_mem {f : Fields α} {name : String} (h : name ∉ f.names)
    (value : α) : (f.insert name value).entries = f.entries ++ [(name, value)] := by
  simp [insert, h]

/-- The fields inserted in order: a repeated name keeps its first place and takes its
last value. -/
def ofList (entries : List (String × α)) : Fields α :=
  entries.foldl (fun f e => f.insert e.1 e.2) empty

end Fields

end Conform
