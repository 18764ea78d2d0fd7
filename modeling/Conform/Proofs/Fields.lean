/-
What fields hold.

`entries` determines fields, and the functions on fields are defined by what they do to
it.  Here they are tied to what a lookup sees: a name is found with a value exactly if the
two are an entry, and inserting changes the answer for one name only.
-/
import Conform.Fields
import Mathlib.Data.List.Induction
import Mathlib.Data.List.Nodup

namespace Conform.Fields

universe u v

variable {α : Type u} {β : Type v}

theorem mem_names {f : Fields α} {name : String} :
    name ∈ f.names ↔ ∃ value, (name, value) ∈ f.entries := by
  rw [← map_fst_entries, List.mem_map]
  constructor
  · intro h
    obtain ⟨⟨_, value⟩, he, rfl⟩ := h
    exact ⟨value, he⟩
  · intro h
    obtain ⟨value, he⟩ := h
    exact ⟨(name, value), he, rfl⟩

theorem contains_iff {f : Fields α} {name : String} : f.contains name = true ↔ name ∈ f.names := by
  rw [contains, List.contains_iff_mem]

@[simp] theorem values_map (g : α → β) (f : Fields α) :
    (f.map fun _ => g).values = f.values.map g := by
  rw [values, values, entries_map, List.map_map, List.map_map]
  rfl

/-! ### Lookups -/

theorem get?_eq_some_iff {f : Fields α} {name : String} {value : α} :
    f.get? name = some value ↔ (name, value) ∈ f.entries := by
  rw [get?, Option.map_eq_some_iff]
  constructor
  · intro h
    obtain ⟨⟨other, found⟩, hfind, rfl⟩ := h
    have hname : other = name := by simpa using List.find?_some hfind
    rw [← hname]
    exact List.mem_of_find?_eq_some hfind
  · intro he
    rcases hfind : f.entries.find? (fun e => e.1 == name) with _ | ⟨other, found⟩
    · rw [List.find?_eq_none] at hfind
      exact absurd (beq_self_eq_true name) (hfind _ he)
    · have hmem := List.mem_of_find?_eq_some hfind
      have hname : other = name := by simpa using List.find?_some hfind
      have hsame := List.inj_on_of_nodup_map f.nodup_entries hmem he hname
      exact ⟨(other, found), hfind, by rw [hsame]⟩

theorem mem_names_iff_get? {f : Fields α} {name : String} :
    name ∈ f.names ↔ ∃ value, f.get? name = some value := by
  rw [mem_names]
  exact exists_congr fun value => get?_eq_some_iff.symm

theorem get?_eq_none_iff {f : Fields α} {name : String} :
    f.get? name = none ↔ name ∉ f.names := by
  rw [mem_names_iff_get?, not_exists, Option.eq_none_iff_forall_ne_some]

/-- It does not matter to a lookup in which order the entries are. -/
theorem get?_of_perm {f g : Fields α} (h : f.entries.Perm g.entries) (name : String) :
    f.get? name = g.get? name := by
  refine Option.ext fun value => ?_
  rw [get?_eq_some_iff, get?_eq_some_iff, h.mem_iff]

theorem get?_insert (f : Fields α) (name : String) (value : α) (other : String) :
    (f.insert name value).get? other = if other = name then some value else f.get? other := by
  refine Option.ext fun found => ?_
  rw [get?_eq_some_iff]
  -- A name that is there has its value replaced in place, and any other goes to the end.
  by_cases hmem : name ∈ f.names
  · rw [entries_insert_of_mem hmem, List.mem_map]
    split
    · rename_i hname
      obtain ⟨old, hold⟩ := mem_names.1 hmem
      constructor
      · intro h
        obtain ⟨e, -, he⟩ := h
        simp only [Prod.mk.injEq] at he
        rw [← he.2, if_pos (he.1.trans hname)]
      · intro h
        refine ⟨(name, old), hold, ?_⟩
        simpa [hname] using h
    · rename_i hname
      rw [get?_eq_some_iff]
      constructor
      · intro h
        obtain ⟨e, hin, he⟩ := h
        simp only [Prod.mk.injEq] at he
        rw [if_neg (fun hc => hname (he.1.symm.trans hc))] at he
        rwa [← he.1, ← he.2]
      · intro h
        exact ⟨(other, found), h, by rw [if_neg hname]⟩
  · rw [entries_insert_of_not_mem hmem, List.mem_append, List.mem_singleton]
    split
    · rename_i hname
      have hnot : (name, found) ∉ f.entries := fun hc => hmem (mem_names.2 ⟨found, hc⟩)
      simp [hname, hnot, eq_comm]
    · rename_i hname
      rw [get?_eq_some_iff]
      simp [hname]

theorem get?_filter_name (f : Fields α) (keep : String → Bool) (name : String) :
    (f.filter fun other _ => keep other).get? name =
      if keep name then f.get? name else none := by
  refine Option.ext fun found => ?_
  rw [get?_eq_some_iff, entries_filter, List.mem_filter]
  split
  · rename_i hkeep
    rw [get?_eq_some_iff]
    exact and_iff_left hkeep
  · rename_i hkeep
    constructor
    · exact fun h => absurd h.2 hkeep
    · exact fun h => absurd h (by simp)

/-! ### Names -/

theorem names_insert (f : Fields α) (name : String) (value : α) :
    (f.insert name value).names = if name ∈ f.names then f.names else f.names ++ [name] := by
  rw [← map_fst_entries]
  split
  · rename_i hmem
    rw [entries_insert_of_mem hmem, List.map_map]
    exact map_fst_entries f
  · rename_i hmem
    rw [entries_insert_of_not_mem hmem, List.map_append, map_fst_entries]
    rfl

theorem mem_names_insert {f : Fields α} {name : String} {value : α} {other : String} :
    other ∈ (f.insert name value).names ↔ other = name ∨ other ∈ f.names := by
  rw [names_insert]
  split
  · rename_i hmem
    constructor
    · exact Or.inr
    · rintro (rfl | h)
      · exact hmem
      · exact h
  · simp [or_comm]

/-! ### Building fields from a list -/

theorem ofList_append_singleton (entries : List (String × α)) (e : String × α) :
    ofList (entries ++ [e]) = (ofList entries).insert e.1 e.2 := by
  rw [ofList, List.foldl_append]
  rfl

theorem mem_names_ofList {entries : List (String × α)} {name : String} :
    name ∈ (ofList entries).names ↔ name ∈ entries.map Prod.fst := by
  induction entries using List.reverseRecOn with
  | nil => simp [ofList, empty]
  | append_singleton entries e ih =>
      rw [ofList_append_singleton, mem_names_insert, ih, List.map_append, List.mem_append]
      simp [or_comm]

/-- Entries whose names are distinct are taken as they are. -/
theorem entries_ofList {entries : List (String × α)} (h : (entries.map Prod.fst).Nodup) :
    (ofList entries).entries = entries := by
  induction entries using List.reverseRecOn with
  | nil => rfl
  | append_singleton entries e ih =>
      rw [List.map_append, List.map_singleton] at h
      have hnew : e.1 ∉ (ofList entries).names := by
        rw [mem_names_ofList]
        exact fun hc => (List.nodup_append.1 h).2.2 _ hc _ (List.mem_singleton_self _) rfl
      rw [ofList_append_singleton, entries_insert_of_not_mem hnew, ih (List.nodup_append.1 h).1]

/-- The names stand in the order in which they first come up. -/
theorem names_ofList (entries : List (String × α)) :
    (ofList entries).names = (entries.map Prod.fst).eraseDups := by
  induction entries using List.reverseRecOn with
  | nil => rfl
  | append_singleton entries e ih =>
      rw [ofList_append_singleton, names_insert, ih, List.map_append, List.map_singleton,
        List.eraseDups_append]
      by_cases hmem : e.1 ∈ entries.map Prod.fst
      · rw [if_pos (List.mem_eraseDups.2 hmem)]
        simp [List.removeAll, hmem]
      · rw [if_neg (mt List.mem_eraseDups.1 hmem)]
        simp [List.removeAll, List.eraseDups_cons, hmem]

/-- Each has the value it comes up with last. -/
theorem get?_ofList (entries : List (String × α)) (name : String) :
    (ofList entries).get? name =
      (entries.filter fun e => e.1 == name).getLast?.map Prod.snd := by
  induction entries using List.reverseRecOn with
  | nil => rfl
  | append_singleton entries e ih =>
      rw [ofList_append_singleton, get?_insert, ih, List.filter_append]
      by_cases hname : e.1 = name
      · have hlast : [e].filter (fun e => e.1 == name) = [e] := by simp [hname]
        rw [if_pos hname.symm, hlast, List.getLast?_concat]
        rfl
      · have hnone : [e].filter (fun e => e.1 == name) = [] := by simp [hname]
        rw [if_neg (Ne.symm hname), hnone, List.append_nil]

theorem ofList_entries (f : Fields α) : ofList f.entries = f :=
  ext (entries_ofList f.nodup_entries)

end Conform.Fields
