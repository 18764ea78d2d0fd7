/-
Rebuilding a container piece by piece is rebuilding it at once.

Containers are copied at the first change and written into from there, and a record is not
even begun before that.  Each way of doing so is shown here to end with what one pass over
the outputs gives, and to end with nothing if no output is new.
-/
import Conform.Proofs.Fields
import Conform.Schema.Entries
import Conform.Schema.Object
import Conform.Schema.Sequence

namespace Conform

theorem Output.new?_eq_none_iff {output : Output} : output.new? = none ↔ output = .kept := by
  cases output <;> simp [new?]

theorem Output.getD_new? (output : Output) (v : Value) : output.new?.getD v = output.resolve v := by
  cases output <;> rfl

theorem Output.isKept_iff {output : Output} : output.isKept = true ↔ output = .kept := by
  cases output <;> simp [isKept]

/-! ### Lists -/

variable {α : Type}

/-- The step of `copyOnWrite`. -/
private theorem copyOnWrite_foldl {source : List α} {writes : List (Option α)} :
    ∀ (copy : Option (List α)) (before after : List α),
      copy.getD source = before ++ after → writes.length = after.length →
      ((writes.zipIdx before.length).foldl (fun copy write =>
        match write.1 with
        | none => copy
        | some item => some ((copy.getD source).set write.2 item)) copy).getD source =
          before ++ List.zipWith Option.getD writes after := by
  -- What stands before the position has been written already, and what is there from it on is
  -- still as it was.
  induction writes with
  | nil =>
      intro copy before after hcopy hlength
      rw [List.length_nil, eq_comm, List.length_eq_zero_iff] at hlength
      rw [hlength] at hcopy
      simpa using hcopy
  | cons write rest ih =>
      intro copy before after hcopy hlength
      cases after with
      | nil => simp at hlength
      | cons item after =>
          rw [List.length_cons, List.length_cons, Nat.add_right_cancel_iff] at hlength
          rw [List.zipIdx_cons, List.foldl_cons, List.zipWith_cons_cons]
          cases write with
          | none =>
              have hstep := ih copy (before ++ [item]) after
                (by rw [hcopy, List.append_assoc, List.singleton_append]) hlength
              rw [List.length_append, List.length_singleton] at hstep
              rw [hstep, List.append_assoc, List.singleton_append]
              rfl
          | some new =>
              have hset : (copy.getD source).set before.length new =
                  (before ++ [new]) ++ after := by
                rw [hcopy, List.set_append_right _ _ (Nat.le_refl _), Nat.sub_self,
                  List.set_cons_zero, List.append_assoc, List.singleton_append]
              have hstep := ih (some ((copy.getD source).set before.length new))
                (before ++ [new]) after hset hlength
              rw [List.length_append, List.length_singleton] at hstep
              rw [hstep, List.append_assoc, List.singleton_append]
              rfl

/-- The copy has what was written, and what it was copied from everywhere else. -/
theorem copyOnWrite_getD {source : List α} {writes : List (Option α)}
    (h : writes.length = source.length) :
    (copyOnWrite source writes).getD source = List.zipWith Option.getD writes source :=
  copyOnWrite_foldl none [] source rfl h

theorem copyOnWrite_eq_none_iff {source : List α} {writes : List (Option α)} :
    copyOnWrite source writes = none ↔ ∀ write ∈ writes, write = none := by
  induction writes using List.reverseRecOn with
  | nil => exact iff_of_true rfl (List.forall_mem_nil _)
  | append_singleton writes write ih =>
      rw [List.forall_mem_append, List.forall_mem_singleton, ← ih, copyOnWrite, List.zipIdx_append,
        List.foldl_append]
      cases write with
      | none => exact (and_iff_left rfl).symm
      | some item => exact iff_of_false nofun fun h => nomatch h.2

/-! ### Arrays and sets -/

theorem rebuildItems_getD {items : List Value} {outputs : List Output}
    (h : outputs.length = items.length) :
    (rebuildItems items outputs).getD items = List.zipWith Output.resolve outputs items := by
  rw [rebuildItems, copyOnWrite_getD (by rw [List.length_map, h]), List.zipWith_map_left]
  simp only [Output.getD_new?]

theorem rebuildItems_eq_none_iff {items : List Value} {outputs : List Output} :
    rebuildItems items outputs = none ↔ ∀ output ∈ outputs, output = .kept := by
  rw [rebuildItems, copyOnWrite_eq_none_iff, List.forall_mem_map]
  simp only [Output.new?_eq_none_iff]

/-! ### Entries

A map and a record have two outputs for every entry, that of its key before that of its
value.
-/

/-- The outputs of entries in the order they are visited. -/
def inTurn (pairs : List (Output × Output)) : List Output :=
  pairs.flatMap fun p => [p.1, p.2]

theorem forall_mem_inTurn {P : Output → Prop} {pairs : List (Output × Output)} :
    (∀ output ∈ inTurn pairs, P output) ↔ ∀ p ∈ pairs, P p.1 ∧ P p.2 := by
  rw [inTurn, List.forall_mem_flatMap]
  refine forall₂_congr fun p _ => ?_
  rw [List.forall_mem_cons, List.forall_mem_singleton]

/-- The entry with its outputs in place. -/
def resolveEntry (p : Output × Output) (e : Value × Value) : Value × Value :=
  (p.1.resolve e.1, p.2.resolve e.2)

theorem changedEntries_cons {p : Output × Output} {e : Value × Value}
    {pairs : List (Output × Output)} {entries : List (Value × Value)} :
    changedEntries (inTurn (p :: pairs)) (e :: entries) =
      (if p.1.isKept && p.2.isKept then none else some (resolveEntry p e)) ::
        changedEntries (inTurn pairs) entries :=
  rfl

theorem changedEntries_getD {pairs : List (Output × Output)} {entries : List (Value × Value)}
    (h : pairs.length = entries.length) :
    (copyOnWrite entries (changedEntries (inTurn pairs) entries)).getD entries =
      List.zipWith resolveEntry pairs entries := by
  have hchanged : (changedEntries (inTurn pairs) entries).length = entries.length ∧
      List.zipWith Option.getD (changedEntries (inTurn pairs) entries) entries =
        List.zipWith resolveEntry pairs entries := by
    induction pairs generalizing entries with
    | nil =>
        rw [List.length_nil, eq_comm, List.length_eq_zero_iff] at h
        rw [h]
        exact ⟨rfl, rfl⟩
    | cons p rest ih =>
        cases entries with
        | nil => simp at h
        | cons e entries =>
            rw [List.length_cons, List.length_cons, Nat.add_right_cancel_iff] at h
            obtain ⟨hlength, hzip⟩ := ih h
            rw [changedEntries_cons, List.length_cons, hlength, List.zipWith_cons_cons,
              List.zipWith_cons_cons, hzip]
            refine ⟨rfl, congrArg (· :: _) ?_⟩
            obtain ⟨key, value⟩ := p
            cases key <;> cases value <;> rfl
  rw [copyOnWrite_getD hchanged.1, hchanged.2]

theorem changedEntries_of_kept {outputs : List Output} {entries : List (Value × Value)}
    (h : ∀ output ∈ outputs, output = .kept) :
    copyOnWrite entries (changedEntries outputs entries) = none := by
  refine copyOnWrite_eq_none_iff.2 ?_
  fun_induction changedEntries outputs entries with
  | case1 key value outputs e entries ih =>
      rw [List.forall_mem_cons, List.forall_mem_cons] at h
      obtain ⟨rfl, rfl, hrest⟩ := h
      rw [List.forall_mem_cons]
      exact ⟨rfl, ih hrest⟩
  | case2 => exact fun write hwrite => absurd hwrite List.not_mem_nil

/-- Where every entry has its pair of outputs, nothing else leaves the entries alone. -/
theorem changedEntries_eq_none_iff {pairs : List (Output × Output)}
    {entries : List (Value × Value)} (h : pairs.length = entries.length) :
    copyOnWrite entries (changedEntries (inTurn pairs) entries) = none ↔
      ∀ p ∈ pairs, p.1 = .kept ∧ p.2 = .kept := by
  refine ⟨fun hnone => ?_, fun hkept => changedEntries_of_kept (forall_mem_inTurn.2 hkept)⟩
  rw [copyOnWrite_eq_none_iff] at hnone
  induction pairs generalizing entries with
  | nil => exact List.forall_mem_nil _
  | cons p rest ih =>
      cases entries with
      | nil => simp at h
      | cons e entries =>
          rw [changedEntries_cons, List.forall_mem_cons, ite_eq_left_iff] at hnone
          have hkept : (p.1.isKept && p.2.isKept) = true := by
            by_contra hnew
            cases hnone.1 hnew
          rw [Bool.and_eq_true, Output.isKept_iff, Output.isKept_iff] at hkept
          exact List.forall_mem_cons.2 ⟨hkept, ih (Nat.succ.inj h) hnone.2⟩

/-- The field with its outputs in place, those of the name and of the value. -/
def renameEntry (p : Output × Output) (e : String × Value) : String × Value :=
  (p.1.rename e.1, p.2.resolve e.2)

theorem rebuildFields_cons {source : Fields Value} {built : Option (Fields Value)} {i : Nat}
    {p : Output × Output} {e : String × Value} {pairs : List (Output × Output)}
    {entries : List (String × Value)} :
    rebuildFields source built i (inTurn (p :: pairs)) (e :: entries) =
      if built.isNone && p.1.isKept && p.2.isKept then
        rebuildFields source built (i + 1) (inTurn pairs) entries
      else
        rebuildFields source
          (some ((built.getD (Fields.ofList (source.entries.take i))).insert
            (p.1.rename e.1) (p.2.resolve e.2))) (i + 1) (inTurn pairs) entries :=
  rfl

/-- The step of `rebuildFields`.  What is built holds the fields before the position, as the
outputs before it have them, and if nothing is built yet they are as they were. -/
private theorem rebuildFields_getD_from {source : Fields Value} {pairs : List (Output × Output)} :
    ∀ (built : Option (Fields Value)) (before done entries : List (String × Value)),
      source.entries = before ++ entries → pairs.length = entries.length →
      built.getD (Fields.ofList before) = Fields.ofList done →
      (rebuildFields source built before.length (inTurn pairs) entries).getD source =
        Fields.ofList (done ++ List.zipWith renameEntry pairs entries) := by
  induction pairs with
  | nil =>
      intro built before done entries hsource hlength hbuilt
      rw [List.length_nil, eq_comm, List.length_eq_zero_iff] at hlength
      rw [hlength, List.append_nil] at hsource
      rw [← hsource, Fields.ofList_entries] at hbuilt
      rw [List.zipWith_nil_left, List.append_nil, ← hbuilt]
      rfl
  | cons p rest ih =>
      intro built before done entries hsource hlength hbuilt
      cases entries with
      | nil => simp at hlength
      | cons e entries =>
          rw [List.length_cons, List.length_cons, Nat.add_right_cancel_iff] at hlength
          have hsource' : source.entries = (before ++ [e]) ++ entries := by
            rw [hsource, List.append_assoc, List.singleton_append]
          have htake : source.entries.take before.length = before := by
            rw [hsource, List.take_left]
          rw [rebuildFields_cons, htake, hbuilt, List.zipWith_cons_cons, List.append_cons]
          have hposition : before.length + 1 = (before ++ [e]).length := by
            rw [List.length_append, List.length_singleton]
          rw [hposition]
          split
          · rename_i hkept
            rw [Bool.and_eq_true, Bool.and_eq_true, Option.isNone_iff_eq_none, Output.isKept_iff,
              Output.isKept_iff] at hkept
            obtain ⟨⟨rfl, hkey⟩, hvalue⟩ := hkept
            have hsame : renameEntry p e = e := by
              rw [renameEntry, hkey, hvalue]
              rfl
            -- Nothing is built yet, and what will be copied is longer by this entry.
            rw [hsame]
            refine ih _ _ _ _ hsource' hlength ?_
            rw [Option.getD_none] at hbuilt ⊢
            rw [Fields.ofList_append_singleton, Fields.ofList_append_singleton, hbuilt]
          · refine ih _ _ _ _ hsource' hlength ?_
            rw [Option.getD_some, Fields.ofList_append_singleton done]
            rfl

/-- However late it is begun, the record has every entry as its outputs have it. -/
theorem rebuildFields_getD {source : Fields Value} {pairs : List (Output × Output)}
    (h : pairs.length = source.entries.length) :
    (rebuildFields source none 0 (inTurn pairs) source.entries).getD source =
      Fields.ofList (List.zipWith renameEntry pairs source.entries) :=
  rebuildFields_getD_from none [] [] source.entries rfl h rfl

theorem rebuildFields_of_kept {source : Fields Value} {outputs : List Output} {i : Nat}
    {entries : List (String × Value)} (h : ∀ output ∈ outputs, output = .kept) :
    rebuildFields source none i outputs entries = none := by
  induction entries generalizing i outputs with
  | nil =>
      match outputs with
      | [] | [_] | _ :: _ :: _ => rfl
  | cons e entries ih =>
      match outputs with
      | [] | [_] => rfl
      | key :: value :: outputs =>
          rw [List.forall_mem_cons, List.forall_mem_cons] at h
          obtain ⟨rfl, rfl, hrest⟩ := h
          exact ih hrest

private theorem rebuildFields_some_ne_none {source built : Fields Value} {i : Nat}
    {outputs : List Output} {entries : List (String × Value)} :
    rebuildFields source (some built) i outputs entries ≠ none := by
  induction entries generalizing i outputs built with
  | nil =>
      match outputs with
      | [] | [_] | _ :: _ :: _ => exact Option.some_ne_none built
  | cons e entries ih =>
      match outputs with
      | [] | [_] => exact Option.some_ne_none built
      | key :: value :: outputs => exact ih

/-- Where every field has its pair of outputs, nothing else leaves the record alone. -/
theorem rebuildFields_eq_none_iff {source : Fields Value} {pairs : List (Output × Output)}
    {i : Nat} {entries : List (String × Value)} (h : pairs.length = entries.length) :
    rebuildFields source none i (inTurn pairs) entries = none ↔
      ∀ p ∈ pairs, p.1 = .kept ∧ p.2 = .kept := by
  refine ⟨fun hnone => ?_, fun hkept => rebuildFields_of_kept (forall_mem_inTurn.2 hkept)⟩
  induction pairs generalizing i entries with
  | nil => exact List.forall_mem_nil _
  | cons p rest ih =>
      cases entries with
      | nil => simp at h
      | cons e entries =>
          rw [rebuildFields_cons, Option.isNone_none, Bool.true_and] at hnone
          split at hnone
          · rename_i hkept
            rw [Bool.and_eq_true, Output.isKept_iff, Output.isKept_iff] at hkept
            exact List.forall_mem_cons.2 ⟨hkept, ih (Nat.succ.inj h) hnone⟩
          · exact absurd hnone rebuildFields_some_ne_none

/-! ### Objects -/

variable {fields : Fields Value} {updates : List (String × Output)} {name : String}
  {output : Output}

theorem changedFields_append_singleton (e : String × Output) :
    (changedFields fields (updates ++ [e])).getD fields =
      match e.2 with
      | .kept => (changedFields fields updates).getD fields
      | .replaced v => ((changedFields fields updates).getD fields).insert e.1 v := by
  rw [changedFields, List.foldl_append]
  obtain ⟨name, output⟩ := e
  cases output <;> rfl

theorem get?_changedFields_append_singleton (e : String × Output) :
    ((changedFields fields (updates ++ [e])).getD fields).get? name =
      if name = e.1 then e.2.new?.or (((changedFields fields updates).getD fields).get? name)
      else ((changedFields fields updates).getD fields).get? name := by
  rw [changedFields_append_singleton]
  obtain ⟨other, output⟩ := e
  cases output with
  | kept => simp [Output.new?]
  | replaced v =>
      rw [Fields.get?_insert]
      rfl

theorem get?_changedFields_of_not_mem (h : name ∉ updates.map Prod.fst) :
    ((changedFields fields updates).getD fields).get? name = fields.get? name := by
  induction updates using List.reverseRecOn with
  | nil => rfl
  | append_singleton updates e ih =>
      rw [List.map_append, List.map_singleton, List.mem_append, List.mem_singleton, not_or] at h
      rw [get?_changedFields_append_singleton, if_neg h.2, ih h.1]

/-- A field is what was made for it, or else as it was. -/
theorem get?_changedFields (hdistinct : (updates.map Prod.fst).Nodup)
    (h : (name, output) ∈ updates) :
    ((changedFields fields updates).getD fields).get? name =
      output.new?.or (fields.get? name) := by
  induction updates using List.reverseRecOn with
  | nil => exact absurd h List.not_mem_nil
  | append_singleton updates e ih =>
      rw [List.map_append, List.map_singleton, List.nodup_append] at hdistinct
      obtain ⟨hbefore, -, hnew⟩ := hdistinct
      have hlast : e.1 ∉ updates.map Prod.fst :=
        fun hc => hnew _ hc _ (List.mem_singleton_self _) rfl
      rw [get?_changedFields_append_singleton]
      rcases List.mem_append.1 h with hmem | hmem
      · have hname : name ≠ e.1 := by
          rintro rfl
          exact hlast (List.mem_map.2 ⟨_, hmem, rfl⟩)
        rw [if_neg hname, ih hbefore hmem]
      · rw [List.mem_singleton] at hmem
        subst hmem
        rw [if_pos rfl, get?_changedFields_of_not_mem hlast]

theorem changedFields_eq_none_iff :
    changedFields fields updates = none ↔ ∀ e ∈ updates, e.2 = .kept := by
  induction updates using List.reverseRecOn with
  | nil => exact iff_of_true rfl (List.forall_mem_nil _)
  | append_singleton updates e ih =>
      rw [List.forall_mem_append, List.forall_mem_singleton, ← ih, changedFields,
        List.foldl_append]
      obtain ⟨name, output⟩ := e
      cases output with
      | kept => exact (and_iff_left rfl).symm
      | replaced v => exact iff_of_false nofun fun h => nomatch h.2

/-- Stripping an object that has undeclared fields takes these away, and nothing else. -/
theorem get?_rebuildObject {α : Type} {properties : Fields α} {extras : Extras α} :
    ((rebuildObject properties extras fields updates).getD fields).get? name =
      if extras.isStrip && !(undeclared properties fields).isEmpty && !properties.contains name
      then none
      else ((changedFields fields updates).getD fields).get? name := by
  unfold rebuildObject
  cases hstrip : extras.isStrip && !(undeclared properties fields).isEmpty with
  | false => rfl
  | true =>
      rw [if_pos rfl, Option.getD_some, Fields.get?_filter_name]
      cases properties.contains name <;> rfl

/-- An object of which nothing changes is not rebuilt, unless it has fields to drop. -/
theorem rebuildObject_of_kept {α : Type} {properties : Fields α} {extras : Extras α}
    {names : List String} {outputs : List Output}
    (hstrip : extras.isStrip = false ∨ undeclared properties fields = [])
    (h : ∀ output ∈ outputs, output = .kept) :
    rebuildObject properties extras fields (names.zip outputs) = none := by
  unfold rebuildObject
  rw [if_neg]
  · exact changedFields_eq_none_iff.2 fun e he => h _ (List.of_mem_zip he).2
  · rcases hstrip with hstrip | hnone
    · simp [hstrip]
    · simp [hnone]

end Conform
