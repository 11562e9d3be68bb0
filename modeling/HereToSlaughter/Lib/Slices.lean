import Mathlib.Data.List.Perm.Basic
import Mathlib.Data.List.Nodup

/-!
# A list that is sent on in slices

A list that only grows is numbered from one, and what has been added since the last time is taken
off it, again and again. Whatever the list had grown to at each of these times, the slices put
together are the numbered list up to where it was last drained (`Sliced`): none of it is missing and
none of it is there twice. A table that takes in the slices by number, a number that is taken left
alone, holds each entry of the slices it has taken in once, in whatever order and however often they
come (`Holds`).

Nothing in this file is about a particular program.
-/

namespace Lib

variable {α : Type}

/-! ## Numbers -/

/-- The list, each entry with its place in it, counted from one. -/
def numbered (l : List α) : List (Nat × α) := l.mapIdx fun i a => (i + 1, a)

/-- Nothing is numbered by nothing. -/
@[simp] theorem numbered_nil : numbered ([] : List α) = [] := rfl

/-- Numbering leaves the length. -/
@[simp] theorem length_numbered (l : List α) : (numbered l).length = l.length := List.length_mapIdx

/-- What is added is numbered on. -/
theorem numbered_append (l l' : List α) :
    numbered (l ++ l') = numbered l ++ l'.mapIdx fun i a => (i + l.length + 1, a) :=
  List.mapIdx_append

/-- What comes later does not renumber what was there. -/
theorem numbered_grow {l l' : List α} (h : l <+: l') : numbered l <+: numbered l' := by
  obtain ⟨added, rfl⟩ := h
  exact ⟨_, (numbered_append l added).symm⟩

/-- The numbers off, the list is left. -/
@[simp] theorem map_snd_numbered (l : List α) : (numbered l).map Prod.snd = l := by
  refine List.ext_getElem (by simp) fun i h h' => ?_
  simp [numbered]

/-- What is read off each entry and its place is read off the numbered list. -/
theorem mapIdx_eq_map_numbered {β : Type} (f : Nat → α → β) (l : List α) :
    l.mapIdx (fun i a => f (i + 1) a) = (numbered l).map fun entry => f entry.1 entry.2 := by
  refine List.ext_getElem (by simp) fun i h h' => ?_
  simp [numbered]

/-- What is mapped keeps its number. -/
theorem numbered_map {β : Type} (f : α → β) (l : List α) :
    numbered (l.map f) = (numbered l).map fun entry => (entry.1, f entry.2) := by
  refine List.ext_getElem (by simp) fun i h h' => ?_
  simp [numbered]

/-- No number is given twice. -/
theorem nodup_numbered (l : List α) : ((numbered l).map Prod.fst).Nodup := by
  have hmap : (numbered l).map Prod.fst = (List.range l.length).map (· + 1) := by
    refine List.ext_getElem (by simp) fun i h h' => ?_
    simp [numbered]
  rw [hmap]
  exact List.nodup_range.map (fun _ _ h => Nat.succ.inj h)

/-! ## Slices -/

/-- These slices have been taken off the list, which was drained up to here. -/
structure Sliced (l : List α) (drained : Nat) (slices : List (List (Nat × α))) : Prop where
  le : drained ≤ l.length
  flatten : slices.flatten = (numbered l).take drained

namespace Sliced

variable {l l' : List α} {drained : Nat} {slices : List (List (Nat × α))}

/-- Nothing has been drained yet. -/
theorem nil (l : List α) : Sliced l 0 [] := ⟨Nat.zero_le _, by simp⟩

/-- The list grows. -/
theorem grow (h : Sliced l drained slices) (hgrows : l <+: l') : Sliced l' drained slices := by
  obtain ⟨added, rfl⟩ := hgrows
  refine ⟨Nat.le_trans h.le (by simp), h.flatten.trans ?_⟩
  rw [numbered_append, List.take_append_of_le_length]
  rw [length_numbered]
  exact h.le

/-- What has been added since is taken off. -/
theorem drain (h : Sliced l drained slices) :
    Sliced l l.length (slices ++ [(numbered l).drop drained]) := by
  refine ⟨Nat.le_refl _, ?_⟩
  rw [List.flatten_append, h.flatten, List.flatten_singleton, List.take_append_drop,
    List.take_of_length_le (Nat.le_of_eq (length_numbered l))]

/-- An entry of a slice is an entry of the list. -/
theorem mem (h : Sliced l drained slices) {slice : List (Nat × α)} (hslice : slice ∈ slices)
    {entry : Nat × α} (hentry : entry ∈ slice) : entry ∈ numbered l := by
  have hmem : entry ∈ slices.flatten := List.mem_flatten.2 ⟨slice, hslice, hentry⟩
  rw [h.flatten] at hmem
  exact List.mem_of_mem_take hmem

/-- A list that has been drained to its end is in its slices. -/
theorem mem_of_drained (h : Sliced l drained slices) (hall : drained = l.length)
    {entry : Nat × α} (hentry : entry ∈ numbered l) : ∃ slice ∈ slices, entry ∈ slice := by
  refine List.mem_flatten.1 (h.flatten ▸ ?_)
  rwa [hall, List.take_of_length_le (Nat.le_of_eq (length_numbered l))]

end Sliced

/-! ## A table that takes slices in -/

/-- The table holds entries of the list, none twice. -/
structure Holds (l : List α) (table : List (Nat × α)) : Prop where
  nodup : (table.map Prod.fst).Nodup
  sub : ∀ entry ∈ table, entry ∈ numbered l

namespace Holds

variable {l l' : List α} {table : List (Nat × α)}

/-- A table with no slice holds nothing. -/
theorem nil (l : List α) : Holds l [] := ⟨.nil, fun _ h => by cases h⟩

/-- The list may grow under the table. -/
theorem grow (h : Holds l table) (hgrows : l <+: l') : Holds l' table :=
  ⟨h.nodup, fun entry hentry => (numbered_grow hgrows).subset (h.sub entry hentry)⟩

/-- Entries of one list agree when their numbers do. -/
theorem eq_of_fst {entry entry' : Nat × α} (h : entry ∈ numbered l) (h' : entry' ∈ numbered l)
    (hfst : entry.1 = entry'.1) : entry = entry' :=
  List.inj_on_of_nodup_map (nodup_numbered l) h h' hfst

/-- An entry whose number is free goes in. -/
theorem insert (h : Holds l table) {entry : Nat × α} (hentry : entry ∈ numbered l)
    (hfree : entry.1 ∉ table.map Prod.fst) : Holds l (table ++ [entry]) where
  nodup := by
    rw [List.map_append, List.nodup_append]
    refine ⟨h.nodup, List.nodup_singleton _, fun n hn m hm hnm => hfree ?_⟩
    rw [List.map_singleton, List.mem_singleton] at hm
    exact (hm ▸ hnm) ▸ hn
  sub other hother := by
    obtain hother | hother := List.mem_append.1 hother
    · exact h.sub other hother
    · exact List.mem_singleton.1 hother ▸ hentry

/-- A table that has all of the list is the numbered list, up to the order. -/
theorem perm (h : Holds l table) (hall : ∀ entry ∈ numbered l, entry ∈ table) :
    table.Perm (numbered l) :=
  (List.perm_ext_iff_of_nodup (.of_map _ h.nodup) (.of_map _ (nodup_numbered l))).2
    fun entry => ⟨h.sub entry, hall entry⟩

end Holds

end Lib
