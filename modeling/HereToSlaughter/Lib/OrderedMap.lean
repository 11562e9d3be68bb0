import Mathlib

/-!
# Insertion-ordered maps

A finite map that remembers the order in which its keys were first set: the meaning of a
JavaScript `Map`, and of an object used as a dictionary. `OrderedMap κ α` is a list of entries
with distinct keys; the distinctness is a field (`OrderedMap.nodup`), so every operation
re-establishes it and no client proves it again. `set` keeps the place of a key that is already
there and appends a new one, `modify` changes a value in place, `erase` forgets a key.

Nothing in this file is about a particular program.
-/

namespace Lib

/-- A finite map in insertion order. -/
structure OrderedMap (κ α : Type) where
  /-- The entries, in the order their keys were first set. -/
  entries : List (κ × α)
  /-- No key occurs twice. -/
  nodup : (entries.map Prod.fst).Nodup

namespace OrderedMap

variable {κ α : Type}

/-- Two maps with the same entries are equal. -/
@[ext] theorem ext {m m' : OrderedMap κ α} (h : m.entries = m'.entries) : m = m' := by
  cases m; cases m'; cases h; rfl

instance [DecidableEq κ] [DecidableEq α] : DecidableEq (OrderedMap κ α) := fun m m' =>
  decidable_of_iff (m.entries = m'.entries) ⟨ext, congrArg _⟩

/-- The empty map. -/
def empty : OrderedMap κ α := ⟨[], .nil⟩

instance : Inhabited (OrderedMap κ α) := ⟨empty⟩

/-- The keys, in insertion order. -/
def keys (m : OrderedMap κ α) : List κ := m.entries.map Prod.fst

/-- The values, in insertion order. -/
def values (m : OrderedMap κ α) : List α := m.entries.map Prod.snd

/-- Changing each value in place leaves the keys alone. -/
theorem map_fst_mapValue (f : κ → α → α) (l : List (κ × α)) :
    (l.map fun e => (e.1, f e.1 e.2)).map Prod.fst = l.map Prod.fst := by
  simp [List.map_map, Function.comp_def]

/-- Change every value in place. -/
def mapValues (f : κ → α → α) (m : OrderedMap κ α) : OrderedMap κ α where
  entries := m.entries.map fun e => (e.1, f e.1 e.2)
  nodup := by rw [map_fst_mapValue]; exact m.nodup

variable [DecidableEq κ]

/-- The value at a key. -/
def get? (m : OrderedMap κ α) (k : κ) : Option α :=
  (m.entries.find? fun e => e.1 = k).map Prod.snd

/-- Whether a key is set. -/
def has (m : OrderedMap κ α) (k : κ) : Bool := m.entries.any fun e => e.1 = k

/-- Change the value at one key in place; nothing happens when the key is not set. -/
def modify (m : OrderedMap κ α) (k : κ) (f : α → α) : OrderedMap κ α :=
  m.mapValues fun k' v => if k' = k then f v else v

/-- Set a key: in place when it is there, at the end when it is new. -/
def set (m : OrderedMap κ α) (k : κ) (v : α) : OrderedMap κ α :=
  if h : k ∈ m.entries.map Prod.fst then m.modify k fun _ => v
  else ⟨m.entries ++ [(k, v)], by
    rw [List.map_append, List.nodup_append]
    refine ⟨m.nodup, by simp, fun a ha b hb hab => ?_⟩
    simp only [List.map_cons, List.map_nil, List.mem_singleton] at hb
    exact h (hb ▸ hab ▸ ha)⟩

/-- Forget a key. -/
def erase (m : OrderedMap κ α) (k : κ) : OrderedMap κ α where
  entries := m.entries.filter fun e => e.1 ≠ k
  nodup := m.nodup.sublist (List.Sublist.map _ List.filter_sublist)

/-- The entries that pass a test. -/
def filter (p : κ → α → Bool) (m : OrderedMap κ α) : OrderedMap κ α where
  entries := m.entries.filter fun e => p e.1 e.2
  nodup := m.nodup.sublist (List.Sublist.map _ List.filter_sublist)

/-- A map built by setting a list of entries in turn. -/
def ofList (l : List (κ × α)) : OrderedMap κ α := l.foldl (fun m e => m.set e.1 e.2) empty

/-! ## What each operation does to the entries -/

omit [DecidableEq κ] in
/-- The empty map has no entries. -/
@[simp] theorem entries_empty : (empty : OrderedMap κ α).entries = [] := rfl

omit [DecidableEq κ] in
/-- Mapped values keep their places. -/
@[simp] theorem entries_mapValues (m : OrderedMap κ α) (f : κ → α → α) :
    (m.mapValues f).entries = m.entries.map fun e => (e.1, f e.1 e.2) := rfl

/-- A modified value keeps its place. -/
@[simp] theorem entries_modify (m : OrderedMap κ α) (k : κ) (f : α → α) :
    (m.modify k f).entries = m.entries.map fun e => (e.1, if e.1 = k then f e.2 else e.2) := rfl

/-- An erased key leaves the order of the others. -/
@[simp] theorem entries_erase (m : OrderedMap κ α) (k : κ) :
    (m.erase k).entries = m.entries.filter fun e => e.1 ≠ k := rfl

omit [DecidableEq κ] in
/-- So does a filter. -/
@[simp] theorem entries_filter (p : κ → α → Bool) (m : OrderedMap κ α) :
    (m.filter p).entries = m.entries.filter fun e => p e.1 e.2 := rfl

/-- A new key goes to the end. -/
theorem entries_set_of_notMem {m : OrderedMap κ α} {k : κ} (h : k ∉ m.keys) (v : α) :
    (m.set k v).entries = m.entries ++ [(k, v)] := by
  have h' : k ∉ m.entries.map Prod.fst := h
  simp only [set, h', dite_false]

/-- A key that is there keeps its place. -/
theorem set_of_mem {m : OrderedMap κ α} {k : κ} (h : k ∈ m.keys) (v : α) :
    m.set k v = m.modify k fun _ => v := by
  have h' : k ∈ m.entries.map Prod.fst := h
  simp only [set, h', dite_true]

/-- An entry after a `set` was there before, or is the one set. -/
theorem mem_entries_set {m : OrderedMap κ α} {k : κ} {v : α} {e : κ × α}
    (h : e ∈ (m.set k v).entries) : e ∈ m.entries ∨ e = (k, v) := by
  by_cases hk : k ∈ m.keys
  · rw [set_of_mem hk, entries_modify] at h
    obtain ⟨e', he', rfl⟩ := List.mem_map.1 h
    by_cases hkey : e'.1 = k
    · exact .inr (by simp [hkey])
    · exact .inl (by simpa [hkey] using he')
  · rw [entries_set_of_notMem hk] at h
    exact (List.mem_append.1 h).imp id List.mem_singleton.1

/-- Entries whose keys are new and distinct are added at the end, in order. -/
theorem entries_foldl_set : ∀ {l : List (κ × α)} {m : OrderedMap κ α},
    (m.keys ++ l.map Prod.fst).Nodup →
    (l.foldl (fun m e => m.set e.1 e.2) m).entries = m.entries ++ l
  | [], _, _ => (List.append_nil _).symm
  | e :: l, m, hnodup => by
    have hnew : e.1 ∉ m.keys := fun hmem =>
      (List.nodup_append.1 hnodup).2.2 _ hmem _ List.mem_cons_self rfl
    have hentries := entries_set_of_notMem hnew e.2
    have hkeys : (m.set e.1 e.2).keys = m.keys ++ [e.1] := by
      rw [keys, hentries, List.map_append]
      rfl
    have hnodup' : ((m.set e.1 e.2).keys ++ l.map Prod.fst).Nodup := by
      rw [hkeys, List.append_assoc]
      exact hnodup
    rw [List.foldl_cons, entries_foldl_set hnodup', hentries, List.append_assoc]
    rfl

/-- Entries with distinct keys are kept as they are. -/
theorem entries_ofList {l : List (κ × α)} (h : (l.map Prod.fst).Nodup) : (ofList l).entries = l :=
  (entries_foldl_set (show ((empty : OrderedMap κ α).keys ++ l.map Prod.fst).Nodup from h)).trans
    (List.nil_append _)

/-- What is in a map after settings was in it before, or was set. -/
theorem mem_entries_foldl_set : ∀ {l : List (κ × α)} {m : OrderedMap κ α} {e : κ × α},
    e ∈ (l.foldl (fun m e => m.set e.1 e.2) m).entries → e ∈ m.entries ∨ e ∈ l
  | [], _, _, h => .inl h
  | e' :: l, m, e, h => by
    rcases mem_entries_foldl_set (l := l) (m := m.set e'.1 e'.2) h with h | h
    · rcases mem_entries_set h with h | rfl
      · exact .inl h
      · exact .inr List.mem_cons_self
    · exact .inr (List.mem_cons_of_mem _ h)

/-- An entry of the map of a list is one of the list. -/
theorem mem_of_mem_ofList {l : List (κ × α)} {e : κ × α} (h : e ∈ (ofList l).entries) : e ∈ l :=
  (mem_entries_foldl_set h).resolve_left fun h => nomatch h

/-! ## Keys -/

/-- A modified value keeps its key. -/
@[simp] theorem keys_modify (m : OrderedMap κ α) (k : κ) (f : α → α) :
    (m.modify k f).keys = m.keys :=
  map_fst_mapValue (fun k' v => if k' = k then f v else v) m.entries

omit [DecidableEq κ] in
/-- Mapped values keep their keys. -/
@[simp] theorem keys_mapValues (m : OrderedMap κ α) (f : κ → α → α) :
    (m.mapValues f).keys = m.keys := map_fst_mapValue f m.entries

omit [DecidableEq κ] in
/-- The key of an entry is a key. -/
theorem mem_keys_of_mem {m : OrderedMap κ α} {e : κ × α} (h : e ∈ m.entries) : e.1 ∈ m.keys :=
  List.mem_map_of_mem h

/-- `has` decides membership among the keys. -/
theorem has_eq_decide (m : OrderedMap κ α) (k : κ) : m.has k = decide (k ∈ m.keys) := by
  rw [Bool.eq_iff_iff]
  simp only [has, keys, List.any_eq_true, decide_eq_true_eq, List.mem_map]

/-- `has` asks for a key. -/
theorem has_iff {m : OrderedMap κ α} {k : κ} : m.has k = true ↔ k ∈ m.keys := by
  simp [has_eq_decide]

omit [DecidableEq κ] in
/-- No key is there twice. -/
theorem nodup_keys (m : OrderedMap κ α) : m.keys.Nodup := m.nodup

/-- An erased key is gone, and no other. -/
theorem mem_keys_erase {m : OrderedMap κ α} {k k' : κ} :
    k' ∈ (m.erase k).keys ↔ k' ∈ m.keys ∧ k' ≠ k := by
  simp only [keys, entries_erase, List.mem_map, List.mem_filter, decide_eq_true_eq, ne_eq]
  constructor
  · rintro ⟨e, ⟨he, hne⟩, rfl⟩; exact ⟨⟨e, he, rfl⟩, hne⟩
  · rintro ⟨⟨e, he, rfl⟩, hne⟩; exact ⟨e, ⟨he, hne⟩, rfl⟩

/-! ## Lookup -/

omit [DecidableEq κ] in
/-- A key determines its entry. -/
theorem entry_unique {m : OrderedMap κ α} {k : κ} {v v' : α} (h : (k, v) ∈ m.entries)
    (h' : (k, v') ∈ m.entries) : v = v' := by
  have := List.inj_on_of_nodup_map m.nodup h h' rfl
  exact congrArg Prod.snd this

/-- Lookup finds exactly the entry of the key. -/
theorem get?_eq_some {m : OrderedMap κ α} {k : κ} {v : α} :
    m.get? k = some v ↔ (k, v) ∈ m.entries := by
  constructor
  · intro h
    obtain ⟨e, he, rfl⟩ := Option.map_eq_some_iff.1 h
    have hk : e.1 = k := by simpa using List.find?_some he
    exact hk ▸ List.mem_of_find?_eq_some he
  · intro h
    have hs : (m.entries.find? fun e => e.1 = k).isSome := by
      rw [List.find?_isSome]; exact ⟨(k, v), h, by simp⟩
    obtain ⟨e, he⟩ := Option.isSome_iff_exists.1 hs
    have hk : e.1 = k := by simpa using List.find?_some he
    have hm : (k, e.2) ∈ m.entries := hk ▸ List.mem_of_find?_eq_some he
    rw [get?, he, Option.map_some, entry_unique hm h]

/-- A look-up fails where the key is not there. -/
theorem get?_eq_none {m : OrderedMap κ α} {k : κ} : m.get? k = none ↔ k ∉ m.keys := by
  rw [get?, Option.map_eq_none_iff, List.find?_eq_none]
  simp only [keys, List.mem_map, not_exists, not_and, decide_eq_true_eq]

/-- It succeeds where it is. -/
theorem get?_isSome {m : OrderedMap κ α} {k : κ} : (m.get? k).isSome ↔ k ∈ m.keys := by
  rw [Option.isSome_iff_ne_none, ne_eq, get?_eq_none, not_not]

omit [DecidableEq κ] in
/-- A value stands under some key. -/
theorem mem_values_iff {m : OrderedMap κ α} {v : α} :
    v ∈ m.values ↔ ∃ k, (k, v) ∈ m.entries := by simp [values]

/-- Nothing is found in the empty map. -/
@[simp] theorem get?_empty (k : κ) : (empty : OrderedMap κ α).get? k = none := rfl

/-- A mapped value is found under its key. -/
theorem get?_mapValues (m : OrderedMap κ α) (f : κ → α → α) (k : κ) :
    (m.mapValues f).get? k = (m.get? k).map (f k) := by
  ext v
  simp only [get?_eq_some, entries_mapValues, List.mem_map, Prod.mk.injEq, Option.map_eq_some_iff,
    Prod.exists]
  constructor
  · rintro ⟨k', v', h, rfl, rfl⟩; exact ⟨v', h, rfl⟩
  · rintro ⟨v', h, rfl⟩; exact ⟨k, v', h, rfl, rfl⟩

/-- A look-up after a modification. -/
theorem get?_modify (m : OrderedMap κ α) (k k' : κ) (f : α → α) :
    (m.modify k f).get? k' = (m.get? k').map fun v => if k' = k then f v else v := by
  rw [modify, get?_mapValues]

/-- The modified value is found. -/
@[simp] theorem get?_modify_self (m : OrderedMap κ α) (k : κ) (f : α → α) :
    (m.modify k f).get? k = (m.get? k).map f := by
  rw [get?_modify]; simp

/-- Another value is found as it was. -/
theorem get?_modify_of_ne (m : OrderedMap κ α) {k k' : κ} (h : k' ≠ k) (f : α → α) :
    (m.modify k f).get? k' = m.get? k' := by
  rw [get?_modify]; simp [h]

/-- What was set is found. -/
@[simp] theorem get?_set_self (m : OrderedMap κ α) (k : κ) (v : α) :
    (m.set k v).get? k = some v := by
  by_cases h : k ∈ m.keys
  · obtain ⟨w, hw⟩ := Option.isSome_iff_exists.1 (get?_isSome.2 h)
    rw [set_of_mem h, get?_modify_self, hw, Option.map_some]
  · rw [get?_eq_some, entries_set_of_notMem h]; simp

/-- Another value is found as it was. -/
theorem get?_set_of_ne (m : OrderedMap κ α) {k k' : κ} (h : k' ≠ k) (v : α) :
    (m.set k v).get? k' = m.get? k' := by
  by_cases hk : k ∈ m.keys
  · rw [set_of_mem hk, get?_modify_of_ne m h]
  · ext w
    simp [get?_eq_some, entries_set_of_notMem hk, h]

/-- What was erased is not found. -/
@[simp] theorem get?_erase_self (m : OrderedMap κ α) (k : κ) : (m.erase k).get? k = none := by
  rw [get?_eq_none, mem_keys_erase]; simp

/-- Another value is found as it was. -/
theorem get?_erase_of_ne (m : OrderedMap κ α) {k k' : κ} (h : k' ≠ k) :
    (m.erase k).get? k' = m.get? k' := by
  ext v; simp [get?_eq_some, h]

/-! ## One entry among the others -/

/-- A modification by nothing is none. -/
@[simp] theorem modify_id (m : OrderedMap κ α) (k : κ) : m.modify k id = m :=
  ext (by simp)

/-- What a key held does not matter once it is forgotten. -/
@[simp] theorem erase_modify (m : OrderedMap κ α) (k : κ) (f : α → α) :
    (m.modify k f).erase k = m.erase k := by
  refine ext ?_
  rw [entries_erase, entries_modify, List.filter_map, entries_erase]
  refine (List.map_congr_left fun e he => ?_).trans (List.map_id _)
  have hne : e.1 ≠ k := by simpa using List.of_mem_filter he
  simp [hne]

/-- Nor is one of a key that is not there. -/
theorem modify_of_notMem {m : OrderedMap κ α} {k : κ} (h : k ∉ m.keys) (f : α → α) :
    m.modify k f = m := by
  apply ext
  rw [entries_modify]
  refine (List.map_congr_left fun e he => ?_).trans (List.map_id _)
  have hne : e.1 ≠ k := fun hek => h (hek ▸ mem_keys_of_mem he)
  simp [hne]

/-- The entries around a key, and what a change at the key leaves of them. -/
theorem entries_split {m : OrderedMap κ α} {k : κ} {v : α} (h : m.get? k = some v) (f : α → α) :
    ∃ before after, m.entries = before ++ (k, v) :: after ∧
      (m.modify k f).entries = before ++ (k, f v) :: after := by
  obtain ⟨before, after, hsplit⟩ := List.append_of_mem (get?_eq_some.1 h)
  have hnodup := m.nodup
  rw [hsplit, List.map_append, List.map_cons, List.nodup_append] at hnodup
  obtain ⟨-, hafter, hdisjoint⟩ := hnodup
  have hkeep : ∀ l : List (κ × α), k ∉ l.map Prod.fst →
      (l.map fun e => (e.1, if e.1 = k then f e.2 else e.2)) = l := by
    intro l hl
    refine (List.map_congr_left fun e he => ?_).trans (List.map_id l)
    have hne : e.1 ≠ k := fun hek => hl (hek ▸ List.mem_map_of_mem he)
    simp [hne]
  refine ⟨before, after, hsplit, ?_⟩
  rw [entries_modify, hsplit, List.map_append, List.map_cons,
    hkeep before (fun hk => hdisjoint k hk k (List.mem_cons_self) rfl),
    hkeep after (List.nodup_cons.1 hafter).1]
  simp

/-- A list read off the values, before and after a change at one key. -/
theorem flatMap_modify {β : Type} {m : OrderedMap κ α} {k : κ} {v : α} (h : m.get? k = some v)
    (f : α → α) (g : α → List β) :
    ∃ rest, (m.values.flatMap g).Perm (g v ++ rest) ∧
      ((m.modify k f).values.flatMap g).Perm (g (f v) ++ rest) := by
  obtain ⟨before, after, hm, hm'⟩ := entries_split h f
  refine ⟨before.flatMap (g ∘ Prod.snd) ++ after.flatMap (g ∘ Prod.snd), ?_, ?_⟩
  · simp only [values, hm, List.map_append, List.map_cons, List.flatMap_append, List.flatMap_cons,
      List.flatMap_map, Function.comp_def]
    exact List.perm_append_comm_assoc ..
  · simp only [values, hm', List.map_append, List.map_cons, List.flatMap_append,
      List.flatMap_cons, List.flatMap_map, Function.comp_def]
    exact List.perm_append_comm_assoc ..

omit [DecidableEq κ] in
/-- When a list read off the values has no repetition, two keys share no element of it. -/
theorem disjoint_of_nodup {β : Type} {m : OrderedMap κ α} {g : α → List β} {k k' : κ} {v v' : α}
    {x : β} (h : (m.values.flatMap g).Nodup) (hv : (k, v) ∈ m.entries) (hv' : (k', v') ∈ m.entries)
    (hne : k ≠ k') (hx : x ∈ g v) : x ∉ g v' := by
  rw [values, List.flatMap_map, List.nodup_flatMap] at h
  have : Std.Symm (Function.onFun List.Disjoint fun e : κ × α => g e.2) :=
    ⟨fun _ _ hd _ hx hx' => hd hx' hx⟩
  have hdisjoint := List.Pairwise.forall h.2 hv hv' fun heq => hne (congrArg Prod.fst heq)
  exact fun hx' => hdisjoint hx hx'

omit [DecidableEq κ] in
/-- Values mapped twice are mapped once. -/
theorem mapValues_mapValues (m : OrderedMap κ α) (f g : κ → α → α) :
    (m.mapValues f).mapValues g = m.mapValues fun k v => g k (f k v) := by
  apply ext; simp [Function.comp_def]

/-- A view of the values that a change at one key does not touch. -/
theorem mapValues_modify_of_eq (m : OrderedMap κ α) (k : κ) {f : α → α} {g : κ → α → α}
    (h : ∀ v, g k (f v) = g k v) : (m.modify k f).mapValues g = m.mapValues g := by
  rw [modify, mapValues_mapValues]
  refine ext (List.map_congr_left fun e _ => ?_)
  by_cases he : e.1 = k
  · subst he; simp [h]
  · simp [he]

end OrderedMap

end Lib
