import HereToSlaughter.Lib.OrderedMap

/-!
# A memory of bounded size

`OrderedMap.keep limit k v m` sets a key and, once the map holds more than `limit`, forgets the key
that was set first. `Kept limit k v since m` says that the map holds `v` under `k`, and that only
keys among `since` were set after `k`. As long as `since` has fewer than `limit` distinct keys
besides, nothing set since can push `k` out.

Nothing in this file is about a particular program.
-/

namespace Lib

namespace OrderedMap

variable {κ α : Type} [DecidableEq κ] {limit : Nat} {k k' : κ} {v v' : α} {since since' : List κ}
  {m : OrderedMap κ α}

/-- Setting a key adds no other. -/
theorem mem_keys_of_mem_keys_set (h : k' ∈ (m.set k v).keys) : k' = k ∨ k' ∈ m.keys := by
  by_contra hne
  rw [not_or] at hne
  have hnone : (m.set k v).get? k' = none := by
    rw [get?_set_of_ne m hne.1]
    exact get?_eq_none.2 hne.2
  exact get?_eq_none.1 hnone h

/-- Forget the first key of a map that holds too many. -/
def trim (limit : Nat) (m : OrderedMap κ α) : OrderedMap κ α :=
  if limit < m.entries.length then
    match m.entries with
    | [] => m
    | oldest :: _ => m.erase oldest.1
  else m

/-- Set a key, at the expense of the oldest. -/
def keep (limit : Nat) (k : κ) (v : α) (m : OrderedMap κ α) : OrderedMap κ α :=
  (m.set k v).trim limit

/-- What is held after a key was kept is that key, or was held before. -/
theorem mem_keys_of_mem_keys_keep (h : k' ∈ (m.keep limit k v).keys) : k' = k ∨ k' ∈ m.keys := by
  refine mem_keys_of_mem_keys_set (v := v) ?_
  unfold keep trim at h
  split at h
  · split at h
    · exact h
    · exact (mem_keys_erase.1 h).1
  · exact h

/-- The value is held under the key, and only keys of `since` were set after it. -/
def Kept (k : κ) (v : α) (since : List κ) (m : OrderedMap κ α) : Prop :=
  ∃ before after, m.entries = before ++ (k, v) :: after ∧ ∀ e ∈ after, e.1 ∈ since

namespace Kept

/-- What is kept under a key is read back. -/
theorem get? (h : Kept k v since m) : m.get? k = some v := by
  obtain ⟨before, after, hentries, -⟩ := h
  exact get?_eq_some.2 (hentries ▸ List.mem_append_right _ List.mem_cons_self)

omit [DecidableEq κ] in
/-- A longer list of later keys. -/
theorem mono (h : Kept k v since m) (hsince : ∀ k ∈ since, k ∈ since') : Kept k v since' m := by
  obtain ⟨before, after, hentries, hafter⟩ := h
  exact ⟨before, after, hentries, fun e he => hsince _ (hafter e he)⟩

/-- Trimming takes the first key, and that is another one while few were set since. -/
theorem trim (h : Kept k v since m) (hfew : since.dedup.length < limit) :
    Kept k v since (m.trim limit) := by
  obtain ⟨before, after, hentries, hafter⟩ := h
  unfold OrderedMap.trim
  split
  · rename_i hfull
    have hnodup := m.nodup
    rw [hentries, List.map_append, List.map_cons] at hnodup
    cases before with
    | nil =>
      -- everything held besides was set since, and that is too little
      have hsub : (after.map Prod.fst).length ≤ since.dedup.length := by
        refine List.Subperm.length_le (List.subperm_of_subset (List.nodup_cons.1 hnodup).2 ?_)
        intro key hkey
        obtain ⟨e, he, rfl⟩ := List.mem_map.1 hkey
        exact List.mem_dedup.2 (hafter e he)
      rw [hentries, List.nil_append, List.length_cons] at hfull
      rw [List.length_map] at hsub
      omega
    | cons oldest before =>
      refine ⟨before, after, ?_, hafter⟩
      obtain ⟨hfirst, -⟩ := List.nodup_cons.1 (List.cons_append ▸ hnodup)
      rw [← List.map_cons, ← List.map_append] at hfirst
      rw [hentries]
      simp only [List.cons_append, entries_erase, hentries, List.filter_cons, ne_eq, not_true,
        decide_false, Bool.false_eq_true, if_false]
      refine List.filter_eq_self.2 fun e he => ?_
      exact decide_eq_true fun heq => hfirst (heq ▸ List.mem_map_of_mem he)
  · exact ⟨before, after, hentries, hafter⟩

/-- A key that was not held goes in last. -/
theorem set (h : Kept k v since m) (hnew : k' ∉ m.keys) : Kept k v (k' :: since) (m.set k' v') := by
  obtain ⟨before, after, hentries, hafter⟩ := h
  refine ⟨before, after ++ [(k', v')], ?_, fun e he => ?_⟩
  · rw [entries_set_of_notMem hnew, hentries, List.append_assoc, List.cons_append]
  · rcases List.mem_append.1 he with he | he
    · exact List.mem_cons_of_mem _ (hafter e he)
    · rw [List.mem_singleton.1 he]
      exact List.mem_cons_self

/-- While few keys were set since, one more does not push the value out. -/
theorem keep (h : Kept k v since m) (hnew : k' ∉ m.keys)
    (hfew : (k' :: since).dedup.length < limit) :
    Kept k v (k' :: since) (m.keep limit k' v') := (h.set hnew).trim hfew

/-- What has just been kept is the last. -/
theorem self (hnew : k ∉ m.keys) (hlimit : 0 < limit) : Kept k v [] (m.keep limit k v) :=
  trim ⟨m.entries, [], entries_set_of_notMem hnew v, fun _ he => absurd he List.not_mem_nil⟩
    hlimit

end Kept

end OrderedMap

end Lib
