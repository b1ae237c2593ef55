import Mathlib.Data.List.AList
import Mathlib.Data.List.Perm.Subperm

/-!
# Hash maps of bounded size

A finite map that holds at most `cap` keys.  `update` replaces the value of a
key that is present, inserts a new key while there is room, and leaves a full
map as it is: a new key never evicts an old one, and nothing is ever removed.

The size bound is a field, so every value of the type respects it.
-/

/-- A finite map from `K` to `V` with at most `cap` keys. -/
structure BoundedMap (K V : Type*) (cap : Nat) where
  toAList : AList (fun _ : K => V)
  bounded : toAList.entries.length ≤ cap

namespace BoundedMap

variable {K V : Type*} {cap : Nat}

/-- The map without keys. -/
def empty : BoundedMap K V cap := ⟨∅, by simp⟩

/-- Number of keys. -/
def size (m : BoundedMap K V cap) : Nat := m.toAList.entries.length

@[simp] theorem size_empty : (empty : BoundedMap K V cap).size = 0 := by
  simp [empty, size]

variable [DecidableEq K]

/-- The value stored under `k`. -/
def lookup (m : BoundedMap K V cap) (k : K) : Option V := m.toAList.lookup k

/-- An update of `k` succeeds: the key is there already or the map is not full. -/
def HasRoom (m : BoundedMap K V cap) (k : K) : Prop :=
  (m.lookup k).isSome ∨ m.size < cap

instance (m : BoundedMap K V cap) (k : K) : Decidable (m.HasRoom k) :=
  inferInstanceAs (Decidable (_ ∨ _))

private theorem length_insert_le (s : AList (fun _ : K => V)) (k : K) (v : V) :
    (s.insert k v).entries.length ≤ s.entries.length + 1 := by
  rw [AList.entries_insert, List.length_cons]
  exact Nat.succ_le_succ (List.Sublist.length_le (List.kerase_sublist k s.entries))

private theorem length_insert_of_notMem (s : AList (fun _ : K => V)) (k : K) (v : V) (h : k ∉ s) :
    (s.insert k v).entries.length = s.entries.length + 1 := by
  rw [AList.entries_insert_of_notMem h, List.length_cons]

private theorem length_insert_of_mem (s : AList (fun _ : K => V)) (k : K) (v : V) (h : k ∈ s) :
    (s.insert k v).entries.length = s.entries.length := by
  have hkeys : (s.insert k v).keys.length = s.keys.length := by
    rw [AList.keys_insert, List.length_cons, List.length_erase_of_mem (AList.mem_keys.mp h)]
    have := List.length_pos_of_mem (AList.mem_keys.mp h)
    omega
  simpa [AList.keys, List.keys] using hkeys

/-- Store `v` under `k` if there is room for it; otherwise leave the map alone. -/
def update (m : BoundedMap K V cap) (k : K) (v : V) : BoundedMap K V cap :=
  if h : m.HasRoom k then
    ⟨m.toAList.insert k v, by
      -- replacing a value keeps the number of keys; a new key needs a free place
      rcases h with h | h
      · rw [length_insert_of_mem _ _ _ (AList.lookup_isSome.mp h)]
        exact m.bounded
      · exact Nat.le_trans (length_insert_le _ _ _) h⟩
  else m

@[simp] theorem lookup_empty (k : K) : (empty : BoundedMap K V cap).lookup k = none := by
  simp [empty, lookup]

theorem update_of_not_hasRoom {m : BoundedMap K V cap} {k : K} (v : V) (h : ¬ m.HasRoom k) :
    m.update k v = m := by
  simp only [update, dif_neg h]

theorem lookup_update_self_of_hasRoom {m : BoundedMap K V cap} {k : K} (v : V) (h : m.HasRoom k) :
    (m.update k v).lookup k = some v := by
  simp only [update, dif_pos h, lookup, AList.lookup_insert]

/-- After an update the key holds the new value exactly if there was room. -/
theorem lookup_update_self_eq_some {m : BoundedMap K V cap} {k : K} {v : V} :
    (m.update k v).lookup k = some v ↔ m.HasRoom k := by
  refine ⟨fun h => ?_, lookup_update_self_of_hasRoom v⟩
  by_contra hroom
  rw [update_of_not_hasRoom v hroom] at h
  exact hroom (Or.inl (by rw [h]; rfl))

theorem lookup_update_ne {m : BoundedMap K V cap} {k k' : K} (v : V) (h : k' ≠ k) :
    (m.update k v).lookup k' = m.lookup k' := by
  by_cases hroom : m.HasRoom k
  · simp only [update, dif_pos hroom, lookup, AList.lookup_insert_ne h]
  · rw [update_of_not_hasRoom v hroom]

/-- Whatever is stored after an update was stored before it or is the new pair. -/
theorem lookup_update_eq_some {m : BoundedMap K V cap} {k k' : K} {v w : V}
    (h : (m.update k v).lookup k' = some w) : (k' = k ∧ w = v) ∨ m.lookup k' = some w := by
  by_cases hk : k' = k
  · subst hk
    -- under the key itself: the new value, or the old one where there was no room
    by_cases hroom : m.HasRoom k'
    · rw [lookup_update_self_of_hasRoom v hroom, Option.some.injEq] at h
      exact Or.inl ⟨rfl, h.symm⟩
    · rw [update_of_not_hasRoom v hroom] at h
      exact Or.inr h
  · rw [lookup_update_ne v hk] at h
    exact Or.inr h

/-- Keys are never lost. -/
theorem isSome_lookup_update {m : BoundedMap K V cap} {k k' : K} (v : V)
    (h : (m.lookup k').isSome) : ((m.update k v).lookup k').isSome := by
  by_cases hk : k' = k
  · subst hk
    rw [lookup_update_self_of_hasRoom v (Or.inl h)]
    rfl
  · rwa [lookup_update_ne v hk]

theorem size_update_of_hasRoom {m : BoundedMap K V cap} {k : K} (v : V)
    (hnew : m.lookup k = none) (h : m.size < cap) : (m.update k v).size = m.size + 1 := by
  have hroom : m.HasRoom k := Or.inr h
  simp only [update, dif_pos hroom, size]
  exact length_insert_of_notMem _ _ _ (AList.lookup_eq_none.mp hnew)

/-! ## Full maps -/

/-- A full map has room for the keys it has and for no other. -/
theorem hasRoom_iff_of_full {m : BoundedMap K V cap} {k : K} (h : m.size = cap) :
    m.HasRoom k ↔ (m.lookup k).isSome :=
  or_iff_left (by rw [h]; exact Nat.lt_irrefl cap)

/-- A full map stays full. -/
theorem size_update_of_full {m : BoundedMap K V cap} (k : K) (v : V) (h : m.size = cap) :
    (m.update k v).size = cap := by
  by_cases hroom : m.HasRoom k
  · have hmem : k ∈ m.toAList := AList.lookup_isSome.mp ((hasRoom_iff_of_full h).mp hroom)
    simp only [update, dif_pos hroom, size]
    rw [length_insert_of_mem _ _ _ hmem]
    exact h
  · rw [update_of_not_hasRoom v hroom]
    exact h

/-- A full map keeps its keys and takes no other. -/
theorem isSome_lookup_update_of_full {m : BoundedMap K V cap} {k k' : K} (v : V)
    (h : m.size = cap) : ((m.update k v).lookup k').isSome ↔ (m.lookup k').isSome := by
  refine ⟨fun hsome => ?_, isSome_lookup_update v⟩
  by_cases hk : k' = k
  · subst hk
    by_cases hroom : m.HasRoom k'
    · exact (hasRoom_iff_of_full h).mp hroom
    · rwa [update_of_not_hasRoom v hroom] at hsome
  · rwa [lookup_update_ne v hk] at hsome

/-- A map whose keys all lie in a list has at most as many keys as the list has members. -/
theorem size_le_of_keys_subset {m : BoundedMap K V cap} {ks : List K}
    (h : ∀ k, (m.lookup k).isSome → k ∈ ks) : m.size ≤ ks.length := by
  have hsub : m.toAList.keys ⊆ ks := fun k hk =>
    h k (AList.lookup_isSome.mpr (AList.mem_keys.mpr hk))
  have hle := (List.Nodup.subperm m.toAList.keys_nodup hsub).length_le
  simpa [size, AList.keys, List.keys] using hle

end BoundedMap
