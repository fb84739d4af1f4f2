import Mathlib.Data.Finmap

namespace RmwIceoryx2.Library

variable {K V : Type} [DecidableEq K] {key : V → K}

/-- A finite map in which every value is stored under its own key. -/
structure KeyedMap (key : V → K) where
  entries : Finmap (fun _ : K ↦ V)
  keyed : ∀ k v, entries.lookup k = some v → key v = k

namespace KeyedMap

def empty (key : V → K) : KeyedMap key := ⟨∅, fun k v h ↦ by simp at h⟩

def find (m : KeyedMap key) (k : K) : Option V := m.entries.lookup k

theorem ext_find {m m' : KeyedMap key} (h : ∀ k, m.find k = m'.find k) : m = m' := by
  obtain ⟨entries, keyed⟩ := m
  obtain ⟨entries', keyed'⟩ := m'
  obtain rfl : entries = entries' := Finmap.ext_lookup h
  rfl

@[simp] theorem find_empty (k : K) : (empty key).find k = none := Finmap.lookup_empty k

def put (m : KeyedMap key) (v : V) : KeyedMap key :=
  ⟨m.entries.insert (key v) v, fun k w hw ↦ by
    by_cases hk : k = key v
    · subst hk
      rw [Finmap.lookup_insert, Option.some_inj] at hw
      rw [hw]
    · rw [Finmap.lookup_insert_of_ne _ hk] at hw
      exact m.keyed k w hw⟩

theorem find_put (m : KeyedMap key) (v : V) (k : K) :
    (m.put v).find k = if k = key v then some v else m.find k := by
  split
  · rename_i hk
    rw [hk]
    exact Finmap.lookup_insert _
  · rename_i hk
    exact Finmap.lookup_insert_of_ne _ hk

def emplace (m : KeyedMap key) (v : V) : KeyedMap key :=
  match m.find (key v) with
  | some _ => m
  | none => m.put v

theorem emplace_of_new {m : KeyedMap key} {v : V} (h : m.find (key v) = none) :
    m.emplace v = m.put v := by
  rw [emplace, h]

def remove (m : KeyedMap key) (k : K) : KeyedMap key :=
  ⟨m.entries.erase k, fun k' v h ↦ by
    by_cases hk : k' = k
    · subst hk
      rw [Finmap.lookup_erase] at h
      cases h
    · rw [Finmap.lookup_erase_ne hk] at h
      exact m.keyed k' v h⟩

theorem find_remove (m : KeyedMap key) (k k' : K) :
    (m.remove k).find k' = if k' = k then none else m.find k' := by
  split
  · rename_i hk
    rw [hk]
    exact Finmap.lookup_erase k _
  · rename_i hk
    exact Finmap.lookup_erase_ne hk

theorem remove_put {m : KeyedMap key} {v : V} (h : m.find (key v) = none) :
    (m.put v).remove (key v) = m := by
  refine ext_find fun k ↦ ?_
  rw [find_remove, find_put]
  split
  · rename_i hk
    rw [hk, h]
  · rfl

theorem put_ne {m : KeyedMap key} {v : V} (h : m.find (key v) = none) : m.put v ≠ m := by
  intro he
  have hfind : (m.put v).find (key v) = m.find (key v) := by rw [he]
  simp [find_put, h] at hfind

def modify (m : KeyedMap key) (k : K) (f : V → V) : KeyedMap key :=
  match m.find k with
  | none => m
  | some v => m.put (f v)

theorem modify_put {m : KeyedMap key} {v : V} {f : V → V} (hf : key (f v) = key v) :
    (m.put v).modify (key v) f = m.put (f v) := by
  have hfound : (m.put v).find (key v) = some v := by simp [find_put]
  rw [modify, hfound]
  refine ext_find fun k ↦ ?_
  simp only [find_put, hf]
  split <;> rfl

def size (m : KeyedMap key) : ℕ := m.entries.keys.card

theorem mem_keys {m : KeyedMap key} {k : K} : k ∈ m.entries.keys ↔ (m.find k).isSome := by
  rw [Finmap.mem_keys, find, Finmap.lookup_isSome]

@[simp] theorem size_empty : (empty key).size = 0 := by
  rw [size, empty, Finmap.keys_empty, Finset.card_empty]

theorem size_put {m : KeyedMap key} {v : V} (h : m.find (key v) = none) :
    (m.put v).size = m.size + 1 := by
  have hkeys : (m.put v).entries.keys = insert (key v) m.entries.keys := by
    ext k
    rw [mem_keys, find_put, Finset.mem_insert, mem_keys]
    split <;> simp_all
  have hnew : key v ∉ m.entries.keys := by simp [mem_keys, h]
  rw [size, hkeys, Finset.card_insert_of_notMem hnew, size]

theorem size_remove {m : KeyedMap key} {k : K} {v : V} (h : m.find k = some v) :
    (m.remove k).size + 1 = m.size := by
  have hkeys : (m.remove k).entries.keys = m.entries.keys.erase k := Finmap.keys_erase k m.entries
  have hmem : k ∈ m.entries.keys := by simp [mem_keys, h]
  rw [size, hkeys, Finset.card_erase_add_one hmem, size]

end KeyedMap

end RmwIceoryx2.Library
