import Mathlib.Data.List.Nodup
import Mathlib.Logic.Function.Basic

/-!
# Unordered maps

A finite map as its lookup function together with one enumeration of its keys.
A hash table iterates in an order that nothing specifies; `keys` is one such order. `insert` and
`erase` settle on an order of their own, the one in which the keys have come, where a hash table may
rehash: a result that has to hold for any order is stated for maps with any enumeration.

The two fields that tie `keys` to `get` are part of the structure, so a loop over `keys`
visits every entry exactly once without any further assumption.
-/

namespace Infra

/-- A finite map with an enumeration of its keys. -/
structure UMap (κ ν : Type*) where
  get : κ → Option ν
  keys : List κ
  keys_nodup : keys.Nodup
  mem_keys : ∀ {k}, k ∈ keys ↔ (get k).isSome

namespace UMap

variable {κ ν : Type*}

/-- The map without entries. -/
def empty : UMap κ ν where
  get _ := none
  keys := []
  keys_nodup := List.nodup_nil
  mem_keys := by simp

@[simp] theorem get_empty (k : κ) : (empty : UMap κ ν).get k = none := rfl

@[simp] theorem keys_empty : (empty : UMap κ ν).keys = [] := rfl

theorem get_eq_none_iff {m : UMap κ ν} {k : κ} : m.get k = none ↔ k ∉ m.keys := by
  rw [m.mem_keys, Option.not_isSome_iff_eq_none]

theorem mem_keys_of_get {m : UMap κ ν} {k : κ} {v : ν} (h : m.get k = some v) : k ∈ m.keys :=
  m.mem_keys.mpr (by rw [h]; rfl)

variable [DecidableEq κ]

/-- `m[k] = v`: replaces the value under `k` or adds an entry. That the new key comes last stands for
whatever place the hash table gives it. -/
def insert (m : UMap κ ν) (k : κ) (v : ν) : UMap κ ν where
  get := Function.update m.get k (some v)
  keys := if k ∈ m.keys then m.keys else m.keys ++ [k]
  keys_nodup := by
    split
    · exact m.keys_nodup
    · next h =>
      refine m.keys_nodup.append (List.nodup_singleton k) ?_
      rwa [List.disjoint_singleton]
  mem_keys := by
    intro k'
    by_cases hk : k' = k
    · subst hk
      rw [Function.update_self]
      split <;> simp_all
    · rw [Function.update_of_ne hk]
      split <;> simp [m.mem_keys, hk]

/-- Changes the value under `k` in place; nothing happens when there is none. -/
def modify (m : UMap κ ν) (k : κ) (f : ν → ν) : UMap κ ν where
  get := Function.update m.get k ((m.get k).map f)
  keys := m.keys
  keys_nodup := m.keys_nodup
  mem_keys := by
    intro k'
    by_cases hk : k' = k
    · subst hk
      rw [Function.update_self, m.mem_keys, Option.isSome_map]
    · rw [Function.update_of_ne hk, m.mem_keys]

/-- Removes the entry under `k`, if any. -/
def erase (m : UMap κ ν) (k : κ) : UMap κ ν where
  get := Function.update m.get k none
  keys := m.keys.filter (· ≠ k)
  keys_nodup := m.keys_nodup.filter _
  mem_keys := by
    intro k'
    by_cases hk : k' = k
    · subst hk
      simp
    · rw [Function.update_of_ne hk, List.mem_filter, m.mem_keys]
      simp [hk]

@[simp] theorem get_insert_self (m : UMap κ ν) (k : κ) (v : ν) : (m.insert k v).get k = some v :=
  Function.update_self ..

@[simp] theorem get_insert_of_ne {k k' : κ} (h : k' ≠ k) (m : UMap κ ν) (v : ν) :
    (m.insert k v).get k' = m.get k' :=
  Function.update_of_ne h ..

theorem get_insert (m : UMap κ ν) (k k' : κ) (v : ν) :
    (m.insert k v).get k' = if k' = k then some v else m.get k' :=
  Function.update_apply ..

@[simp] theorem get_modify_self (m : UMap κ ν) (k : κ) (f : ν → ν) :
    (m.modify k f).get k = (m.get k).map f :=
  Function.update_self ..

@[simp] theorem get_modify_of_ne {k k' : κ} (h : k' ≠ k) (m : UMap κ ν) (f : ν → ν) :
    (m.modify k f).get k' = m.get k' :=
  Function.update_of_ne h ..

theorem get_modify (m : UMap κ ν) (k k' : κ) (f : ν → ν) :
    (m.modify k f).get k' = if k' = k then (m.get k).map f else m.get k' :=
  Function.update_apply ..

@[simp] theorem keys_modify (m : UMap κ ν) (k : κ) (f : ν → ν) : (m.modify k f).keys = m.keys := rfl

@[simp] theorem get_erase_self (m : UMap κ ν) (k : κ) : (m.erase k).get k = none :=
  Function.update_self ..

@[simp] theorem get_erase_of_ne {k k' : κ} (h : k' ≠ k) (m : UMap κ ν) :
    (m.erase k).get k' = m.get k' :=
  Function.update_of_ne h ..

theorem mem_keys_insert {m : UMap κ ν} {k k' : κ} {v : ν} :
    k' ∈ (m.insert k v).keys ↔ k' = k ∨ k' ∈ m.keys := by
  rw [mem_keys, get_insert, mem_keys]
  by_cases h : k' = k <;> simp [h]

/-- Inserting fresh keys one after the other appends them to the enumeration. -/
theorem keys_insert_of_notMem {m : UMap κ ν} {k : κ} (h : k ∉ m.keys) (v : ν) :
    (m.insert k v).keys = m.keys ++ [k] :=
  if_neg h

end UMap

end Infra
