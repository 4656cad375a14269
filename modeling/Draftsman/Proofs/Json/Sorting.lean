/-
Sorting the members of objects.

Members are entered one at a time into members that are in order, and one whose key is there
already takes the place of the other. As long as the keys of an object are distinct, as they
are in a plain value, nothing is replaced: sorting only permutes the members, every lookup
finds the sorted value of what it found before, and the sorted value is plain again.
-/
import Draftsman.Proofs.Json.RoundTrip
import Mathlib.Data.List.Perm.Basic

set_option autoImplicit false

namespace Draftsman.Json

/-! ## Members -/

section Members

variable {key : String} {value : Json} {members entered : List (String × Json)}

/-- A member with a new key is only put in its place. -/
theorem insertMember_perm (hkey : key ∉ entered.map Prod.fst) (value : Json) :
    (insertMember key value entered).Perm ((key, value) :: entered) := by
  induction entered with
  | nil => exact List.Perm.refl _
  | cons m rest ih =>
    rw [List.map_cons, List.mem_cons, not_or] at hkey
    rw [insertMember, if_neg hkey.1]
    split_ifs
    · exact List.Perm.refl _
    · exact ((ih hkey.2).cons m).trans (List.Perm.swap (key, value) m rest)

theorem enterMembers_perm (hkeys : ((entered ++ members).map Prod.fst).Nodup) :
    (enterMembers members entered).Perm (entered ++ members) := by
  induction members generalizing entered with
  | nil =>
    rw [List.append_nil]
    exact List.Perm.refl _
  | cons m rest ih =>
    -- the first member goes to the members that are entered; that all keys differ is then asked
    -- of the same members in another order
    have hmiddle : (entered ++ m :: rest).Perm (m :: entered ++ rest) := List.perm_middle
    have hkeys' : ((m :: entered ++ rest).map Prod.fst).Nodup :=
      (hmiddle.map Prod.fst).nodup_iff.mp hkeys
    have hnew : m.1 ∉ entered.map Prod.fst := by
      rw [List.cons_append, List.map_cons, List.map_append] at hkeys'
      exact fun hmem => (List.nodup_cons.mp hkeys').1 (List.mem_append_left _ hmem)
    have hinsert : (insertMember m.1 m.2 entered ++ rest).Perm (m :: entered ++ rest) :=
      (insertMember_perm hnew m.2).append_right rest
    exact ((ih ((hinsert.map Prod.fst).nodup_iff.mpr hkeys')).trans hinsert).trans hmiddle.symm

/-- **Sorting members with distinct keys permutes them.** -/
theorem sortMembers_perm (hkeys : (members.map Prod.fst).Nodup) :
    (sortMembers members).Perm members := by
  have hnone : (([] ++ members : List (String × Json)).map Prod.fst).Nodup := hkeys
  exact enterMembers_perm hnone

/-- With distinct keys, what is found under a key is the one member that has it. -/
theorem lookup_eq_some_iff_mem (hkeys : (members.map Prod.fst).Nodup) :
    members.lookup key = some value ↔ (key, value) ∈ members := by
  induction members with
  | nil => simp
  | cons m rest ih =>
    obtain ⟨k, v⟩ := m
    rw [List.map_cons, List.nodup_cons] at hkeys
    rw [List.lookup_cons, List.mem_cons, Prod.mk.injEq]
    by_cases hk : key = k
    · have hrest : (key, value) ∉ rest := fun hmem =>
        hkeys.1 (List.mem_map.mpr ⟨(key, value), hmem, hk⟩)
      simp [hk ▸ hrest, hk, eq_comm]
    · rw [beq_eq_false_iff_ne.mpr hk, ih hkeys.2]
      simp [hk]

theorem lookup_eq_of_perm {members' : List (String × Json)} (hkeys : (members.map Prod.fst).Nodup)
    (hperm : members'.Perm members) (key : String) : members'.lookup key = members.lookup key := by
  have hkeys' : (members'.map Prod.fst).Nodup := (hperm.map Prod.fst).nodup_iff.mpr hkeys
  refine Option.ext fun value => ?_
  rw [lookup_eq_some_iff_mem hkeys', lookup_eq_some_iff_mem hkeys, hperm.mem_iff]

theorem lookup_map_snd (f : Json → Json) (members : List (String × Json)) (key : String) :
    (members.map fun m => (m.1, f m.2)).lookup key = (members.lookup key).map f := by
  induction members with
  | nil => rfl
  | cons m rest ih =>
    rw [List.map_cons, List.lookup_cons, List.lookup_cons, ih]
    split
    · rfl
    · rfl

end Members

/-! ## Values -/

theorem sortedItems_eq_map (items : List Json) : sortedItems items = items.map sorted := by
  induction items with
  | nil => rw [sortedItems, List.map_nil]
  | cons v rest ih => rw [sortedItems, List.map_cons, ih]

theorem sortedMembers_eq_map (members : List (String × Json)) :
    sortedMembers members = members.map fun m => (m.1, m.2.sorted) := by
  induction members with
  | nil => rw [sortedMembers, List.map_nil]
  | cons m rest ih => rw [sortedMembers, List.map_cons, ih]

section Objects

variable {members : List (String × Json)} (hkeys : (members.map Prod.fst).Nodup)
include hkeys

theorem nodup_keys_sortedMembers : ((sortedMembers members).map Prod.fst).Nodup := by
  rwa [sortedMembers_eq_map, List.map_map]

/-- **A sorted object holds the sorted values under the same keys.** -/
theorem lookup_sorted (key : String) :
    (sortMembers (sortedMembers members)).lookup key = (members.lookup key).map sorted := by
  have hkeys' := nodup_keys_sortedMembers hkeys
  rw [lookup_eq_of_perm hkeys' (sortMembers_perm hkeys'), sortedMembers_eq_map, lookup_map_snd]

end Objects

/-- What a sorted value holds under a key is sorted. -/
theorem get?_sorted {n : Nat} {v : Json} (h : Plain n v) (key : String) :
    v.sorted.get? key = (v.get? key).map Json.sorted := by
  cases h with
  | object hkeys _ => exact lookup_sorted hkeys key
  | _ => rfl

/-- **The sorted value of a plain value is plain.** -/
theorem Plain.sorted {n : Nat} {v : Json} (h : Plain n v) : Plain n v.sorted := by
  induction h with
  | null => exact .null
  | bool b => exact .bool b
  | string s => exact .string s
  | array _ ih =>
    rw [sorted_array, sortedItems_eq_map]
    refine .array fun v hv => ?_
    obtain ⟨u, hu, rfl⟩ := List.mem_map.mp hv
    exact ih u hu
  | object hkeys _ ih =>
    have hkeys' := nodup_keys_sortedMembers hkeys
    have hperm := sortMembers_perm hkeys'
    rw [sorted_object]
    refine .object ((hperm.map Prod.fst).nodup_iff.mpr hkeys') fun m hm => ?_
    rw [hperm.mem_iff, sortedMembers_eq_map] at hm
    obtain ⟨u, hu, rfl⟩ := List.mem_map.mp hm
    exact ih u hu

/-- What a plain value holds is plain. -/
theorem Plain.lookup {n : Nat} {members : List (String × Json)} (h : Plain n (.object members))
    {key : String} {v : Json} (hv : members.lookup key = some v) : ∃ m, Plain m v := by
  cases h with
  | object hkeys hmembers =>
    exact ⟨_, hmembers (key, v) ((lookup_eq_some_iff_mem hkeys).mp hv)⟩

end Draftsman.Json
