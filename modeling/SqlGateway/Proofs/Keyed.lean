import Mathlib.Data.List.Induction
import Mathlib.Data.String.Basic
import SqlGateway.Keyed

namespace SqlGateway.Keyed

variable {α : Type} {key k : String} {a : α} {entries : List (String × α)}

theorem mem_insert {p : String × α} (h : p ∈ insert key a entries) :
    p = (key, a) ∨ p ∈ entries := by
  induction entries with
  | nil => exact .inl (List.mem_singleton.mp h)
  | cons entry rest ih =>
    unfold insert at h
    split at h
    · exact List.mem_cons.mp h
    · split at h
      · rcases List.mem_cons.mp h with h | h
        · exact .inl h
        · exact .inr (List.mem_cons_of_mem _ h)
      · rcases List.mem_cons.mp h with rfl | h
        · exact .inr List.mem_cons_self
        · exact (ih h).imp_right (List.mem_cons_of_mem _)

theorem lookup_cons (key : String) (a : α) (entries : List (String × α)) (k : String) :
    ((key, a) :: entries).lookup k = if k = key then some a else entries.lookup k := by
  rw [List.lookup_cons]
  by_cases h : k = key
  · rw [if_pos h, beq_iff_eq.mpr h]
  · rw [if_neg h, beq_eq_false_iff_ne.mpr h]

theorem lookup_insert (key : String) (a : α) (entries : List (String × α)) (k : String) :
    (insert key a entries).lookup k = if k = key then some a else entries.lookup k := by
  induction entries with
  | nil => exact lookup_cons key a [] k
  | cons entry rest ih =>
    obtain ⟨first, b⟩ := entry
    unfold insert
    by_cases hlt : key < first
    · rw [if_pos hlt, lookup_cons]
    · rw [if_neg hlt]
      by_cases heq : key = first
      · subst heq
        rw [if_pos rfl, lookup_cons, lookup_cons]
        by_cases h : k = key
        · rw [if_pos h, if_pos h]
        · rw [if_neg h, if_neg h, if_neg h]
      · rw [if_neg heq, lookup_cons, lookup_cons, ih]
        by_cases h : k = first
        · have hne : k ≠ key := fun hk ↦ heq (hk.symm.trans h)
          rw [if_pos h, if_neg hne, if_pos h]
        · rw [if_neg h, if_neg h]

theorem mem_keys_iff : k ∈ entries.map Prod.fst ↔ (entries.lookup k).isSome := by
  rw [List.lookup_isSome_iff]
  simp [List.mem_map]

/-- Keys in strict order; none stands twice. -/
def Sorted (entries : List (String × α)) : Prop := (entries.map Prod.fst).Pairwise (· < ·)

theorem Sorted.lookup_eq_some_iff (h : Sorted entries) :
    entries.lookup key = some a ↔ (key, a) ∈ entries := by
  constructor
  · intro hlookup
    obtain ⟨before, after, rfl, -⟩ := List.lookup_eq_some_iff.mp hlookup
    simp
  · intro hmem
    induction entries with
    | nil => cases hmem
    | cons entry rest ih =>
      obtain ⟨first, b⟩ := entry
      obtain ⟨hfirst, hrest⟩ := List.pairwise_cons.mp h
      rw [lookup_cons]
      rcases List.mem_cons.mp hmem with heq | hmem
      · cases heq
        rw [if_pos rfl]
      · rw [if_neg (hfirst key (List.mem_map_of_mem hmem)).ne', ih hrest hmem]

theorem sorted_insert (h : Sorted entries) : Sorted (insert key a entries) := by
  induction entries with
  | nil => exact List.pairwise_singleton _ _
  | cons entry rest ih =>
    obtain ⟨first, b⟩ := entry
    obtain ⟨hfirst, hrest⟩ := List.pairwise_cons.mp h
    unfold insert
    by_cases hlt : key < first
    · rw [if_pos hlt]
      refine List.pairwise_cons.mpr ⟨fun k hk ↦ ?_, h⟩
      rcases List.mem_cons.mp hk with rfl | hk
      · exact hlt
      · exact hlt.trans (hfirst k hk)
    · rw [if_neg hlt]
      by_cases heq : key = first
      · rw [if_pos heq]
        subst heq
        exact List.pairwise_cons.mpr ⟨hfirst, hrest⟩
      · rw [if_neg heq]
        refine List.pairwise_cons.mpr ⟨fun k hk ↦ ?_, ih hrest⟩
        obtain ⟨p, hp, rfl⟩ := List.mem_map.mp hk
        rcases mem_insert hp with rfl | hp
        · exact lt_of_le_of_ne (not_lt.mp hlt) (Ne.symm heq)
        · exact hfirst p.1 (List.mem_map_of_mem hp)

theorem ofList_concat (entries : List (String × α)) (key : String) (a : α) :
    ofList (entries ++ [(key, a)]) = insert key a (ofList entries) := List.foldl_append

theorem sorted_ofList (entries : List (String × α)) : Sorted (ofList entries) := by
  induction entries using List.reverseRecOn with
  | nil => exact List.Pairwise.nil
  | append_singleton entries entry ih =>
    rw [ofList_concat]
    exact sorted_insert ih

theorem lookup_ofList (entries : List (String × α)) (key : String) :
    (ofList entries).lookup key = entries.reverse.lookup key := by
  induction entries using List.reverseRecOn with
  | nil => rfl
  | append_singleton entries entry ih =>
    rw [ofList_concat, lookup_insert, List.reverse_concat, lookup_cons, ih]

theorem mem_keys_ofList {entries : List (String × α)} :
    key ∈ (ofList entries).map Prod.fst ↔ key ∈ entries.map Prod.fst := by
  rw [mem_keys_iff, lookup_ofList, ← mem_keys_iff, List.map_reverse, List.mem_reverse]

theorem insert_last (h : ∀ k ∈ entries.map Prod.fst, k < key) :
    insert key a entries = entries ++ [(key, a)] := by
  induction entries with
  | nil => rfl
  | cons entry rest ih =>
    obtain ⟨hfirst, hrest⟩ := List.forall_mem_cons.mp h
    rw [insert, if_neg (lt_asymm hfirst), if_neg (ne_of_gt hfirst), ih hrest, List.cons_append]

theorem Sorted.ofList_eq (h : Sorted entries) : ofList entries = entries := by
  induction entries using List.reverseRecOn with
  | nil => rfl
  | append_singleton entries entry ih =>
    rw [Sorted, List.map_append] at h
    obtain ⟨hbefore, -, hlast⟩ := List.pairwise_append.mp h
    rw [ofList_concat, ih hbefore]
    exact insert_last fun k hk ↦ hlast k hk entry.1 (by simp)

end SqlGateway.Keyed
