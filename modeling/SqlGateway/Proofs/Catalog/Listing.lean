import Mathlib.Data.List.Count
import SqlGateway.Proofs.Catalog.Routing

namespace SqlGateway

variable {α β : Type}

theorem Keyed.count_flatMap [DecidableEq α] {entries : List (String × List α)}
    (h : Keyed.Sorted entries) (key : String) (a : α) :
    (entries.flatMap fun (k, as) ↦ as.map (·, k)).count (a, key) =
      ((entries.lookup key).getD []).count a := by
  induction entries with
  | nil => rfl
  | cons entry rest ih =>
    obtain ⟨k, as⟩ := entry
    obtain ⟨hfirst, hrest⟩ := List.pairwise_cons.mp h
    rw [List.flatMap_cons, List.count_append, ih hrest, lookup_cons]
    by_cases hk : key = k
    · -- no later entry has the key of the first one
      subst hk
      have hlast : rest.lookup key = none := by
        rw [List.lookup_eq_none_iff]
        intro p hp
        exact bne_iff_ne.mpr (hfirst p.1 (List.mem_map_of_mem hp)).ne
      have hinj : Function.Injective fun a : α ↦ (a, key) := fun _ _ h ↦ (Prod.mk.inj h).1
      rw [hlast, List.count_map_of_injective _ _ hinj, if_pos rfl]
      rfl
    · have hnone : (as.map (·, k)).count (a, key) = 0 := by
        rw [List.count_eq_zero]
        intro hmem
        obtain ⟨_, -, hpair⟩ := List.mem_map.mp hmem
        exact hk (Prod.mk.inj hpair).2.symm
      rw [hnone, Nat.zero_add, if_neg hk]

namespace Catalog

variable {σ κ : Type}

/-- Of the drivers with a name that are found for some scheme, the one of the first scheme. -/
def leader? (c : Catalog σ κ) (name : String) : Option (Driver σ κ) :=
  (c.routes.find? fun r ↦ r.2.name = name).map (·.2)

def schemesOf (c : Catalog σ κ) (name : String) : List String :=
  (c.routes.filter fun r ↦ r.2.name = name).map (·.1)

def routed (c : Catalog σ κ) : List (String × String) :=
  c.schemes.filterMap fun s ↦ (c.driver? s).map fun d ↦ (s, d.name)

def listed (c : Catalog σ κ) : List (String × String) :=
  c.drivers.flatMap fun (name, schemes) ↦ schemes.map (·, name)

/-- All schemes are listed, each once and for the driver that is found for it, and no others. -/
def Truthful (c : Catalog σ κ) : Prop := c.listed.Perm c.routed

def note (known : List (String × List String)) (r : String × Driver σ κ) :
    List (String × List String) :=
  if (known.lookup r.2.name).isSome then known else Keyed.insert r.2.name r.2.schemes known

theorem lookup_note (known : List (String × List String)) (r : String × Driver σ κ)
    (name : String) :
    (note known r).lookup name =
      (known.lookup name).or (if r.2.name = name then some r.2.schemes else none) := by
  unfold note
  by_cases hname : r.2.name = name
  · subst hname
    cases hknown : known.lookup r.2.name with
    | none => simp [Keyed.lookup_insert]
    | some schemes => simp [hknown]
  · by_cases hknown : (known.lookup r.2.name).isSome
    · simp [hknown, hname]
    · simp [hknown, hname, Keyed.lookup_insert, Ne.symm hname]

theorem sorted_note {known : List (String × List String)} (h : Keyed.Sorted known)
    (r : String × Driver σ κ) : Keyed.Sorted (note known r) := by
  unfold note
  split
  · exact h
  · exact Keyed.sorted_insert h

theorem lookup_foldl_note (routes : List (String × Driver σ κ))
    (known : List (String × List String)) (name : String) :
    (routes.foldl note known).lookup name =
      (known.lookup name).or ((routes.find? fun r ↦ r.2.name = name).map (·.2.schemes)) := by
  induction routes generalizing known with
  | nil => simp
  | cons r routes ih =>
    rw [List.foldl_cons, ih, lookup_note, Option.or_assoc, List.find?_cons]
    by_cases hname : r.2.name = name <;> simp [hname]

theorem sorted_foldl_note (routes : List (String × Driver σ κ))
    {known : List (String × List String)} (h : Keyed.Sorted known) :
    Keyed.Sorted (routes.foldl note known) := by
  induction routes generalizing known with
  | nil => exact h
  | cons r routes ih => exact ih (sorted_note h r)

theorem sorted_drivers (c : Catalog σ κ) : Keyed.Sorted c.drivers :=
  sorted_foldl_note c.routes List.Pairwise.nil

theorem lookup_drivers (c : Catalog σ κ) (name : String) :
    c.drivers.lookup name = (c.leader? name).map Driver.schemes := by
  rw [leader?, Option.map_map]
  exact lookup_foldl_note c.routes [] name

theorem Ordered.driver?_of_mem {c : Catalog σ κ} (h : c.Ordered) {r : String × Driver σ κ}
    (hr : r ∈ c.routes) : c.driver? r.1 = some r.2 := by
  rw [driver?, h.lower r hr, h.sorted.lookup_eq_some_iff]
  exact hr

theorem Ordered.routed_eq {c : Catalog σ κ} (h : c.Ordered) :
    c.routed = c.routes.map fun r ↦ (r.1, r.2.name) := by
  rw [routed, schemes, List.filterMap_map, ← List.filterMap_eq_map]
  apply List.filterMap_congr
  intro r hr
  rw [Function.comp_apply, h.driver?_of_mem hr]
  rfl

theorem Ordered.count_routed {c : Catalog σ κ} (h : c.Ordered) (scheme name : String) :
    c.routed.count (scheme, name) = (c.schemesOf name).count scheme := by
  rw [h.routed_eq, schemesOf]
  induction c.routes with
  | nil => rfl
  | cons r routes ih =>
    by_cases hname : r.2.name = name <;> by_cases hscheme : r.1 = scheme <;>
      simp [hname, hscheme, ih]

theorem count_listed (c : Catalog σ κ) (scheme name : String) :
    c.listed.count (scheme, name) =
      (((c.leader? name).map Driver.schemes).getD []).count scheme := by
  rw [listed, Keyed.count_flatMap c.sorted_drivers, lookup_drivers]

theorem schemesOf_of_leader?_none {c : Catalog σ κ} {name : String} (h : c.leader? name = none) :
    c.schemesOf name = [] := by
  have hnone := List.find?_eq_none.mp (Option.map_eq_none_iff.mp h)
  rw [schemesOf, List.filter_eq_nil_iff.mpr hnone, List.map_nil]

theorem Ordered.truthful_iff {c : Catalog σ κ} (h : c.Ordered) :
    c.Truthful ↔ ∀ name d, c.leader? name = some d → d.schemes.Perm (c.schemesOf name) := by
  simp only [Truthful, List.perm_iff_count, Prod.forall, count_listed, h.count_routed]
  constructor
  · intro hcount name d hd scheme
    have hname := hcount scheme name
    rwa [hd] at hname
  · intro hperm scheme name
    cases hd : c.leader? name with
    | none => rw [schemesOf_of_leader?_none hd]; rfl
    | some d => exact hperm name d hd scheme

/-- After any registrations the list is sorted by name and has an entry for exactly the names of
drivers that are found for some scheme: the schemes that the driver found for the first of these
declares. It tells the truth exactly where each of these drivers declares, in some order, the
schemes for which drivers of its name are found. -/
theorem drivers_listed (ds : List (Driver σ κ)) :
    let c := ds.foldl register {}
    Keyed.Sorted c.drivers ∧
      (∀ name, c.drivers.lookup name = (c.leader? name).map Driver.schemes) ∧
      (c.Truthful ↔ ∀ name d, c.leader? name = some d → d.schemes.Perm (c.schemesOf name)) :=
  ⟨sorted_drivers _, lookup_drivers _, (ordered_empty.foldl_register ds).truthful_iff⟩

example : ([named "a" ["x", "y"], named "b" ["x"]].foldl register {}).listed =
    [("x", "a"), ("y", "a"), ("x", "b")] := by decide

end Catalog
end SqlGateway
