import SqlGateway.Catalog.Basic
import SqlGateway.Proofs.Keyed

namespace SqlGateway

namespace Catalog

variable {σ κ : Type}

theorem mem_register {c : Catalog σ κ} {d : Driver σ κ} {p : String × Driver σ κ}
    (h : p ∈ (c.register d).routes) : p.2 = d ∨ p ∈ c.routes := by
  unfold register at h
  generalize d.schemes = schemes at h
  generalize c.routes = routes at h ⊢
  induction schemes generalizing routes with
  | nil => exact .inr h
  | cons scheme schemes ih =>
    rcases ih _ h with h | h
    · exact .inl h
    · rcases Keyed.mem_insert h with rfl | h
      · exact .inl rfl
      · exact .inr h

theorem mem_foldl_register {drivers : List (Driver σ κ)} {c : Catalog σ κ} {p : String × Driver σ κ}
    (h : p ∈ (drivers.foldl register c).routes) : p.2 ∈ drivers ∨ p ∈ c.routes := by
  induction drivers generalizing c with
  | nil => exact .inr h
  | cons d drivers ih =>
    rcases ih h with h | h
    · exact .inl (List.mem_cons_of_mem _ h)
    · rcases mem_register h with rfl | h
      · exact .inl List.mem_cons_self
      · exact .inr h

theorem mem_routes {drivers : List (Driver σ κ)} {p : String × Driver σ κ}
    (h : p ∈ (drivers.foldl register {} : Catalog σ κ).routes) : p.2 ∈ drivers := by
  rcases mem_foldl_register h with h | h
  · exact h
  · cases h

theorem create_cases (drivers : List (Driver σ κ)) (url : String) (s : σ) :
    ((drivers.foldl register {} : Catalog σ κ).create url s).2 = s ∨
      ∃ d ∈ drivers, ∃ scheme target,
        ((drivers.foldl register {} : Catalog σ κ).create url s).2 =
          (d.connect scheme target s).2 := by
  unfold create
  split
  · exact .inl rfl
  · rename_i scheme target _
    split
    · exact .inl rfl
    · rename_i d hd
      obtain ⟨before, after, hroutes, -⟩ := List.lookup_eq_some_iff.mp hd
      have hmem : (Text.lowerText scheme, d) ∈
          (drivers.foldl register {} : Catalog σ κ).routes := by simp [hroutes]
      exact .inr ⟨d, mem_routes hmem, scheme, target, rfl⟩

end Catalog
end SqlGateway
