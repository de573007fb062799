import SqlGateway.Command.Printer
import SqlGateway.Proofs.Keyed

namespace SqlGateway.Command.Printer

def columns (p : Printer) (row : Row) : List (String × String) :=
  p.names.zip (row.map Value.json)

/-- Column `i` is in the object of a row: under its name stands the form of its value. -/
def Shows (p : Printer) (row : Row) (i : ℕ) : Prop :=
  ∀ name form, (p.columns row)[i]? = some (name, form) →
    (p.members row).lookup name = some form

variable {p : Printer} {row : Row}

theorem members_eq (hlen : row.length = p.names.length) :
    p.members row = Keyed.ofList (p.columns row) := by
  unfold members columns
  congr 1
  apply List.ext_getElem
  · simp [hlen]
  · intro i hrow hzip
    have hi : i < p.names.length := by simp at hzip; omega
    simp [List.getD_eq_getElem?_getD, hi]

theorem lookup_members (hlen : row.length = p.names.length) (name : String) :
    (p.members row).lookup name = (p.columns row).reverse.lookup name := by
  rw [members_eq hlen, Keyed.lookup_ofList]

theorem mem_keys_members (hlen : row.length = p.names.length) (name : String) :
    name ∈ (p.members row).map Prod.fst ↔ name ∈ p.names := by
  rw [members_eq hlen, Keyed.mem_keys_ofList, columns, List.map_fst_zip (by simp [hlen])]

theorem shows_iff {i : ℕ} {name form : String} (hi : (p.columns row)[i]? = some (name, form)) :
    p.Shows row i ↔ (p.members row).lookup name = some form := by
  constructor
  · intro hshows
    exact hshows name form hi
  · intro hlookup name' form' hi'
    cases hi.symm.trans hi'
    exact hlookup

theorem forall_shows_iff (hlen : row.length = p.names.length) :
    (∀ i, p.Shows row i) ↔ ∀ name form form', (name, form) ∈ p.columns row →
      (name, form') ∈ p.columns row → form = form' := by
  constructor
  · intro hall name form form' hform hform'
    obtain ⟨i, hi⟩ := List.mem_iff_getElem?.mp hform
    obtain ⟨j, hj⟩ := List.mem_iff_getElem?.mp hform'
    exact Option.some.inj ((hall i name form hi).symm.trans (hall j name form' hj))
  · intro hsame i name form hi
    have hmem := List.mem_of_getElem? hi
    have hkey : name ∈ (p.columns row).reverse.map Prod.fst := by
      rw [List.map_reverse, List.mem_reverse]
      exact List.mem_map_of_mem hmem
    -- what the object shows for the name is the form of some column of this name
    obtain ⟨last, hlast⟩ := Option.isSome_iff_exists.mp (Keyed.mem_keys_iff.mp hkey)
    obtain ⟨before, after, hcolumns, -⟩ := List.lookup_eq_some_iff.mp hlast
    have hlastmem : (name, last) ∈ p.columns row := by
      rw [← List.mem_reverse, hcolumns]
      simp
    rw [lookup_members hlen, hlast, hsame name form last hmem hlastmem]

/-- A row with a value for every column is printed as one object with a member for each name and no
others: the one that comes first from the end of the row. A column is shown where it has the same
JSON form as that one, so all are shown exactly where columns of one name never differ. -/
theorem columns_shown (p : Printer) (row : Row) (hformat : p.style.format = .json)
    (hlen : row.length = p.names.length) :
    p.row row = line (Text.Json.object (p.members row)) ∧ Keyed.Sorted (p.members row) ∧
      (∀ name, name ∈ (p.members row).map Prod.fst ↔ name ∈ p.names) ∧
      (∀ i name form, (p.columns row)[i]? = some (name, form) →
        (p.Shows row i ↔ (p.columns row).reverse.lookup name = some form)) ∧
      ((∀ i, p.Shows row i) ↔ ∀ name form form', (name, form) ∈ p.columns row →
        (name, form') ∈ p.columns row → form = form') := by
  refine ⟨?_, Keyed.sorted_ofList _, mem_keys_members hlen, ?_, forall_shows_iff hlen⟩
  · rw [Printer.row, hformat]
  · intro i name form hi
    rw [shows_iff hi, lookup_members hlen]

def joined : Printer := ⟨{ format := .json }, ["id", "name", "id"]⟩

theorem columns_shown_joined :
    let row : Row := [.int 1, .string "x", .int 2]
    joined.style.format = .json ∧ row.length = joined.names.length ∧
      joined.row row = "\x7b\"id\":2,\"name\":\"x\"\x7d\n" ∧ ¬ joined.Shows row 0 ∧
      joined.Shows row 1 ∧ joined.Shows row 2 := by
  intro row
  obtain ⟨hrow, -, -, hshows, -⟩ := columns_shown joined row rfl rfl
  refine ⟨rfl, rfl, hrow.trans (by decide), ?_, ?_, ?_⟩
  · rw [hshows 0 "id" "1" (by decide)]
    decide
  · rw [hshows 1 "name" "\"x\"" (by decide)]
    decide
  · rw [hshows 2 "id" "2" (by decide)]
    decide

end SqlGateway.Command.Printer
