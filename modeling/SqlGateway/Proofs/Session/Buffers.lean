import SqlGateway.Proofs.Rows.Drains
import SqlGateway.Proofs.Session.Positions

namespace SqlGateway.Buffered

open Session (position)

/-- What a user does to a buffer. Besides moving on row by row there are the three ways to read it:
a loop that may be broken off, a callback that answers by the rows it was shown so far, and all at
once. -/
inductive Change where
  | addRow (row : Row)
  | addColumn (name : String) (type : ValueType) (originName originTable : String)
  | setStats (stats : Stats)
  | rewind
  | advance
  | loop (limit : Option ℕ)
  | each (answer : List Row → Verdict)
  | whole

def Change.apply : Change → Buffered → Buffered
  | addRow row, b => b.addRow row
  | addColumn name type originName originTable, b => b.addColumn name type originName originTable
  | setStats stats, b => b.setStats stats
  | rewind, b => b.rewind
  | advance, b => b.advance.2
  | loop limit, b => (feed.take limit b).2.2
  | each answer, b =>
    (feed.forEach (fun shown row ↦ (answer (row :: shown), row :: shown)) [] b).2.2
  | whole, b => (feed.collect b).2

def changed (b : Buffered) (changes : List Change) : Buffered :=
  changes.foldl (fun b change ↦ change.apply b) b

def added : List Change → List Row
  | [] => []
  | .addRow row :: changes => row :: added changes
  | _ :: changes => added changes

def addRows (b : Buffered) (rows : List Row) : Buffered := rows.foldl addRow b

variable {b : Buffered}

theorem added_cons (change : Change) (changes : List Change) :
    added (change :: changes) = added [change] ++ added changes := by
  cases change <;> rfl

theorem addRows_eq (b : Buffered) (rows : List Row) :
    b.addRows rows = { b with rows := b.rows ++ rows } := by
  induction rows generalizing b with
  | nil => rw [List.append_nil]; rfl
  | cons row rows ih =>
    have hstep : b.addRows (row :: rows) = (b.addRow row).addRows rows := rfl
    rw [hstep, ih, addRow, List.append_assoc, List.singleton_append]

/-- The buffer still holds its rows, with these behind them, and its cursor is on one of them or
right behind the last. -/
structure Extends (b : Buffered) (rows : List Row) (b' : Buffered) : Prop where
  rows_eq : b'.rows = b.rows ++ rows
  index_le : b'.index ≤ b'.rows.length

theorem Extends.iterate_forward (h : b.index ≤ b.rows.length) (m : ℕ) :
    b.Extends [] (feed.forward^[m] b) := by
  rw [Buffered.iterate_forward h]
  exact ⟨(List.append_nil _).symm, Nat.min_le_right _ _⟩

theorem Extends.apply (h : b.index ≤ b.rows.length) (change : Change) :
    b.Extends (added [change]) (change.apply b) := by
  cases change with
  | addRow row =>
    refine ⟨rfl, ?_⟩
    rw [Change.apply, addRow, List.length_append]
    exact Nat.le_add_right_of_le h
  | addColumn => exact ⟨(List.append_nil _).symm, h⟩
  | setStats => exact ⟨(List.append_nil _).symm, h⟩
  | rewind => exact ⟨(List.append_nil _).symm, Nat.zero_le _⟩
  | advance => exact .iterate_forward h 1
  | loop limit =>
    cases limit with
    | none =>
      rw [Change.apply, take_all h]
      exact ⟨(List.append_nil _).symm, Nat.le_refl _⟩
    | some m =>
      rw [Change.apply, take_part h]
      refine ⟨(List.append_nil _).symm, ?_⟩
      simp only [List.length_drop]
      split <;> omega
  | each answer =>
    obtain ⟨m, hm⟩ := Feed.forEach_ahead (fun shown row ↦ (answer (row :: shown), row :: shown))
      b.ahead []
    rw [Change.apply, hm]
    exact .iterate_forward h m
  | whole =>
    rw [Change.apply, collect_all h]
    exact ⟨(List.append_nil _).symm, Nat.le_refl _⟩

theorem Extends.changed (h : b.index ≤ b.rows.length) (changes : List Change) :
    b.Extends (added changes) (b.changed changes) := by
  induction changes generalizing b with
  | nil => exact ⟨(List.append_nil _).symm, h⟩
  | cons change changes ih =>
    obtain ⟨hrows, hindex⟩ := Extends.apply h change
    obtain ⟨hrest, hlast⟩ := ih hindex
    refine ⟨?_, hlast⟩
    rw [added_cons, ← List.append_assoc, ← hrows]
    exact hrest

/-- The buffer holds these rows and its cursor agrees with them. -/
structure Consistent (b : Buffered) (rows : List Row) : Prop where
  rows_eq : b.rows = rows
  index_le : b.index ≤ rows.length
  row_of_lt : ∀ i (h : i < rows.length), b.row i = .ok rows[i]
  row_of_le : ∀ i, rows.length ≤ i → b.row i = .error (.outOfRange i rows.length)
  hasRow_iff_current : b.hasRow = true ↔ ∃ row, b.current = .ok row
  hasRow_iff_position : ∀ {σ : Type} (s : Session σ) (id : ℕ),
    s.cursor? id = some (.buffered b) → (b.hasRow = true ↔ position id s ≠ .atEnd)
  current_at_end : b.hasRow = false → b.current = .error .invalidIterator
  advance_at_end : b.hasRow = false → b.advance = (false, b)
  current_addRows : ∀ more row, b.current = .ok row →
    (b.addRows more).current = .ok row ∧ (b.addRows more).index = b.index
  addRows_at_end : b.hasRow = false → ∀ row more,
    (b.addRows (row :: more)).current = .ok row ∧ (b.addRows (row :: more)).Drains (row :: more)
  drains : b.Drains (rows.drop b.index)
  rewound : b.rewind.Drains rows

theorem hasRow_iff_current : b.hasRow = true ↔ ∃ row, b.current = .ok row := by
  rw [hasRow, decide_eq_true_eq]
  constructor
  · intro h
    exact ⟨_, current_of_lt h⟩
  · rintro ⟨row, hrow⟩
    by_contra h
    rw [current_of_le (Nat.le_of_not_lt h)] at hrow
    cases hrow

theorem current_addRows {row : Row} (more : List Row) (h : b.current = .ok row) :
    (b.addRows more).current = .ok row := by
  have hlt : b.index < b.rows.length := of_decide_eq_true (hasRow_iff_current.mpr ⟨row, h⟩)
  rw [current_of_lt hlt] at h
  rw [addRows_eq, current, List.getElem?_append_left hlt, List.getElem?_eq_getElem hlt]
  exact h

theorem addRows_at_end (h : b.index = b.rows.length) (row : Row) (more : List Row) :
    (b.addRows (row :: more)).current = .ok row ∧
      (b.addRows (row :: more)).Drains (row :: more) := by
  have hle : (b.addRows (row :: more)).index ≤ (b.addRows (row :: more)).rows.length := by
    rw [addRows_eq, List.length_append]
    exact Nat.le_add_right_of_le (Nat.le_of_eq h)
  have hdrop : (b.addRows (row :: more)).rows.drop (b.addRows (row :: more)).index =
      row :: more := by
    rw [addRows_eq]
    simp only [h, List.drop_left]
  constructor
  · rw [addRows_eq, current]
    simp only [h, List.getElem?_append_right (Nat.le_refl _), Nat.sub_self,
      List.getElem?_cons_zero]
  · have hdrains := drains hle
    rwa [hdrop] at hdrains

theorem hasRow_iff_position {σ : Type} {s : Session σ} {id : ℕ}
    (h : s.cursor? id = some (.buffered b)) : b.hasRow = true ↔ position id s ≠ .atEnd := by
  have hrow : Session.hasRow id s = b.hasRow := by rw [Session.hasRow, h]
  rw [ne_eq, Session.position_eq_atEnd_iff, hrow, Bool.not_eq_false]

theorem consistent (h : b.index ≤ b.rows.length) : b.Consistent b.rows where
  rows_eq := rfl
  index_le := h
  row_of_lt i hi := by rw [row, List.getElem?_eq_getElem hi]
  row_of_le i hi := by rw [row, List.getElem?_eq_none hi]
  hasRow_iff_current := hasRow_iff_current
  hasRow_iff_position _ _ := hasRow_iff_position
  current_at_end hend := current_of_le (hasRow_eq_false_iff.mp hend)
  advance_at_end hend := advance_of_le (hasRow_eq_false_iff.mp hend)
  current_addRows more row hrow := by
    refine ⟨current_addRows more hrow, ?_⟩
    rw [addRows_eq]
  addRows_at_end hend := addRows_at_end (Nat.le_antisymm h (hasRow_eq_false_iff.mp hend))
  drains := drains h
  rewound := drains (Nat.zero_le _)

/-- Whatever is done to a buffer that starts at its first row, it holds the rows it began with and
those that were put in, and its cursor agrees with them. -/
theorem buffer_consistent (columns : Columns) (rows : List Row) (stats : Stats)
    (changes : List Change) :
    ((⟨columns, rows, stats, 0⟩ : Buffered).changed changes).Consistent
      (rows ++ added changes) := by
  obtain ⟨hrows, hindex⟩ := Extends.changed (b := ⟨columns, rows, stats, 0⟩) (Nat.zero_le _) changes
  rw [← hrows]
  exact consistent hindex

end SqlGateway.Buffered
