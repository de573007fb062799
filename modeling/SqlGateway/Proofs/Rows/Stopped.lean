import SqlGateway.Proofs.Rows.Protocols

namespace SqlGateway.Feed

variable {σ κ α : Type} {f : Feed σ} {s : σ} {rows : List Row} {m : ℕ}

/-- The visitor has enough on row `m` of these, and asks for more on all in front of it. -/
def EnoughAt (visit : κ → α → Verdict × κ) : κ → ℕ → List α → Prop
  | _, _, [] => True
  | _, 0, _ :: _ => False
  | k, 1, row :: _ => (visit k row).1 = .enough
  | k, m + 2, row :: rows => (visit k row).1 = .more ∧ EnoughAt visit (visit k row).2 (m + 1) rows

def keptOf (visit : κ → LiveRow → Verdict × κ) (k : κ) (rows : List LiveRow) : κ :=
  rows.foldl (fun k row ↦ (visit k row).2) k

theorem visitRows_enoughAt {visit : κ → LiveRow → Verdict × κ} {k : κ} {rows : List LiveRow}
    (h : EnoughAt visit k (m + 1) rows) :
    visitRows visit k rows none =
      (if rows.length ≤ m then .exhausted else .stopped, keptOf visit k (rows.take (m + 1))) := by
  induction rows generalizing m k with
  | nil => rfl
  | cons row rows ih =>
    cases m with
    | zero =>
      have hv : visit k row = (.enough, (visit k row).2) := Prod.ext h rfl
      rw [visitRows, hv]
      rfl
    | succ m =>
      obtain ⟨hmore, hrest⟩ := h
      have hv : visit k row = (.more, (visit k row).2) := Prod.ext hmore rfl
      rw [visitRows, hv]
      simp only [ih hrest, List.length_cons, Nat.add_le_add_iff_right]
      rfl

theorem advances_enoughAt {visit : κ → LiveRow → Verdict × κ} {k : κ} {rows : List LiveRow}
    (h : EnoughAt visit k (m + 1) rows) : advances visit k rows = min m rows.length := by
  induction rows generalizing m k with
  | nil => rw [advances, List.length_nil, Nat.min_zero]
  | cons row rows ih =>
    cases m with
    | zero =>
      have hv : visit k row = (.enough, (visit k row).2) := Prod.ext h rfl
      rw [advances, hv, Nat.zero_min]
    | succ m =>
      obtain ⟨hmore, hrest⟩ := h
      have hv : visit k row = (.more, (visit k row).2) := Prod.ext hmore rfl
      rw [advances, hv]
      simp only [ih hrest, List.length_cons, Nat.succ_min_succ]

def taking (limit : Option ℕ) (kept : List LiveRow) (row : LiveRow) : Verdict × List LiveRow :=
  (if limit = some (kept.length + 1) then .enough else .more, row :: kept)

theorem keptOf_taking (limit : Option ℕ) (rows kept : List LiveRow) :
    keptOf (taking limit) kept rows = rows.reverse ++ kept := by
  simp [keptOf, taking]

theorem enoughAt_taking (rows kept : List LiveRow) :
    EnoughAt (taking (some (kept.length + m + 1))) kept (m + 1) rows := by
  induction rows generalizing m kept with
  | nil => trivial
  | cons row rows ih =>
    cases m with
    | zero => exact if_pos rfl
    | succ m =>
      have hnext := ih (m := m) (row :: kept)
      have hcount : (row :: kept).length + m + 1 = kept.length + (m + 1) + 1 := by
        rw [List.length_cons]
        omega
      rw [hcount] at hnext
      refine ⟨if_neg ?_, hnext⟩
      rw [Option.some_inj]
      omega

theorem enoughAt_taking_none (rows kept : List LiveRow) :
    EnoughAt (taking none) kept (rows.length + 1) rows := by
  induction rows generalizing kept with
  | nil => trivial
  | cons row rows ih => exact ⟨rfl, ih (row :: kept)⟩

theorem take_enoughAt {limit : Option ℕ} {rows : List LiveRow} (h : f.Ahead s rows none)
    (hlimit : limit ≠ some 0) (henough : EnoughAt (taking limit) [] (m + 1) rows) :
    f.take limit s =
      (if rows.length ≤ m then .exhausted else .stopped, rows.take (m + 1),
        f.forward^[min m rows.length] s) := by
  have hwalk := walk_eq (taking limit) h []
  rw [visitRows_enoughAt henough, advances_enoughAt henough, keptOf_taking, List.append_nil]
    at hwalk
  have htake : f.take limit s =
      ((f.walk (taking limit) [] s).1, (f.walk (taking limit) [] s).2.1.reverse,
        (f.walk (taking limit) [] s).2.2) := if_neg hlimit
  rw [htake, hwalk, List.reverse_reverse]

theorem take_ahead {rows : List LiveRow} (h : f.Ahead s rows none) (m : ℕ) :
    f.take (some (m + 1)) s =
      (if rows.length ≤ m then .exhausted else .stopped, rows.take (m + 1),
        f.forward^[min m rows.length] s) := by
  have henough := enoughAt_taking (m := m) rows []
  rw [List.length_nil, Nat.zero_add] at henough
  exact take_enoughAt h (by simp) henough

theorem take_none_ahead {rows : List LiveRow} (h : f.Ahead s rows none) :
    ∃ s', f.take none s = (.exhausted, rows, s') := by
  have htake := take_enoughAt h (Option.some_ne_none _).symm (enoughAt_taking_none rows [])
  rw [if_pos (Nat.le_refl _), List.take_of_length_le (Nat.le_succ _)] at htake
  exact ⟨_, htake⟩

theorem enoughAt_calling {callback : κ → Row → Verdict × κ} {k : κ}
    (h : EnoughAt callback k m rows) (n : ℕ) :
    EnoughAt (calling callback) (n, k) m (rows.map Row.live) := by
  induction rows generalizing m n k with
  | nil => cases m <;> trivial
  | cons row rows ih =>
    match m, h with
    | 1, h => simpa [EnoughAt, calling, LiveRow.detach_live] using h
    | m + 2, ⟨hmore, hrest⟩ =>
      have hnext := ih hrest (n + 1)
      simpa [EnoughAt, calling, LiveRow.detach_live, hmore] using hnext

theorem keptOf_calling (callback : κ → Row → Verdict × κ) (n : ℕ) (k : κ) (rows : List Row) :
    keptOf (calling callback) (n, k) (rows.map Row.live) =
      (n + rows.length, afterCalls callback k rows) := by
  induction rows generalizing n k with
  | nil => rfl
  | cons row rows ih =>
    have hstep : keptOf (calling callback) (n, k) ((row :: rows).map Row.live) =
        keptOf (calling callback) (n + 1, (callback k row).2) (rows.map Row.live) := by
      simp [keptOf, calling, LiveRow.detach_live]
    rw [hstep, ih, List.length_cons, Nat.add_assoc, Nat.add_comm 1]
    rfl

theorem forEach_enoughAt {callback : κ → Row → Verdict × κ} {k : κ}
    (h : f.Ahead s (rows.map Row.live) none) (hk : EnoughAt callback k (m + 1) rows) :
    f.forEach callback k s =
      (.ok (rows.take (m + 1)).length, afterCalls callback k (rows.take (m + 1)),
        f.forward^[min m rows.length] s) := by
  have henough := enoughAt_calling hk 0
  rw [forEach_eq, walk_eq _ h, visitRows_enoughAt henough, advances_enoughAt henough,
    ← List.map_take, keptOf_calling, List.length_map, Nat.zero_add]
  split <;> rename_i heq <;> simp only [Prod.mk.injEq] at heq
  · split at heq <;> cases heq.1
  · obtain ⟨-, ⟨rfl, rfl⟩, rfl⟩ := heq
    rfl

end SqlGateway.Feed
