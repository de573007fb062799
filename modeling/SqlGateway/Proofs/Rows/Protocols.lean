import SqlGateway.Proofs.Rows.Walk
import SqlGateway.Proofs.Success

namespace SqlGateway

/-- The values of rows up to the first one that cannot be read, and the failure that ends them. -/
def readable : List LiveRow → Option Error → List Row × Option Error
  | [], e => ([], e)
  | row :: rows, e =>
    match row.detach with
    | .error failure => ([], some failure)
    | .ok values => (values :: (readable rows e).1, (readable rows e).2)

theorem LiveRow.eq_live_of_detach {row : LiveRow} {values : Row} (h : row.detach = .ok values) :
    row = values.live := by
  induction row generalizing values with
  | nil =>
    cases h
    rfl
  | cons cell row ih =>
    cases cell with
    | error e => cases h
    | ok v =>
      obtain ⟨rest, hrest, rfl⟩ := map_eq_ok_iff.mp h
      rw [ih hrest]
      rfl

theorem LiveRow.getElem?_of_detach {row : LiveRow} {values : Row} {j : ℕ} {v : Value}
    (h : row.detach = .ok values) (hv : row.value j = .ok v) : values[j]? = some v := by
  rw [eq_live_of_detach h, value, Row.live, List.getElem?_map] at hv
  cases hj : values[j]? with
  | none => simp [hj] at hv
  | some w => simpa [hj] using hv

theorem readable_getElem? {rows : List LiveRow} {e : Option Error} {i : ℕ} {values : Row}
    (h : (readable rows e).1[i]? = some values) :
    ∃ row, rows[i]? = some row ∧ row.detach = .ok values := by
  induction rows generalizing i with
  | nil => cases h
  | cons row rows ih =>
    cases hd : row.detach with
    | error failure => simp [readable, hd] at h
    | ok first =>
      simp only [readable, hd] at h
      cases i with
      | zero =>
        cases h
        exact ⟨row, rfl, hd⟩
      | succ i => exact ih h

theorem readable_live (rows : List Row) (e : Option Error) :
    readable (rows.map Row.live) e = (rows, e) := by
  induction rows with
  | nil => rfl
  | cons row rows ih => simp [readable, LiveRow.detach_live, ih]

def Ending.ofFailure : Option Error → Ending
  | none => .exhausted
  | some e => .failed e

namespace Feed

variable {σ κ : Type}

def reading (read : List Row) (row : LiveRow) : Verdict × List Row :=
  match row.detach with
  | .error e => (.fail e, read)
  | .ok values => (.more, values :: read)

def readAll (f : Feed σ) (s : σ) : Ending × List Row × σ :=
  let (ending, rows, s) := f.walk reading [] s
  (ending, rows.reverse, s)

theorem visitRows_reading (rows : List LiveRow) (e : Option Error) (read : List Row) :
    visitRows reading read rows e =
      (Ending.ofFailure (readable rows e).2, (readable rows e).1.reverse ++ read) := by
  induction rows generalizing read with
  | nil => cases e <;> rfl
  | cons row rows ih =>
    cases hd : row.detach with
    | error failure => simp [visitRows, reading, readable, hd, Ending.ofFailure]
    | ok values => simp [visitRows, reading, readable, hd, ih]

variable (callback : κ → Row → Verdict × κ)

def afterCalls (k : κ) (rows : List Row) : κ := rows.foldl (fun k row ↦ (callback k row).2) k

def GoesOn : κ → List Row → Prop
  | _, [] => True
  | k, row :: rows => (callback k row).1 = .more ∧ GoesOn (callback k row).2 rows

def showRows : ℕ → κ → List Row → Option Error → Result ℕ × κ
  | n, k, [], none => (.ok n, k)
  | _, k, [], some e => (.error e, k)
  | n, k, row :: rows, e =>
    match callback k row with
    | (.more, k) => showRows (n + 1) k rows e
    | (.enough, k) => (.ok (n + 1), k)
    | (.fail e, k) => (.error e, k)

theorem showRows_goesOn (n : ℕ) (k : κ) (rows : List Row) (e : Option Error)
    (h : GoesOn callback k rows) :
    showRows callback n k rows e =
      (match e with
        | none => .ok (n + rows.length)
        | some e => .error e, afterCalls callback k rows) := by
  induction rows generalizing n k with
  | nil => cases e <;> rfl
  | cons row rows ih =>
    obtain ⟨hm, hrest⟩ := h
    have hc : callback k row = (.more, (callback k row).2) := Prod.ext hm rfl
    rw [showRows, hc]
    simp only [ih (n + 1) _ hrest, afterCalls, List.foldl_cons, List.length_cons]
    cases e <;> simp [Nat.add_comm, Nat.add_left_comm]

theorem showRows_append (n : ℕ) (k : κ) (before rest : List Row) (e : Option Error)
    (h : GoesOn callback k before) :
    showRows callback n k (before ++ rest) e =
      showRows callback (n + before.length) (afterCalls callback k before) rest e := by
  induction before generalizing n k with
  | nil => rfl
  | cons row before ih =>
    obtain ⟨hm, hrest⟩ := h
    have hc : callback k row = (.more, (callback k row).2) := Prod.ext hm rfl
    rw [List.cons_append, showRows, hc]
    simp only [ih (n + 1) _ hrest, afterCalls, List.foldl_cons, List.length_cons]
    rw [Nat.add_assoc, Nat.add_comm 1]

theorem showRows_enough (n : ℕ) (k : κ) (before : List Row) (row : Row) (rest : List Row)
    (e : Option Error) (h : GoesOn callback k before)
    (hv : (callback (afterCalls callback k before) row).1 = .enough) :
    showRows callback n k (before ++ row :: rest) e =
      (.ok (n + before.length + 1), afterCalls callback k (before ++ [row])) := by
  have hc : callback (afterCalls callback k before) row =
      (.enough, (callback (afterCalls callback k before) row).2) := Prod.ext hv rfl
  rw [showRows_append callback n k before _ e h, showRows, hc]
  simp [afterCalls]

theorem showRows_fail (n : ℕ) (k : κ) (before : List Row) (row : Row) (rest : List Row)
    (e : Option Error) (failure : Error) (h : GoesOn callback k before)
    (hv : (callback (afterCalls callback k before) row).1 = .fail failure) :
    showRows callback n k (before ++ row :: rest) e =
      (.error failure, afterCalls callback k (before ++ [row])) := by
  have hc : callback (afterCalls callback k before) row =
      (.fail failure, (callback (afterCalls callback k before) row).2) := Prod.ext hv rfl
  rw [showRows_append callback n k before _ e h, showRows, hc]
  simp [afterCalls]

/-- How a callback is shown values with a failure behind them: on each in order it is called once,
until it does not ask for more. The answer is the number of calls, or the failure that it met. -/
structure Shown (k : κ) (values : List Row) (failure : Option Error) (answer : Result ℕ)
    (kept : κ) : Prop where
  all : GoesOn callback k values →
    answer = (match failure with
      | none => .ok values.length
      | some e => .error e) ∧
    kept = afterCalls callback k values
  enough : ∀ before row rest, values = before ++ row :: rest → GoesOn callback k before →
    (callback (afterCalls callback k before) row).1 = .enough →
    answer = .ok (before.length + 1) ∧ kept = afterCalls callback k (before ++ [row])
  fail : ∀ before row rest e, values = before ++ row :: rest → GoesOn callback k before →
    (callback (afterCalls callback k before) row).1 = .fail e →
    answer = .error e ∧ kept = afterCalls callback k (before ++ [row])

theorem shown_showRows (k : κ) (values : List Row) (failure : Option Error) :
    Shown callback k values failure (showRows callback 0 k values failure).1
      (showRows callback 0 k values failure).2 where
  all hgo := by
    rw [showRows_goesOn callback 0 k values failure hgo]
    cases failure <;> simp
  enough before row rest hvalues hgo hv := by
    rw [hvalues, showRows_enough callback 0 k before row rest failure hgo hv]
    simp
  fail before row rest e hvalues hgo hv := by
    rw [hvalues, showRows_fail callback 0 k before row rest failure e hgo hv]
    exact ⟨rfl, rfl⟩

def calling (k : ℕ × κ) (row : LiveRow) : Verdict × ℕ × κ :=
  match row.detach with
  | .error e => (.fail e, k)
  | .ok values => ((callback k.2 values).1, k.1 + 1, (callback k.2 values).2)

def counted : Ending × ℕ × κ → Result ℕ × κ
  | (.failed e, _, k) => (.error e, k)
  | (_, n, k) => (.ok n, k)

theorem visitRows_calling (rows : List LiveRow) (e : Option Error) (n : ℕ) (k : κ) :
    counted (visitRows (calling callback) (n, k) rows e) =
      showRows callback n k (readable rows e).1 (readable rows e).2 := by
  induction rows generalizing n k with
  | nil => cases e <;> rfl
  | cons row rows ih =>
    cases hd : row.detach with
    | error failure => simp [visitRows, calling, counted, readable, hd, showRows]
    | ok values =>
      cases hc : callback k values with
      | mk verdict k' =>
        cases verdict with
        | more => simp [visitRows, calling, readable, hd, showRows, hc, ih (n + 1) k']
        | enough => simp [visitRows, calling, counted, readable, hd, showRows, hc]
        | fail x => simp [visitRows, calling, counted, readable, hd, showRows, hc]

def handing (k : κ) (row : LiveRow) : Verdict × κ :=
  match row.detach with
  | .error e => (.fail e, k)
  | .ok values => callback k values

theorem visitRows_calling_eq (rows : List LiveRow) (e : Option Error) (n : ℕ) (k : κ) :
    ∃ calls, visitRows (calling callback) (n, k) rows e =
      ((visitRows (handing callback) k rows e).1, calls,
        (visitRows (handing callback) k rows e).2) := by
  induction rows generalizing n k with
  | nil => cases e <;> exact ⟨n, rfl⟩
  | cons row rows ih =>
    cases hd : row.detach with
    | error failure => exact ⟨n, by simp [visitRows, calling, handing, hd]⟩
    | ok values =>
      cases hc : callback k values with
      | mk verdict k' =>
        cases verdict with
        | more =>
          obtain ⟨calls, hcalls⟩ := ih (n + 1) k'
          exact ⟨calls, by simp [visitRows, calling, handing, hd, hc, hcalls]⟩
        | enough => exact ⟨n + 1, by simp [visitRows, calling, handing, hd, hc]⟩
        | fail x => exact ⟨n + 1, by simp [visitRows, calling, handing, hd, hc]⟩

theorem advances_calling (rows : List LiveRow) (n : ℕ) (k : κ) :
    advances (calling callback) (n, k) rows = advances (handing callback) k rows := by
  induction rows generalizing n k with
  | nil => rfl
  | cons row rows ih =>
    cases hd : row.detach with
    | error failure => simp [advances, calling, handing, hd]
    | ok values =>
      cases hc : callback k values with
      | mk verdict k' => cases verdict <;> simp [advances, calling, handing, hd, hc, ih (n + 1) k']

def keeping (kept : List Row) (row : Row) : Verdict × List Row := (.more, row :: kept)

theorem goesOn_keeping (rows kept : List Row) : GoesOn keeping kept rows := by
  induction rows generalizing kept with
  | nil => trivial
  | cons row rows ih => exact ⟨rfl, ih _⟩

theorem afterCalls_keeping (rows kept : List Row) :
    afterCalls keeping kept rows = rows.reverse ++ kept := by
  simp [afterCalls, keeping]

variable {f : Feed σ} {s : σ} {rows : List LiveRow} {e : Option Error}

theorem readAll_ahead (h : f.Ahead s rows e) :
    ∃ m, f.readAll s =
      (Ending.ofFailure (readable rows e).2, (readable rows e).1, f.forward^[m] s) := by
  obtain ⟨m, hm⟩ := walk_ahead reading h []
  refine ⟨m, ?_⟩
  rw [readAll, hm, visitRows_reading]
  simp

theorem forEach_eq (k : κ) (s : σ) :
    f.forEach callback k s =
      match f.walk (calling callback) (0, k) s with
      | (.failed e, (_, k), s) => (.error e, k, s)
      | (_, (n, k), s) => (.ok n, k, s) := rfl

theorem collect_eq (s : σ) :
    f.collect s =
      match f.forEach keeping [] s with
      | (.error e, _, s) => (.error e, s)
      | (.ok _, rows, s) => (.ok rows.reverse, s) := rfl

theorem forEach_ahead (h : f.Ahead s rows e) (k : κ) :
    ∃ m, f.forEach callback k s =
      ((showRows callback 0 k (readable rows e).1 (readable rows e).2).1,
        (showRows callback 0 k (readable rows e).1 (readable rows e).2).2, f.forward^[m] s) := by
  obtain ⟨m, hm⟩ := walk_ahead (calling callback) h (0, k)
  refine ⟨m, ?_⟩
  rw [forEach_eq, hm, ← visitRows_calling callback rows e 0 k]
  rcases visitRows (calling callback) (0, k) rows e with ⟨ending, n, k'⟩
  cases ending <;> rfl

/-- The callback protocol is the loop that hands each row on. -/
theorem forEach_handing (h : f.Ahead s rows e) (k : κ) :
    ∃ calls, f.forEach callback k s =
      match f.walk (handing callback) k s with
      | (.failed e, k, s) => (.error e, k, s)
      | (_, k, s) => (.ok calls, k, s) := by
  obtain ⟨calls, hcalls⟩ := visitRows_calling_eq callback rows e 0 k
  refine ⟨calls, ?_⟩
  rw [forEach_eq, walk_eq _ h, walk_eq _ h, hcalls, advances_calling]
  cases (visitRows (handing callback) k rows e).1 <;> rfl

theorem forEach_nothing (h : f.hasRow s = false) (k : κ) :
    f.forEach callback k s = (.ok 0, k, s) := by
  rw [forEach_eq, walk_nothing _ h]

theorem collect_nothing (h : f.hasRow s = false) : f.collect s = (.ok [], s) := by
  rw [collect_eq, forEach_nothing _ h]
  rfl

theorem collect_ahead (h : f.Ahead s rows e) :
    ∃ m, f.collect s =
      (match (readable rows e).2 with
        | none => .ok (readable rows e).1
        | some e => .error e, f.forward^[m] s) := by
  obtain ⟨m, hm⟩ := forEach_ahead keeping h []
  refine ⟨m, ?_⟩
  rw [collect_eq, hm, showRows_goesOn keeping _ _ _ _ (goesOn_keeping _ _)]
  cases (readable rows e).2 with
  | none => simp [afterCalls_keeping]
  | some failure => rfl

end Feed
end SqlGateway
