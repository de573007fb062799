import SqlGateway.Proofs.Sqlite.Stepping

namespace SqlGateway.Sqlite

/-- A native statement is rewound, on a row, or at the end of a run, from where another step would
run it again. -/
inductive Phase where
  | ready
  | onRow
  | halted
deriving DecidableEq, Repr

inductive Call where
  | step (met : Phase)
  | bind (met : Phase)
  | reset (met : Phase)
deriving DecidableEq, Repr

/-- Nobody steps a statement at its end, and values come only to a statement that is rewound. -/
def Call.Lawful : Call → Prop
  | step met => met ≠ .halted
  | bind met => met = .ready
  | reset _ => True

def Outcome.phase : Outcome → Phase
  | row => .onRow
  | done | failed _ => .halted

structure Watched (σ : Type) where
  inner : σ
  phase : Phase := .ready
  calls : List Call := []

variable {σ : Type}

def Watched.pass {α : Type} (f : σ → α × σ) (w : Watched σ) : α × Watched σ :=
  ((f w.inner).1, { w with inner := (f w.inner).2 })

/-- Notes every request that moves one native statement, with the phase in which it met the
statement. A value that comes while the statement is not rewound is refused, and where the statement
stands on no row an arbitrary one is shown. -/
def watch (E : Engine σ) (native : Nat) (stray : List Sql.Datum) : Engine (Watched σ) where
  openDatabase path := Watched.pass (E.openDatabase path)
  closeDatabase database w := { w with inner := E.closeDatabase database w.inner }
  prepare database text := Watched.pass (E.prepare database text)
  finalize n w := { w with inner := E.finalize n w.inner }
  step n w :=
    if n = native then
      ((E.step n w.inner).1,
        ⟨(E.step n w.inner).2, (E.step n w.inner).1.phase, w.calls ++ [.step w.phase]⟩)
    else w.pass (E.step n)
  reset n w :=
    if n = native then ⟨E.reset n w.inner, .ready, w.calls ++ [.reset w.phase]⟩
    else { w with inner := E.reset n w.inner }
  bind n index d w :=
    if n = native then
      if w.phase = .ready then
        ((E.bind n index d w.inner).1,
          ⟨(E.bind n index d w.inner).2, w.phase, w.calls ++ [.bind w.phase]⟩)
      else (.error (misuse "bad parameter or other API misuse"),
        { w with calls := w.calls ++ [.bind w.phase] })
    else w.pass (E.bind n index d)
  parameters n w := E.parameters n w.inner
  columns n w := E.columns n w.inner
  row n w := if n = native ∧ w.phase ≠ .onRow then stray else E.row n w.inner
  counters database w := E.counters database w.inner

variable (E : Engine σ) (stray : List Sql.Datum) {p : Statement}

section Requests

variable (n : Nat) (w : Watched σ)

@[simp]
theorem step_watch : (watch E n stray).step n w =
    ((E.step n w.inner).1,
      ⟨(E.step n w.inner).2, (E.step n w.inner).1.phase, w.calls ++ [.step w.phase]⟩) := by
  simp [watch]

@[simp]
theorem reset_watch : (watch E n stray).reset n w =
    ⟨E.reset n w.inner, .ready, w.calls ++ [.reset w.phase]⟩ := by simp [watch]

theorem bind_watch_ready (h : w.phase = .ready) (index : Nat) (d : Sql.Datum) :
    (watch E n stray).bind n index d w =
      ((E.bind n index d w.inner).1,
        ⟨(E.bind n index d w.inner).2, .ready, w.calls ++ [.bind .ready]⟩) := by simp [watch, h]

theorem row_watch_onRow (h : w.phase = .onRow) : (watch E n stray).row n w = E.row n w.inner := by
  simp [watch, h]

@[simp]
theorem columns_watch (m : Nat) : (watch E n stray).columns m w = E.columns m w.inner := rfl

@[simp]
theorem counters_watch (database : Nat) :
    (watch E n stray).counters database w = E.counters database w.inner := rfl

@[simp]
theorem statsSince_watch (mark : Counters) (database : Nat) :
    (watch E n stray).statsSince mark database w = E.statsSince mark database w.inner := rfl

end Requests

theorem capture_watch {w : Watched σ} (size : Nat) (h : w.phase = .onRow) :
    capture (watch E p.native stray) p size w = capture E p size w.inner := by
  simp only [capture, row_watch_onRow E stray p.native w h]

theorem execute_watch (p : Statement) (w : Watched σ) :
    ∃ phase tail,
      p.execute (watch E p.native stray) w =
        ((p.execute E w.inner).1, (p.execute E w.inner).2.1, ⟨(p.execute E w.inner).2.2, phase,
          w.calls ++ .reset w.phase :: .step .ready :: tail⟩) ∧
      (tail = [] ∨ tail = [.reset .halted]) ∧
      ((p.execute E w.inner).2.1.onRow = true ↔ phase = .onRow) := by
  rcases hstep : E.step p.native (E.reset p.native w.inner) with ⟨o, s⟩
  cases o with
  | row =>
    refine ⟨.onRow, [], ?_, .inl rfl, ?_⟩
    · simp [Statement.execute, Statement.invalidate, Statement.reset, hstep, Outcome.phase, capture,
        row_watch_onRow]
    · simp [Statement.execute, Statement.invalidate, Statement.reset, hstep]
  | done =>
    refine ⟨.halted, [], ?_, .inl rfl, ?_⟩
    · simp [Statement.execute, Statement.invalidate, Statement.reset, hstep, Outcome.phase]
    · simp [Statement.execute, Statement.invalidate, Statement.reset, hstep]
  | failed f =>
    refine ⟨.ready, [.reset .halted], ?_, .inr rfl, ?_⟩
    · simp [Statement.execute, Statement.invalidate, Statement.reset, hstep, Outcome.phase]
    · simp [Statement.execute, Statement.invalidate, Statement.reset, hstep]

theorem bind_watch {index : Nat} (h : 1 ≤ index ∧ index ≤ p.parameters) (v : Value)
    (w : Watched σ) :
    ∃ added, (added = [.reset w.phase] ∨ added = [.reset w.phase, .bind .ready]) ∧
      p.bind (watch E p.native stray) index v w =
        ((p.bind E index v w.inner).1, (p.bind E index v w.inner).2.1,
          ⟨(p.bind E index v w.inner).2.2, .ready, w.calls ++ added⟩) := by
  have hslot := parameterSlot_of_range h
  cases hsize : oversized? v with
  | some e =>
    refine ⟨[.reset w.phase], .inl rfl, ?_⟩
    simp [Statement.bind, hslot, hsize, Statement.invalidate, Statement.reset]
  | none =>
    refine ⟨[.reset w.phase, .bind .ready], .inr rfl, ?_⟩
    rcases hbind : E.bind p.native index (parameterDatum v) (E.reset p.native w.inner) with ⟨r, s⟩
    cases r with
    | error f =>
      simp [Statement.bind, hslot, hsize, Statement.invalidate, Statement.reset, hbind,
        bind_watch_ready]
    | ok u =>
      simp [Statement.bind, hslot, hsize, Statement.invalidate, Statement.reset, hbind,
        bind_watch_ready]

theorem advance_watch (c : Cursor) {w : Watched σ} (h : p.onRow = true ↔ w.phase = .onRow) :
    ∃ phase added,
      c.advance (watch E p.native stray) p w =
        ((c.advance E p w.inner).1, (c.advance E p w.inner).2.1, (c.advance E p w.inner).2.2.1,
          ⟨(c.advance E p w.inner).2.2.2, phase, w.calls ++ added⟩) ∧
      ((c.advance E p w.inner).2.2.1.onRow = true ↔ phase = .onRow) ∧
      (added = [] ∧ phase = w.phase ∨
        c.isCurrent p = true ∧ w.phase = .onRow ∧
          (added = [.step .onRow] ∨ added = [.step .onRow, .reset .halted])) := by
  by_cases hc : c.isCurrent p = true
  · by_cases hr : p.onRow = true
    · have hphase := h.mp hr
      rw [Cursor.advance_onRow hc hr, Cursor.advance_onRow hc hr, step_watch, hphase]
      rcases hstep : E.step p.native w.inner with ⟨o, s⟩
      cases o with
      | row =>
        refine ⟨.onRow, [.step .onRow], ?_, by simp [hr], .inr ⟨hc, rfl, .inl rfl⟩⟩
        simp [Outcome.phase, capture_watch]
      | done => exact ⟨.halted, [.step .onRow], rfl, by simp, .inr ⟨hc, rfl, .inl rfl⟩⟩
      | failed f =>
        refine ⟨.ready, [.step .onRow, .reset .halted], ?_, ?_, .inr ⟨hc, rfl, .inr rfl⟩⟩
        · simp [Statement.reset, Outcome.phase]
        · simp [Statement.reset]
    · have hr' : p.onRow = false := by simpa using hr
      refine ⟨w.phase, [], ?_, ?_, .inl ⟨rfl, rfl⟩⟩
      · simp [Cursor.advance, hc, hr']
      · simpa [Cursor.advance, hc, hr'] using h
  · have hc' : c.isCurrent p = false := by simpa using hc
    refine ⟨w.phase, [], ?_, ?_, .inl ⟨rfl, rfl⟩⟩
    · simp [Cursor.advance_stale hc']
    · simpa [Cursor.advance_stale hc'] using h

theorem drop_watch_current {c : Cursor} (h : c.isCurrent p = true) (w : Watched σ) :
    c.drop (watch E p.native stray) p w =
      ((c.drop E p w.inner).1, ⟨(c.drop E p w.inner).2, .ready, w.calls ++ [.reset w.phase]⟩) := by
  simp [Cursor.drop, h, Statement.reset]

theorem drop_stale {c : Cursor} (h : c.isCurrent p = false) (s : σ) : c.drop E p s = (p, s) := by
  simp [Cursor.drop, h]

theorem current_watch (c : Cursor) {w : Watched σ} (h : p.onRow = true ↔ w.phase = .onRow) :
    c.current (watch E p.native stray) p w = c.current E p w.inner := by
  by_cases hr : c.hasRow p = true
  · have hrow : p.onRow = true := (Bool.and_eq_true_iff.mp hr).2
    simp only [Cursor.current, row_watch_onRow E stray p.native w (h.mp hrow)]
  · simp [Cursor.current, hr]

end SqlGateway.Sqlite
