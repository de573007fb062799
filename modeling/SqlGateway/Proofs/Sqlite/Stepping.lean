import SqlGateway.Sqlite.Statement

namespace SqlGateway

theorem parameterSlot_of_range {index count : Nat} (h : 1 ≤ index ∧ index ≤ count) :
    parameterSlot index count = .ok (index - 1) := by
  rw [parameterSlot, if_neg (by omega)]

theorem parameterSlot_of_not_range {index count : Nat} (h : ¬ (1 ≤ index ∧ index ≤ count)) :
    ∃ e, parameterSlot index count = .error e := by
  rw [parameterSlot, if_pos (by omega)]
  exact ⟨_, rfl⟩

namespace Sqlite

variable {σ : Type} {E : Engine σ}

def shownRow (cols : Columns) (row : List Sql.Datum) : LiveRow :=
  cols.zipIdx.map fun (_, i) ↦
    .ok ((StorageClass.ofDatum (row.getD i .null)).read (row.getD i .null))

/-- Rows that a native statement still steps to, and the failure of the step behind them. -/
inductive Engine.Steps (E : Engine σ) (native : Nat) (cols : Columns) :
    σ → List LiveRow → Option Error → Prop
  | done {s s' : σ} : E.step native s = (.done, s') → Steps E native cols s [] none
  | failed {s s' : σ} {f : Failure} :
      E.step native s = (.failed f, s') → Steps E native cols s [] (some (f.at .fetch))
  | row {s s' : σ} {rows : List LiveRow} {e : Option Error} :
      E.step native s = (.row, s') → Steps E native cols s' rows e →
      Steps E native cols s (shownRow cols (E.row native s') :: rows) e

theorem length_describe (onRow : Bool) (classes : List StorageClass) (cols : List ResultColumn) :
    (describe onRow classes cols).length = cols.length := by
  suffices h : ∀ (l : List (ResultColumn × Nat)) (known : Columns)
      (f : ResultColumn × Nat → StorageClass),
      (l.foldl (fun known p ↦ known.add p.1.name (columnType onRow (f p) p.1.declared) (f p).code
        p.1.originName p.1.originTable) known).length = known.length + l.length by
    simpa [describe] using h cols.zipIdx [] _
  intro l known f
  induction l generalizing known with
  | nil => rfl
  | cons p l ih =>
    rw [List.foldl_cons, ih, Columns.add, List.length_append]
    simp only [List.length_cons, List.length_nil]
    omega

namespace Statement

variable {t t' : Statement} {c : Cursor} {s s' : σ}

theorem prepareStatement_ok {database : Nat} {sql : String}
    (h : E.prepareStatement database sql s = (.ok t, s')) : t.generation = 0 ∧ t.onRow = false := by
  unfold Engine.prepareStatement at h
  split at h
  · simp at h
  · split at h <;> simp only [Prod.mk.injEq, Except.ok.injEq, reduceCtorEq, false_and] at h
    obtain ⟨rfl, -⟩ := h
    exact ⟨rfl, rfl⟩

theorem bind_out_of_range {index : Nat} (h : ¬ (1 ≤ index ∧ index ≤ t.parameters)) (v : Value) :
    ∃ e, ∀ {τ : Type} (E : Engine τ) (s : τ), t.bind E index v s = (.error e, t, s) := by
  obtain ⟨e, he⟩ := parameterSlot_of_not_range h
  exact ⟨e, fun E s ↦ by simp only [bind, he]⟩

theorem bind_in_range {index : Nat} (h : 1 ≤ index ∧ index ≤ t.parameters) (v : Value) (s : σ) :
    (t.bind E index v s).2.1 = { t with generation := t.generation + 1, onRow := false } := by
  simp only [bind, parameterSlot_of_range h]
  split
  · rfl
  · split <;> rfl

theorem execute_kept (t : Statement) (s : σ) :
    (t.execute E s).2.1.native = t.native ∧
      (t.execute E s).2.1.generation = t.generation + 1 := by
  simp only [execute]
  split <;> exact ⟨rfl, rfl⟩

theorem execute_ok (h : t.execute E s = (.ok c, t', s')) :
    c.generation = t'.generation ∧ (t'.onRow = true → c.classes.length = c.columns.length) := by
  simp only [execute, invalidate, reset] at h
  split at h
  · simp only [if_true, Prod.mk.injEq, Except.ok.injEq] at h
    obtain ⟨rfl, rfl, -⟩ := h
    exact ⟨rfl, fun _ ↦ by simp [length_describe, capture]⟩
  · simp only [Prod.mk.injEq, Except.ok.injEq] at h
    obtain ⟨rfl, rfl, -⟩ := h
    exact ⟨rfl, fun h ↦ by cases h⟩
  · simp at h

def started (t : Statement) (o : Outcome) : Statement :=
  { t with generation := t.generation + 1, onRow := o = .row }

theorem execute_started {o : Outcome} (hstep : E.step t.native (E.reset t.native s) = (o, s'))
    (ho : ∀ f, o ≠ .failed f) :
    ∃ c, t.execute E s = (.ok c, t.started o, s') ∧
      c.stats = E.statsSince (E.counters t.database (E.reset t.native s)) t.database s' ∧
      c.generation = t.generation + 1 ∧ c.steps = 0 ∧
      (o = .row → c.classes = capture E t c.columns.length s') := by
  simp only [execute, invalidate, reset, hstep]
  cases o with
  | row => exact ⟨_, rfl, rfl, rfl, rfl, fun _ ↦ by simp [length_describe, capture]⟩
  | done => exact ⟨_, rfl, rfl, rfl, rfl, fun h ↦ by cases h⟩
  | failed f => exact absurd rfl (ho f)

theorem execute_failed {f : Failure}
    (hstep : E.step t.native (E.reset t.native s) = (.failed f, s')) :
    (t.execute E s).1 = .error (f.at .execute) := by
  simp only [execute, invalidate, reset, hstep]

end Statement

namespace Cursor

variable {c : Cursor} {t : Statement} {s : σ}

theorem advance_stale (h : c.isCurrent t = false) :
    c.advance E t s = (.error .invalidIterator, c, t, s) := by simp [advance, h]

theorem current_stale (h : c.isCurrent t = false) : c.current E t s = .error .invalidIterator := by
  simp [current, hasRow, h]

theorem hasRow_stale (h : c.isCurrent t = false) : c.hasRow t = false := by simp [hasRow, h]

theorem advance_onRow (h : c.isCurrent t = true) (hr : t.onRow = true) :
    c.advance E t s =
      match E.step t.native s with
      | (.row, s) =>
        (.ok true, { c with classes := capture E t c.columns.length s, steps := c.steps + 1 }, t, s)
      | (.done, s) => (.ok false, c, { t with onRow := false }, s)
      | (.failed f, s) => (.error (f.at .fetch), c, (t.reset E s).1, (t.reset E s).2) := by
  rcases hstep : E.step t.native s with ⟨o, s'⟩
  cases o <;> simp [advance, h, hr, hstep]

theorem current_captured (h : c.isCurrent t = true) (hr : t.onRow = true)
    (hc : c.classes = capture E t c.columns.length s) :
    c.current E t s = .ok (shownRow c.columns (E.row t.native s)) := by
  have hlist : ∀ p ∈ c.columns.zipIdx, p.2 < c.columns.length := by
    rintro ⟨col, i⟩ hp
    exact (List.mem_zipIdx' hp).1
  simp only [current, hasRow, h, hr, Bool.and_self, if_true, shownRow, Except.ok.injEq]
  apply List.map_congr_left
  intro p hp
  simp [hc, capture, hlist p hp]

theorem advance_kept (c : Cursor) (t : Statement) (s : σ) :
    let r := c.advance E t s
    r.2.2.1.native = t.native ∧ r.2.2.1.generation = t.generation ∧
      r.2.1.generation = c.generation ∧ (r.2.2.1.onRow = true → t.onRow = true) ∧
      (c.isCurrent t = true → r.2.2.1.onRow = true →
        r.2.1.classes.length = r.2.1.columns.length) := by
  intro r
  by_cases hc : c.isCurrent t = true
  · by_cases hr : t.onRow = true
    · simp only [r, advance_onRow hc hr]
      rcases E.step t.native s with ⟨o, s'⟩
      cases o with
      | row => exact ⟨rfl, rfl, rfl, fun h ↦ h, fun _ _ ↦ by simp [capture]⟩
      | done => exact ⟨rfl, rfl, rfl, fun h ↦ (by cases h), fun _ h ↦ (by cases h)⟩
      | failed f => exact ⟨rfl, rfl, rfl, fun h ↦ (by cases h), fun _ h ↦ (by cases h)⟩
    · have hadvance : r = (.ok false, c, t, s) := by simp [r, advance, hc, hr]
      rw [hadvance]
      exact ⟨rfl, rfl, rfl, fun h ↦ h, fun _ h ↦ absurd h hr⟩
  · have hadvance : r = (.error .invalidIterator, c, t, s) := advance_stale (by simpa using hc)
    rw [hadvance]
    exact ⟨rfl, rfl, rfl, fun h ↦ h, fun h ↦ absurd h hc⟩

theorem read_ne_absent (kind : StorageClass) (d : Sql.Datum) : kind.read d ≠ .absent := by
  cases kind <;> simp [StorageClass.read]

theorem current_ok {row : LiveRow} (h : c.current E t s = .ok row)
    (hcaptured : c.isCurrent t = true → t.onRow = true → c.classes.length = c.columns.length) :
    c.isCurrent t = true ∧ t.onRow = true ∧ c.classes.length = c.columns.length ∧
      ∃ values : Row, row = values.live ∧ values.length = c.columns.length ∧ .absent ∉ values := by
  unfold current at h
  split at h
  · rename_i hrow
    obtain ⟨hcur, hon⟩ := Bool.and_eq_true_iff.mp hrow
    have hlen := hcaptured hcur hon
    refine ⟨hcur, hon, hlen, c.columns.zipIdx.map fun p ↦ c.classes[p.2]?.elim .absent fun kind ↦
      kind.read ((E.row t.native s).getD p.2 .null), ?_, by simp, ?_⟩
    · rw [← Except.ok.inj h, Row.live, List.map_map]
      apply List.map_congr_left
      intro p _
      cases hk : c.classes[p.2]? <;> simp [hk]
    · intro hmem
      obtain ⟨⟨col, i⟩, hi, hvalue⟩ := List.mem_map.mp hmem
      have hlt : i < c.classes.length := hlen ▸ (List.mem_zipIdx' hi).1
      rw [List.getElem?_eq_getElem hlt] at hvalue
      exact read_ne_absent _ _ hvalue
  · cases h

theorem drop_kept (c : Cursor) (t : Statement) (s : σ) :
    (c.drop E t s).1.native = t.native ∧ (c.drop E t s).1.generation = t.generation ∧
      ((c.drop E t s).1.onRow = true → t.onRow = true) := by
  unfold drop
  split
  · exact ⟨rfl, rfl, fun h ↦ (by cases h)⟩
  · exact ⟨rfl, rfl, fun h ↦ h⟩

end Cursor
end Sqlite
end SqlGateway
