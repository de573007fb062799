import Mathlib.Data.List.Basic
import SqlGateway.Proofs.Remote.Cells
import SqlGateway.Proofs.Session.Bindings
import SqlGateway.Proofs.Session.Generations
import SqlGateway.Proofs.Session.Statistics

namespace SqlGateway.Session

open Feed

variable {σ : Type} {E : Sqlite.Engine σ} {s₀ s : Session σ} {t id i j : Nat} {c : Stored}
  {v : Value}

theorem forward_fetched {f : Fetched} {n : Nat}
    (h : s.cursor? id = some (.fetched t (f.advanced n)))
    (hcur : f.isCurrent (s.generation t) = true) (m : Nat) :
    ((feed E id).forward^[m] s).cursor? id = some (.fetched t (f.advanced (n + m))) ∧
      f.isCurrent (((feed E id).forward^[m] s).generation t) = true := by
  induction m generalizing s n with
  | zero => exact ⟨h, hcur⟩
  | succ m ih =>
    have hs : (feed E id).forward s = s.setCursor id (.fetched t (f.advanced (n + 1))) := by
      simp only [forward, feed]
      rw [advance_fetched h, Fetched.advance_advanced hcur]
    rw [Function.iterate_succ_apply, hs, Nat.add_comm m 1, ← Nat.add_assoc]
    exact ih (cursor?_setCursor_self h _) hcur

theorem current_remote {r : RemoteStatement Message} {row : LiveRow}
    (hr : s₀.statement? t = some (.remote r)) (hrun : run E t s₀ = (.ok id, s))
    (h : current E id ((feed E id).forward^[i] s) = .ok row) :
    ∃ a, (r.prepared.run r.bound).2 = .ok a ∧ a.rows[i]? = some row := by
  cases ha : (r.prepared.run r.bound).2 with
  | error e =>
    have hfailed := (run_remote (E := E) hr).2.2 e ha
    rw [hrun] at hfailed
    cases hfailed
  | ok a =>
    refine ⟨a, rfl, ?_⟩
    have hcursor := cursor?_run_remote hr ha hrun
    let f : Fetched := ⟨a.columns, a.rows, a.stats, s.generation t, 0⟩
    have hf : f.advanced 0 = f := by simp [Fetched.advanced, f]
    obtain ⟨hcursor', hcur⟩ := forward_fetched (E := E) (f := f) (n := 0)
      (by rw [hf]; exact hcursor) (by simp [f, Fetched.isCurrent]) i
    rw [Nat.zero_add] at hcursor'
    rw [(reads_advanced hcursor' hcur).2.2.1] at h
    cases hrow : a.rows[i]? with
    | none => simp [f, hrow] at h
    | some row' => simpa [f, hrow] using h

/-- A cursor over a native statement and the engine in step: as long as the statement is on a row,
the engine is in the given state, and the storage classes are those of its row. -/
structure Standing (E : Sqlite.Engine σ) (id t native : Nat) (cols : Columns) (engine : σ)
    (s : Session σ) (cursor : Sqlite.Cursor) (n : Sqlite.Statement) : Prop where
  cursor_eq : s.cursor? id = some (.stepping t cursor)
  statement_eq : s.statement? t = some (.embedded n)
  current : cursor.isCurrent n = true
  native_eq : n.native = native
  columns_eq : cursor.columns = cols
  captured : n.onRow = true →
    s.engine = engine ∧ cursor.classes = Sqlite.capture E n cols.length engine

variable {native : Nat} {cols : Columns} {engine : σ} {cursor : Sqlite.Cursor}
  {n : Sqlite.Statement}

theorem Standing.forward (h : Standing E id t native cols engine s cursor n) :
    ∃ cursor' n', Standing E id t native cols (E.step native engine).2 ((feed E id).forward s)
      cursor' n' := by
  have ha : cursor.advance E n s.engine = ((cursor.advance E n s.engine).1,
      (cursor.advance E n s.engine).2.1, (cursor.advance E n s.engine).2.2.1,
      (cursor.advance E n s.engine).2.2.2) := rfl
  obtain ⟨-, hcursor, hstatement, hstate⟩ := stepped (E := E) h.cursor_eq h.statement_eq ha
  obtain ⟨hnative, hgeneration, hgeneration', hon, -⟩ :=
    Sqlite.Cursor.advance_kept (E := E) cursor n s.engine
  have hcols : (cursor.advance E n s.engine).2.1.columns = cursor.columns := by
    unfold Sqlite.Cursor.advance
    split
    · rfl
    · split
      · rfl
      · split <;> rfl
  refine ⟨_, _, hcursor, hstatement, ?_, hnative.trans h.native_eq, hcols.trans h.columns_eq,
    fun hrow ↦ ?_⟩
  · have hcurrent := h.current
    simp only [Sqlite.Cursor.isCurrent, decide_eq_true_eq] at hcurrent ⊢
    rw [hgeneration, hgeneration', hcurrent]
  · obtain ⟨hengine, -⟩ := h.captured (hon hrow)
    have hengine' : ((feed E id).forward s).engine = (cursor.advance E n s.engine).2.2.2 := hstate
    rw [hengine']
    have hadvance := Sqlite.Cursor.advance_onRow (E := E) (s := s.engine) h.current (hon hrow)
    rw [hengine, h.native_eq] at hadvance
    rw [hengine] at hrow ⊢
    rw [hadvance] at hrow ⊢
    rcases hstep : E.step native engine with ⟨o, engine'⟩
    rw [hstep] at hrow
    cases o with
    | row => exact ⟨rfl, by simp [h.columns_eq]⟩
    | done => cases hrow
    | failed f => cases hrow

theorem Standing.iterate (h : Standing E id t native cols engine s cursor n) (i : Nat) :
    ∃ cursor' n', Standing E id t native cols ((fun e ↦ (E.step native e).2)^[i] engine)
      ((feed E id).forward^[i] s) cursor' n' := by
  induction i generalizing s engine cursor n with
  | zero => exact ⟨cursor, n, h⟩
  | succ i ih =>
    obtain ⟨cursor', n', h'⟩ := h.forward
    exact ih h'

theorem Standing.current_eq (h : Standing E id t native cols engine s cursor n) {row : LiveRow}
    (hrow : Session.current E id s = .ok row) :
    row = Sqlite.shownRow cols (E.row native engine) := by
  simp only [Session.current, h.cursor_eq, h.statement_eq] at hrow
  have hon : n.onRow = true := by
    cases hon : n.onRow with
    | true => rfl
    | false => simp [Sqlite.Cursor.current, Sqlite.Cursor.hasRow, hon] at hrow
  obtain ⟨hengine, hclasses⟩ := h.captured hon
  rw [hengine, Sqlite.Cursor.current_captured h.current hon (h.columns_eq ▸ hclasses)] at hrow
  rw [← Except.ok.inj hrow, h.columns_eq, h.native_eq]

theorem standing_run (hrun : run E t s₀ = (.ok id, s)) (hn : s.statement? t = some (.embedded n)) :
    ∃ cursor, Standing E id t n.native (columns id s) s.engine s cursor n := by
  cases hold : s₀.statement? t with
  | none => simp [run, hold] at hrun
  | some old =>
    cases old with
    | remote r =>
      have hkept := (run_remote (E := E) hold).2.1
      rw [hrun] at hkept
      rw [hn] at hkept
      cases hkept
    | embedded p =>
      obtain ⟨o, engine, cursor, hstarted⟩ := Started.of_run hold hrun
      obtain rfl : n = p.started o := by simpa [hn] using hstarted.statement_eq
      rw [hstarted.columns_eq, hstarted.engine_eq]
      refine ⟨cursor, hstarted.cursor_eq, hn, hstarted.isCurrent, rfl, rfl, fun hon ↦ ?_⟩
      exact ⟨hstarted.engine_eq, hstarted.captured (by simpa [Sqlite.Statement.started] using hon)⟩

theorem value_shownRow {row : List Sql.Datum} (h : j < cols.length) :
    (Sqlite.shownRow cols row).value j = (Stored.sqlite (row.getD j .null)).value j := by
  rw [Sqlite.shownRow, LiveRow.value_zipIdx _ (List.getElem?_eq_getElem h), Stored.value]

/-- The cell in row `i` and column `j` of an execution, where the database has it: in the answer of
the server, or in the row that the engine stands on after `i` steps. -/
inductive Holds (E : Sqlite.Engine σ) (t : Nat) (s₀ s : Session σ) (id i j : Nat) : Stored → Prop
  | postgres {r : RemoteStatement Message} {script : Postgres.Script}
      {cells : List (Option Blob)} {cell : Option Blob} {field : Postgres.Field}
      (hr : s₀.statement? t = some (.remote r))
      (hp : r.prepared = (⟨script.parameters.length, script.run⟩ : Prepared _).map .postgres)
      (hcells : script.rows[i]? = some cells) (hcell : cells[j]? = some cell)
      (hfield : script.fields[j]? = some field) : Holds E t s₀ s id i j (.postgres field.oid cell)
  | mysql {r : RemoteStatement Message} {script : MySql.Script}
      {cells : List MySql.Cell} {cell : MySql.Cell} {field : MySql.Field}
      (hr : s₀.statement? t = some (.remote r))
      (hp : r.prepared = (⟨script.parameters, script.run⟩ : Prepared _).map .mysql)
      (hcells : script.rows[i]? = some cells) (hcell : cells[j]? = some cell)
      (hfield : script.fields[j]? = some field) : Holds E t s₀ s id i j (.mysql field cell)
  | odbc {r : RemoteStatement Message} {script : Odbc.Script}
      {cells : List Odbc.Cell} {cell : Odbc.Cell} {field : Odbc.Field}
      (hr : s₀.statement? t = some (.remote r))
      (hp : r.prepared = (⟨script.parameters, script.run⟩ : Prepared _).map .odbc)
      (hcells : script.rows[i]? = some cells) (hcell : cells[j]? = some cell)
      (hfield : script.fields[j]? = some field) : Holds E t s₀ s id i j (.odbc field.type cell)
  | sqlite {n : Sqlite.Statement} (hn : s.statement? t = some (.embedded n))
      (hj : j < (columns id s).length) :
      Holds E t s₀ s id i j
        (.sqlite ((E.row n.native ((fun e ↦ (E.step n.native e).2)^[i] s.engine)).getD j .null))

theorem value_current (hrun : run E t s₀ = (.ok id, s)) (hc : Holds E t s₀ s id i j c)
    {row : LiveRow} (h : current E id ((feed E id).forward^[i] s) = .ok row) :
    row.value j = c.value j := by
  cases hc with
  | postgres hr hp hcells hcell hfield =>
    obtain ⟨a, ha, hrow⟩ := current_remote hr hrun h
    rw [hp] at ha
    rw [Postgres.rows_run ha, List.getElem?_map, hcells] at hrow
    cases hrow
    exact Postgres.value_liveRow hfield hcell
  | mysql hr hp hcells hcell hfield =>
    obtain ⟨a, ha, hrow⟩ := current_remote hr hrun h
    rw [hp] at ha
    rw [MySql.rows_run ha, List.getElem?_map, hcells] at hrow
    cases hrow
    exact MySql.value_liveRow hfield hcell
  | @odbc r script _ _ _ hr hp hcells hcell hfield =>
    obtain ⟨a, ha, hrow⟩ := current_remote hr hrun h
    rw [hp] at ha
    have hanswer : (script.run r.bound).2 = .ok a := ha
    rcases Odbc.rows_run hanswer with hnone | hrows
    · rw [hnone] at hrow
      cases hrow
    · rw [hrows, List.getElem?_map, hcells] at hrow
      cases hrow
      exact Odbc.value_liveRow hfield hcell
  | sqlite hn hj =>
    obtain ⟨cursor, hstanding⟩ := standing_run hrun hn
    obtain ⟨cursor', n', hstanding'⟩ := hstanding.iterate i
    rw [hstanding'.current_eq h]
    exact value_shownRow hj

/-- How a value in row `i` and column `j` of an execution is met: on the cursor, in the loop over
its rows, in a callback and in a buffer, over the cursor or asked for with the execution. -/
structure ReadAs (E : Sqlite.Engine σ) (t : Nat) (s₀ s : Session σ) (id i j : Nat) (v : Value) :
    Prop where
  live : ∀ row, current E id ((feed E id).forward^[i] s) = .ok row → row.value j = .ok v
  reached : ∀ rows e, s.Unread E id rows e → i < rows.length →
    ∃ row, current E id ((feed E id).forward^[i] s) = .ok row
  looped : ∀ rows e, s.Unread E id rows e →
    ∀ values, ((feed E id).readAll s).2.1[i]? = some values → values[j]? = some v
  called : ∀ rows e, s.Unread E id rows e → ∃ shown failure,
    (∀ {κ : Type} (callback : κ → Row → Verdict × κ) (k : κ),
      Shown callback k shown failure ((feed E id).forEach callback k s).1
        ((feed E id).forEach callback k s).2.1 ∧
      Shown callback k shown failure (runEach E t callback k s₀).1
        (runEach E t callback k s₀).2.1) ∧
    ∀ values, shown[i]? = some values → values[j]? = some v
  buffered : ∀ rows e, s.Unread E id rows e → ∀ b,
    (toBuffered E id s).1 = .ok b ∨ (runBuffered E t s₀).1 = .ok b →
    ∀ values, b.row i = .ok values → values[j]? = some v

theorem readAs_of_live (hrun : run E t s₀ = (.ok id, s))
    (h : ∀ row, current E id ((feed E id).forward^[i] s) = .ok row → row.value j = .ok v) :
    ReadAs E t s₀ s id i j v := by
  have hvalues {rows : List LiveRow} {e : Option Error} (hunread : s.Unread E id rows e)
      {values : Row} (hi : (readable rows e).1[i]? = some values) : values[j]? = some v := by
    obtain ⟨row, hrow, hdetach⟩ := readable_getElem? hi
    exact LiveRow.getElem?_of_detach hdetach (h row (hunread.ahead.current_forward hrow))
  refine ⟨h, ?_, ?_, ?_, ?_⟩
  · intro rows e hunread hi
    exact ⟨rows[i], hunread.ahead.current_forward (List.getElem?_eq_getElem hi)⟩
  · intro rows e hunread values hi
    obtain ⟨m, hm⟩ := readAll_ahead hunread.ahead
    rw [hm] at hi
    exact hvalues hunread hi
  · intro rows e hunread
    refine ⟨(readable rows e).1, (readable rows e).2, fun callback k ↦ ?_,
      fun values hi ↦ hvalues hunread hi⟩
    have hshown : Shown callback k (readable rows e).1 (readable rows e).2
        ((feed E id).forEach callback k s).1 ((feed E id).forEach callback k s).2.1 := by
      obtain ⟨m, hm⟩ := forEach_ahead callback hunread.ahead k
      rw [hm]
      exact shown_showRows callback k _ _
    refine ⟨hshown, ?_⟩
    simp only [runEach, hrun]
    exact hshown
  · intro rows e hunread b hb values hi
    have hbuffer : (toBuffered E id s).1 = .ok b := by
      rcases hb with hb | hb
      · exact hb
      · simpa only [runBuffered, hrun] using hb
    rw [toBuffered_unread hunread] at hbuffer
    cases hfailure : (readable rows e).2 with
    | some failure => simp [hfailure, bufferOf] at hbuffer
    | none =>
      simp only [hfailure, bufferOf, Except.ok.injEq] at hbuffer
      subst hbuffer
      unfold Buffered.row at hi
      split at hi
      · rename_i hrow
        cases hi
        exact hvalues hunread hrow
      · cases hi

/-- A null cell, in whichever row, column and database, is met as null in every way to read a
result, and reads as nothing in every typed form. The exceptions are the PostgreSQL columns of a
type without values of its own: all their cells, null or not, are met as absent, which reads the
same except that it is not null. -/
theorem empty_cells_met (hrun : run E t s₀ = (.ok id, s)) (hc : Holds E t s₀ s id i j c)
    (hempty : c.empty? = some v) :
    ReadAs E t s₀ s id i j v ∧ v.ReadsEmpty ∧ v.isNull = !c.isUnsupported := by
  obtain ⟨hv, hnull⟩ := Stored.isEmpty_of_empty? hempty
  refine ⟨readAs_of_live hrun ?_, Value.readsEmpty hv, hnull⟩
  intro row hrow
  rw [value_current hrun hc hrow, Stored.value_empty hempty]

def timestamps : Postgres.Script where
  fields := [⟨"n", 23⟩, ⟨"ts", 1114⟩]
  rows := [[some [0, 0, 0, 1], none], [none, none]]

def timestampsReady : Session Sql.World :=
  performAll Sql.engine
    { engine := {}, servers := { postgres := { statements := [("q", timestamps)] } } }
    [.connect "pg:", .prepare 0 "q"]

def timestampsRun : Session Sql.World := (run Sql.engine 0 timestampsReady).2

theorem run_timestamps : run Sql.engine 0 timestampsReady = (.ok 0, timestampsRun) :=
  Prod.ext rfl rfl

theorem holds_timestamps {cells : List (Option Blob)} {cell : Option Blob} {field : Postgres.Field}
    (hcells : timestamps.rows[i]? = some cells) (hcell : cells[j]? = some cell)
    (hfield : timestamps.fields[j]? = some field) :
    Holds Sql.engine 0 timestampsReady timestampsRun 0 i j (.postgres field.oid cell) :=
  .postgres rfl rfl hcells hcell hfield

theorem empty_cells_met_number :
    Holds Sql.engine 0 timestampsReady timestampsRun 0 1 0 (.postgres 23 none) ∧
    ReadAs Sql.engine 0 timestampsReady timestampsRun 0 1 0 .null ∧
    current Sql.engine 0 ((feed Sql.engine 0).forward timestampsRun) =
      .ok [.ok .null, .ok .absent] := by
  have hfield : timestamps.fields[0]? = some ⟨"n", 23⟩ := rfl
  have hcell : Holds Sql.engine 0 timestampsReady timestampsRun 0 1 0 (.postgres 23 none) :=
    holds_timestamps rfl rfl hfield
  exact ⟨hcell, (empty_cells_met run_timestamps hcell rfl).1, rfl⟩

/-- The null point in time of the first row is met as absent. -/
theorem null_timestamp_absent :
    Holds Sql.engine 0 timestampsReady timestampsRun 0 0 1 (.postgres 1114 none) ∧
    (Stored.postgres 1114 none).isNull ∧
    current Sql.engine 0 timestampsRun = .ok [.ok (.int 1), .ok .absent] ∧
    LiveRow.value [.ok (.int 1), .ok .absent] 1 ≠ .ok .null := by
  have hfield : timestamps.fields[1]? = some ⟨"ts", 1114⟩ := rfl
  exact ⟨holds_timestamps rfl rfl hfield, rfl, by decide +kernel, by decide⟩

end SqlGateway.Session
