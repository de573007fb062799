import SqlGateway.Proofs.Session.Attended
import SqlGateway.Proofs.Session.Readers
import SqlGateway.Proofs.Sql.Counters

namespace SqlGateway

open Sqlite (Engine Ran lastRow identity)

namespace Sqlite

variable {σ : Type} {E : Engine σ} {n : Nat} {s s' : σ}

def shownValues (cols : Columns) (row : List Sql.Datum) : Row :=
  cols.zipIdx.map fun (_, i) ↦
    (StorageClass.ofDatum (row.getD i .null)).read (row.getD i .null)

theorem shownRow_eq_live (cols : Columns) (row : List Sql.Datum) :
    shownRow cols row = (shownValues cols row).live := by
  simp [shownRow, shownValues, Row.live]

theorem Engine.Completes.steps {later : List σ} (h : E.Completes n s later s') (cols : Columns) :
    E.Steps n cols s (later.map fun s ↦ shownRow cols (E.row n s)) none := by
  induction h with
  | done hstep => exact .done hstep
  | row hstep _ ih => exact .row hstep ih

end Sqlite

namespace Session

variable {σ : Type} {E : Engine σ} {inserted : Nat → Nat → σ → Option Int64} {s s₁ s₂ : Session σ}
  {id db t c : Nat}

theorem execute_carriedOut {sql : String} {runs : List (Ran σ)} {engine : σ}
    (hconn : s.connection? id = some (.embedded db))
    (hout : E.CarriedOut db sql.toList s.engine runs engine)
    (hnul : sql.toList.any Engine.isNul = false) :
    execute E id sql s =
      (.ok (runs.foldl (fun stats r ↦ stats.followedBy (r.stats E db)) {}), { s with engine }) := by
  simp only [execute, hconn, hout.execute hnul]

/-- Right behind the first step of an execution, with the cursor that it opened. -/
structure Started (E : Engine σ) (t : Nat) (p : Sqlite.Statement) (before engine : σ)
    (o : Sqlite.Outcome) (id : Nat) (s : Session σ) (cursor : Sqlite.Cursor) : Prop where
  step_eq : E.step p.native before = (o, engine)
  cursor_eq : s.cursor? id = some (.stepping t cursor)
  statement_eq : s.statement? t = some (.embedded (p.started o))
  engine_eq : s.engine = engine
  stats_eq : cursor.stats = E.statsSince (E.counters p.database before) p.database engine
  generation_eq : cursor.generation = p.generation + 1
  steps_eq : cursor.steps = 0
  captured : o = .row → cursor.classes = Sqlite.capture E p cursor.columns.length engine

section Started

variable {p : Sqlite.Statement} {o : Sqlite.Outcome} {before engine : σ} {cursor : Sqlite.Cursor}

theorem Started.isCurrent (h : Started E t p before engine o id s cursor) :
    cursor.isCurrent (p.started o) = true := decide_eq_true h.generation_eq

theorem Started.columns_eq (h : Started E t p before engine o id s cursor) :
    columns id s = cursor.columns := by simp [columns, h.cursor_eq, Cursor.columns]

theorem run_started (hp : s.statement? t = some (.embedded p))
    (hstep : E.step p.native (E.reset p.native s.engine) = (o, engine))
    (ho : ∀ f, o ≠ .failed f) :
    ∃ (cursor : Sqlite.Cursor) (s' : Session σ), run E t s = (.ok s.cursors.length, s') ∧
      Started E t p (E.reset p.native s.engine) engine o s.cursors.length s' cursor := by
  obtain ⟨cursor, hexecute, hstats, hg, hsteps, hclasses⟩ :=
    Sqlite.Statement.execute_started hstep ho
  have hrun := run_embedded E hp
  rw [hexecute] at hrun
  have hset : ({ s with engine }.setStatement t (.embedded (p.started o))).statement? t =
      some (.embedded (p.started o)) := statement?_setStatement_self (s := { s with engine }) hp _
  exact ⟨cursor, _, hrun, hstep, cursor?_addCursor_self _, hset, rfl, hstats, hg, hsteps, hclasses⟩

theorem run_failed {f : Sqlite.Failure} (hp : s.statement? t = some (.embedded p))
    (hstep : E.step p.native (E.reset p.native s.engine) = (.failed f, engine)) :
    (run E t s).1 = .error (f.at .execute) := by
  have hfailed := Sqlite.Statement.execute_failed hstep
  rw [run_embedded E hp]
  rcases hexecute : p.execute E s.engine with ⟨r, p', engine'⟩
  rw [hexecute] at hfailed
  cases hfailed
  rfl

theorem Started.of_run {s' : Session σ} (hp : s.statement? t = some (.embedded p))
    (hrun : run E t s = (.ok c, s')) :
    ∃ o engine cursor, Started E t p (E.reset p.native s.engine) engine o c s' cursor := by
  rcases hstep : E.step p.native (E.reset p.native s.engine) with ⟨o, engine⟩
  have ho : ∀ f, o ≠ .failed f := by
    rintro f rfl
    have hfailed := run_failed hp hstep
    rw [hrun] at hfailed
    cases hfailed
  obtain ⟨cursor, s'', hrun', hstarted⟩ := run_started hp hstep ho
  rw [hrun] at hrun'
  cases hrun'
  exact ⟨o, engine, cursor, hstarted⟩

end Started

theorem lastInsertId_execute (D : E.Documented inserted) {sql : String} {runs : List (Ran σ)}
    {engine : σ} {k : Int64} (hconn : s.connection? id = some (.embedded db))
    (hnul : sql.toList.any Engine.isNul = false)
    (hout : E.CarriedOut db sql.toList s.engine runs engine)
    (hk : lastRow inserted db runs = some k) (hpos : 0 < k) :
    ∃ stats, execute E id sql s = (.ok stats, { s with engine }) ∧
      stats.lastInsertId = if ∀ r ∈ runs, r.Still E db then 0 else identity k := by
  refine ⟨_, execute_carriedOut hconn hout hnul, ?_⟩
  have hend : (E.counters db engine).rowid = k := by
    rw [D.rowid_carriedOut hout, hk]
    rfl
  rw [D.lastInsertId_carriedOut hout (hend ▸ hpos), hend]

theorem lastInsertId_run (D : E.Documented inserted) {p : Sqlite.Statement} {s' : Session σ}
    {k : Int64} (hp : s.statement? t = some (.embedded p)) (hrun : run E t s = (.ok c, s'))
    (hk : inserted p.database p.native (E.reset p.native s.engine) = some k) :
    (stats c s').lastInsertId =
      if (E.counters p.database s.engine).rowid = k then 0 else identity k := by
  obtain ⟨o, engine, cursor, hstarted⟩ := Started.of_run hp hrun
  have hend : (E.counters p.database engine).rowid = k := by
    rw [D.rowid_step hstarted.step_eq, hk]
    rfl
  have hshown : stats c s' = cursor.stats := by simp [stats, hstarted.cursor_eq, Cursor.stats]
  rw [hshown, hstarted.stats_eq, Engine.statsSince, D.reset, hend]
  simp only [identity, eq_comm]

/-- An execution that inserts rows, by a text or by a prepared statement, reports the identity of
the last of them unless the counter of the connection stood on it all the time; then it reports
none. -/
theorem identity_reported (D : E.Documented inserted) (s : Session σ) (db : Nat) :
    (∀ id sql runs engine, s.connection? id = some (.embedded db) →
      sql.toList.any Engine.isNul = false → E.CarriedOut db sql.toList s.engine runs engine →
      ∀ k, lastRow inserted db runs = some k → 0 < k →
        ∃ stats, execute E id sql s = (.ok stats, { s with engine }) ∧
          stats.lastInsertId = if ∀ r ∈ runs, r.Still E db then 0 else identity k) ∧
    (∀ t p c s', s.statement? t = some (.embedded p) → p.database = db →
      run E t s = (.ok c, s') →
      ∀ k, inserted db p.native (E.reset p.native s.engine) = some k → 0 < k →
        (stats c s').lastInsertId =
          if (E.counters db s.engine).rowid = k then 0 else identity k) := by
  constructor
  · intro id sql runs engine hconn hnul hout k hk hpos
    exact lastInsertId_execute D hconn hnul hout hk hpos
  · rintro t p c s' hp rfl hrun k hk -
    exact lastInsertId_run D hp hrun hk

def integers (name : String) (rows : List (Int × Sql.Cells)) : Sql.Table where
  name
  columns := [{ name := "n", declared := some "INTEGER" }]
  rows

def openOn (tables : List Sql.Table) (lastRowid : Int64) : Session Sql.World where
  engine := { stores := [⟨none, { tables }⟩], clients := [{ store := 0, lastRowid }] }
  connections := [{ item := .embedded 0 }]

def twoTables : Session Sql.World :=
  openOn [integers "a" [(1, [.integer 7])], integers "b" []] 1

def intoSecond : String := "INSERT INTO b VALUES (8)"

def insertedAgain : Ran Sql.World :=
  let start := (Sql.engine.prepare 0 intoSecond.toList twoTables.engine).2
  ⟨0, start, [], (Sql.engine.step 0 start).2⟩

theorem insertedAgain_carriedOut : ∃ engine,
    Sql.engine.CarriedOut 0 intoSecond.toList twoTables.engine [insertedAgain] engine := by
  have hstep : (Sql.engine.step 0 insertedAgain.start).1 = .done := by decide +kernel
  exact ⟨_, .single (by decide +kernel) (by decide) (.done (Prod.ext hstep rfl))⟩

theorem identity_reported_again :
    lastRow Sql.World.inserted 0 [insertedAgain] = some 1 ∧
    ∃ stats, (execute Sql.engine 0 intoSecond twoTables).1 = .ok stats ∧
      stats.lastInsertId = 0 := by
  obtain ⟨engine, hout⟩ := insertedAgain_carriedOut
  have hk : lastRow Sql.World.inserted 0 [insertedAgain] = some 1 := by decide +kernel
  have hstill : ∀ r ∈ [insertedAgain], r.Still Sql.engine 0 := by decide +kernel
  obtain ⟨stats, hexecute, hlast⟩ := (identity_reported Sql.engine_documented twoTables 0).1 0
    intoSecond _ engine rfl (by decide) hout 1 hk (by decide)
  exact ⟨hk, stats, congrArg Prod.fst hexecute, hlast.trans (if_pos hstill)⟩

theorem prepare_embedded {sql : String} (hconn : s.connection? id = some (.embedded db))
    (h : prepare E id sql s = (.ok t, s₁)) :
    sql.toList.any Engine.isNul = false ∧ ∃ n rest,
      E.prepare db sql.toList s.engine = (.ok (some n, rest), s₁.engine) ∧
      s₁.statement? t = some (.embedded ⟨n, db, (E.parameters n s₁.engine).length, 0, false⟩) := by
  simp only [prepare, hconn, Engine.prepareStatement] at h
  by_cases hnul : sql.toList.any Engine.isNul = true
  · simp [hnul] at h
  · rw [if_neg hnul] at h
    refine ⟨Bool.eq_false_iff.mpr hnul, ?_⟩
    rcases hprepare : E.prepare db sql.toList s.engine with ⟨r, engine⟩
    rw [hprepare] at h
    cases r with
    | error f => cases h
    | ok found =>
      obtain ⟨_ | n, rest⟩ := found
      · cases h
      · cases h
        exact ⟨n, rest, rfl, by simp [addStatement, statement?]⟩

theorem unread_completes {p : Sqlite.Statement} {later : List σ} {finish : σ}
    (hp : s.statement? t = some (.embedded p))
    (hcomplete : E.Completes p.native (E.reset p.native s.engine) later finish) :
    ∃ (cursor : Sqlite.Cursor) (s' : Session σ), run E t s = (.ok s.cursors.length, s') ∧
      s'.cursor? s.cursors.length = some (.stepping t cursor) ∧
      cursor.stats = E.statsSince (E.counters p.database (E.reset p.native s.engine)) p.database
        (later.headD finish) ∧
      s'.Unread E s.cursors.length
        (later.map fun s ↦ Sqlite.shownRow cursor.columns (E.row p.native s)) none := by
  cases hcomplete with
  | done hstep =>
    obtain ⟨cursor, s', hrun, hstarted⟩ := run_started hp hstep fun f h ↦ by cases h
    refine ⟨cursor, s', hrun, hstarted.cursor_eq, hstarted.stats_eq, ?_⟩
    simp only [Unread, hstarted.cursor_eq]
    refine ⟨_, hstarted.statement_eq, hstarted.isCurrent, hstarted.steps_eq, ?_⟩
    simp [Sqlite.Statement.started]
  | @row _ engine _ later hstep hlater =>
    obtain ⟨cursor, s', hrun, hstarted⟩ := run_started hp hstep fun f h ↦ by cases h
    have hfirst := Sqlite.Cursor.current_captured (s := engine) hstarted.isCurrent rfl
      (hstarted.captured rfl)
    refine ⟨cursor, s', hrun, hstarted.cursor_eq, hstarted.stats_eq, ?_⟩
    simp only [Unread, hstarted.cursor_eq]
    refine ⟨_, hstarted.statement_eq, hstarted.isCurrent, hstarted.steps_eq, ?_⟩
    rw [if_pos (by simp [Sqlite.Statement.started])]
    refine ⟨_, _, hstarted.engine_eq ▸ hfirst, rfl, ?_⟩
    rw [hstarted.engine_eq]
    exact hlater.steps cursor.columns

theorem runBuffered_completes {p : Sqlite.Statement} {later : List σ} {finish : σ}
    (hp : s.statement? t = some (.embedded p))
    (hcomplete : E.Completes p.native (E.reset p.native s.engine) later finish) :
    ∃ b : Buffered, (runBuffered E t s).1 = .ok b ∧ (b.rows = [] ↔ later = []) ∧
      b.stats = E.statsSince (E.counters p.database (E.reset p.native s.engine)) p.database
        (later.headD finish) := by
  obtain ⟨cursor, s', hrun, hcursor, hstats, hunread⟩ := unread_completes hp hcomplete
  let values := later.map fun s ↦ Sqlite.shownValues cursor.columns (E.row p.native s)
  have hlive : (later.map fun s ↦ Sqlite.shownRow cursor.columns (E.row p.native s)) =
      values.map Row.live := by simp [values, Sqlite.shownRow_eq_live]
  have hbuffer := toBuffered_unread hunread
  rw [hlive, readable_live] at hbuffer
  refine ⟨⟨columns s.cursors.length s', values, cursor.stats, 0⟩, ?_, by simp [values], hstats⟩
  simp only [runBuffered, hrun, hbuffer, bufferOf]
  simp [stats, hcursor, Cursor.stats]

/-- A text of one statement, and the same statement prepared and read whole. Both report the same
identity, but if there are rows, the prepared statement reports no changes. -/
theorem statistics_compared (D : E.Documented inserted) {sql : String} {r : Ran σ} {engine : σ}
    (hconn : s.connection? id = some (.embedded db))
    (hout : E.CarriedOut db sql.toList s.engine [r] engine)
    (hprepare : prepare E id sql s = (.ok t, s₁)) :
    let direct := r.stats E db
    ∃ b : Buffered, execute E id sql s = (.ok direct, { s with engine }) ∧
      (runBuffered E t s₁).1 = .ok b ∧ (b.rows = [] ↔ r.later = []) ∧
      b.stats = ⟨if b.rows = [] then direct.affectedRows else 0, direct.lastInsertId⟩ := by
  intro direct
  obtain ⟨hnul, n, rest, hn, hp⟩ := prepare_embedded hconn hprepare
  have hdirect := execute_carriedOut hconn hout hnul
  simp only [List.foldl_cons, List.foldl_nil, Stats.followedBy_empty] at hdirect
  cases hout with
  | blank hprepared => simp [hn] at hprepared
  | @statement _ _ _ _ _ _ _ later _ hprepared _ hcomplete hrest =>
    rw [hn] at hprepared
    cases hprepared
    -- a statement that was just prepared needs no reset: both ways start from one state
    have hfresh := D.fresh db _ n rest _ _ hn
    have hcomplete' : E.Completes n (E.reset n s₁.engine) later _ := hfresh.symm ▸ hcomplete
    obtain ⟨b, hb, hrows, hstats⟩ := runBuffered_completes hp hcomplete'
    refine ⟨b, hdirect, hb, hrows, ?_⟩
    rw [hstats, hfresh, D.stats_firstStep hcomplete]
    simp only [hrows, direct]

def oneTable : Session Sql.World := openOn [integers "t" []] 0

def insertReturning : String := "INSERT INTO t VALUES (5) RETURNING n"

def preparedReturning : Result Nat × Session Sql.World :=
  prepare Sql.engine 0 insertReturning oneTable

def returned : Ran Sql.World :=
  let start := (Sql.engine.prepare 0 insertReturning.toList oneTable.engine).2
  let shown := (Sql.engine.step 0 start).2
  ⟨0, start, [shown], (Sql.engine.step 0 shown).2⟩

theorem returned_carriedOut : ∃ engine,
    Sql.engine.CarriedOut 0 insertReturning.toList oneTable.engine [returned] engine := by
  have hfirst : (Sql.engine.step 0 returned.start).1 = .row := by decide +kernel
  have hsecond : (Sql.engine.step 0 (Sql.engine.step 0 returned.start).2).1 = .done := by
    decide +kernel
  exact ⟨_, .single (by decide +kernel) (by decide)
    (.row (Prod.ext hfirst rfl) (.done (Prod.ext hsecond rfl)))⟩

theorem statistics_compared_returning :
    ∃ direct b, (execute Sql.engine 0 insertReturning oneTable).1 = .ok direct ∧
      direct.affectedRows = 1 ∧ (runBuffered Sql.engine 0 preparedReturning.2).1 = .ok b ∧
      b.stats = ⟨0, 1⟩ := by
  obtain ⟨engine, hout⟩ := returned_carriedOut
  have hok : preparedReturning.1.toOption = some 0 := by decide +kernel
  have hprepare : preparedReturning = (.ok 0, preparedReturning.2) :=
    Prod.ext (Sqlite.eq_ok_of_toOption hok) rfl
  obtain ⟨b, hexecute, hb, hrows, hstats⟩ :=
    statistics_compared Sql.engine_documented rfl hout hprepare
  have hdirect : Ran.stats Sql.engine 0 returned = ⟨1, 1⟩ := by decide +kernel
  have hshown : ¬ b.rows = [] := fun h ↦ by simpa [returned] using hrows.mp h
  refine ⟨_, b, congrArg Prod.fst hexecute, by rw [hdirect], hb, ?_⟩
  rw [hstats, hdirect, if_neg hshown]

end Session
end SqlGateway
