import SqlGateway.Proofs.Session.Nulls
import SqlGateway.Proofs.Session.Positions

namespace SqlGateway.Session

open Feed

variable {σ α : Type} {E : Sqlite.Engine σ} {s s' s₀ : Session σ} {id t c : Nat} {rows : List Row}

/-- What can be asked of a cursor. Every typed reading of a column converts the value in it. -/
inductive Request (α : Type) where
  | hasRow
  | advance
  | size
  | values
  | read (index : Nat) (convert : Value → Result α)
  | column (index : Nat)
  | indexOf (name : String)
  | names
  | affectedRows
  | lastInsertId
  | atEnd

inductive Answer (α : Type) where
  | flag (b : Bool)
  | moved (r : Result Bool)
  | size (r : Result Nat)
  | values (r : Result Row)
  | read (r : Result α)
  | column (r : Result Column)
  | index (i : Option Nat)
  | names (names : List String)
  | number (n : UInt64)

def Request.advances : Request α → Bool
  | advance => true
  | _ => false

def ask (E : Sqlite.Engine σ) (id : Nat) (s : Session σ) : Request α → Answer α × Session σ
  | .hasRow => (.flag (hasRow id s), s)
  | .advance => let (r, s) := advance E id s; (.moved r, s)
  | .size => (.size ((current E id s).map List.length), s)
  | .values => (.values (current E id s >>= LiveRow.detach), s)
  | .read index convert =>
    (.read (current E id s >>= fun row ↦ row.value index >>= convert), s)
  | .column index => (.column ((columns id s).get index), s)
  | .indexOf name => (.index ((columns id s).indexOf? name), s)
  | .names => (.names (columns id s).names, s)
  | .affectedRows => (.number (stats id s).affectedRows, s)
  | .lastInsertId => (.number (stats id s).lastInsertId, s)
  | .atEnd => (.flag (position id s = .atEnd), s)

def askAll (E : Sqlite.Engine σ) (id : Nat) :
    Session σ → List (Request α) → List (Answer α) × Session σ
  | s, [] => ([], s)
  | s, r :: rs =>
    let (answer, s) := ask E id s r
    let (answers, s) := askAll E id s rs
    (answer :: answers, s)

/-- The row at place `m`; behind the last there is none. -/
def rowAt (rows : List Row) (m : Nat) : Result LiveRow :=
  match rows[m]? with
  | some row => .ok row.live
  | none => .error .invalidIterator

structure Stands (E : Sqlite.Engine σ) (id : Nat) (rows : List Row) (m : Nat) (s : Session σ) :
    Prop where
  hasRow_eq : hasRow id s = decide (m < rows.length)
  current_eq : current E id s = rowAt rows m
  moved_eq : (advance E id s).1 = .ok (decide (m + 1 < rows.length))

/-- The cursor shows the rows one after the other, and nothing from then on. -/
def Plays (E : Sqlite.Engine σ) (id : Nat) (rows : List Row) (s : Session σ) : Prop :=
  ∀ m, Stands E id rows m ((feed E id).forward^[m] s)

theorem Plays.nil (hrow : hasRow id s = false) (hcur : current E id s = .error .invalidIterator)
    (hadvance : advance E id s = (.ok false, s)) : Plays E id [] s := by
  intro m
  have hstay : (feed E id).forward s = s := congrArg Prod.snd hadvance
  have hs : (feed E id).forward^[m] s = s := Function.iterate_fixed hstay m
  rw [hs]
  exact ⟨hrow, hcur, congrArg Prod.fst hadvance⟩

theorem Stands.succ {row : Row} {m : Nat} (h : Stands E id rows m s) :
    Stands E id (row :: rows) (m + 1) s where
  hasRow_eq := by simpa using h.hasRow_eq
  current_eq := by simpa [rowAt] using h.current_eq
  moved_eq := by simpa using h.moved_eq

theorem Plays.cons {row : Row} (hrow : hasRow id s = true)
    (hcur : current E id s = .ok row.live)
    (hmoved : (advance E id s).1 = .ok (decide (0 < rows.length)))
    (hrest : Plays E id rows (advance E id s).2) : Plays E id (row :: rows) s := by
  intro m
  cases m with
  | zero => exact ⟨by simpa using hrow, hcur, by simpa using hmoved⟩
  | succ m =>
    rw [Function.iterate_succ_apply]
    exact (hrest m).succ

theorem Plays.first (h : Plays E id rows s) : Stands E id rows 0 s := h 0

theorem Plays.tail {row : Row} (h : Plays E id (row :: rows) s) :
    Plays E id rows ((feed E id).forward s) := by
  intro m
  have hm := h (m + 1)
  rw [Function.iterate_succ_apply] at hm
  exact ⟨by simpa using hm.hasRow_eq, by simpa [rowAt] using hm.current_eq,
    by simpa using hm.moved_eq⟩

theorem Plays.behind {row : Row} (h : Plays E id (row :: rows) s) :
    (feed E id).Behind s (rows.map Row.live) none := by
  induction rows generalizing row s with
  | nil => exact .exhausted (Prod.ext h.first.moved_eq rfl)
  | cons next rows ih =>
    have hmoved : (advance E id s).1 = .ok true := by simpa using h.first.moved_eq
    exact .row (Prod.ext hmoved rfl) h.tail.first.current_eq (ih h.tail)

theorem Plays.ahead (h : Plays E id rows s) : (feed E id).Ahead s (rows.map Row.live) none := by
  cases rows with
  | nil => exact .nothing h.first.hasRow_eq
  | cons row rows => exact .row h.first.hasRow_eq h.first.current_eq h.behind

def answerAt (cols : Columns) (stats : Stats) (rows : List Row) (m : Nat) : Request α → Answer α
  | .hasRow => .flag (m < rows.length)
  | .advance => .moved (.ok (m + 1 < rows.length))
  | .size => .size ((rowAt rows m).map List.length)
  | .values => .values (rowAt rows m >>= LiveRow.detach)
  | .read index convert => .read (rowAt rows m >>= fun row ↦ row.value index >>= convert)
  | .column index => .column (cols.get index)
  | .indexOf name => .index (cols.indexOf? name)
  | .names => .names cols.names
  | .affectedRows => .number stats.affectedRows
  | .lastInsertId => .number stats.lastInsertId
  | .atEnd => .flag (¬ m < rows.length)

def answersAt (cols : Columns) (stats : Stats) (rows : List Row) : Nat → List (Request α) →
    List (Answer α)
  | _, [] => []
  | m, r :: rs =>
    answerAt cols stats rows m r ::
      answersAt cols stats rows (if r.advances then m + 1 else m) rs

theorem ask_eq {m : Nat} (h : Stands E id rows m s) (r : Request α) :
    ask E id s r = (answerAt (columns id s) (stats id s) rows m r,
      if r.advances then (feed E id).forward s else s) := by
  cases r with
  | hasRow => simp [ask, answerAt, Request.advances, h.hasRow_eq]
  | advance => exact Prod.ext (congrArg Answer.moved h.moved_eq) rfl
  | size => simp only [ask, answerAt, h.current_eq]; rfl
  | values => simp only [ask, answerAt, h.current_eq]; rfl
  | read index convert => simp only [ask, answerAt, h.current_eq]; rfl
  | atEnd => simp [ask, answerAt, Request.advances, position_eq_atEnd_iff, h.hasRow_eq]
  | _ => rfl

theorem columns_forward (id id' : Nat) (s : Session σ) :
    columns id ((feed E id').forward s) = columns id s := by
  rw [columns_eq, columns_eq]
  exact congrArg (fun labels ↦ ((labels[id]?).map (·.2.1)).getD []) (labels_advance id' s)

theorem stats_forward (id id' : Nat) (s : Session σ) :
    stats id ((feed E id').forward s) = stats id s := by
  rw [stats_eq, stats_eq]
  exact congrArg (fun labels ↦ ((labels[id]?).map (·.2.2)).getD {}) (labels_advance id' s)

theorem askAll_eq {m : Nat} (h : Plays E id rows s) (hs : (feed E id).forward^[m] s = s')
    (requests : List (Request α)) :
    (askAll E id s' requests).1 = answersAt (columns id s') (stats id s') rows m requests ∧
    columns id (askAll E id s' requests).2 = columns id s' ∧
    stats id (askAll E id s' requests).2 = stats id s' := by
  induction requests generalizing m s' with
  | nil => exact ⟨rfl, rfl, rfl⟩
  | cons r rs ih =>
    have hstands : Stands E id rows m s' := hs ▸ h m
    simp only [askAll, ask_eq hstands, answersAt]
    by_cases hr : r.advances = true
    · simp only [if_pos hr]
      have hnext : (feed E id).forward^[m + 1] s = (feed E id).forward s' := by
        rw [Function.iterate_succ_apply', hs]
      have hih := ih hnext
      rw [columns_forward, stats_forward] at hih
      exact ⟨congrArg _ hih.1, hih.2⟩
    · simp only [if_neg hr]
      have hih := ih hs
      exact ⟨congrArg _ hih.1, hih.2⟩

theorem Plays.answers (h : Plays E id rows s) (requests : List (Request α)) :
    (askAll E id s requests).1 = answersAt (columns id s) (stats id s) rows 0 requests ∧
    columns id (askAll E id s requests).2 = columns id s ∧
    stats id (askAll E id s requests).2 = stats id s := askAll_eq (m := 0) h rfl requests

/-- An execution whose rows all decode: every cell that the server sent has a value, or the engine
steps to the end of the rows and nothing else happens to it. -/
inductive Decodes (E : Sqlite.Engine σ) (t : Nat) (s₀ : Session σ) (cols : Columns) :
    List Row → Prop
  | remote {r : RemoteStatement Message} {a : SqlGateway.Answer} {rows : List Row}
      (hr : s₀.statement? t = some (.remote r)) (ha : (r.prepared.run r.bound).2 = .ok a)
      (hrows : a.rows = rows.map Row.live) : Decodes E t s₀ cols rows
  | embedded {p : Sqlite.Statement} {later : List σ} {finish : σ}
      (hp : s₀.statement? t = some (.embedded p))
      (hcomplete : E.Completes p.native (E.reset p.native s₀.engine) later finish) :
      Decodes E t s₀ cols (later.map fun engine ↦ Sqlite.shownValues cols (E.row p.native engine))

theorem plays_remote {r : RemoteStatement Message} {a : SqlGateway.Answer}
    (hr : s₀.statement? t = some (.remote r)) (ha : (r.prepared.run r.bound).2 = .ok a)
    (hrows : a.rows = rows.map Row.live) (hrun : run E t s₀ = (.ok c, s)) : Plays E c rows s := by
  intro m
  let f : Fetched := ⟨a.columns, a.rows, a.stats, s.generation t, 0⟩
  have hf : f.advanced 0 = f := by simp [Fetched.advanced, f]
  have hcursor : s.cursor? c = some (.fetched t (f.advanced 0)) := by
    rw [hf]
    exact cursor?_run_remote hr ha hrun
  obtain ⟨hcursor', hlive⟩ :=
    forward_fetched (E := E) hcursor (by simp [f, Fetched.isCurrent]) m
  rw [Nat.zero_add] at hcursor'
  obtain ⟨hrow, -, hcur, hmoved⟩ := reads_advanced (E := E) hcursor' hlive
  have hlength : f.rows.length = rows.length := by simp [f, hrows]
  rw [hlength] at hrow hmoved
  refine ⟨hrow, ?_, hmoved⟩
  rw [hcur, rowAt]
  simp only [f, hrows, List.getElem?_map]
  cases rows[m]? <;> rfl

theorem plays_buffered {b : Buffered} (h : s.cursor? c = some (.buffered b)) :
    Plays E c (b.rows.drop b.index) s := by
  generalize hrest : b.rows.drop b.index = rest
  induction rest generalizing b s with
  | nil =>
    have hend : ¬ b.index < b.rows.length := by
      have hlength := congrArg List.length hrest
      rw [List.length_drop, List.length_nil] at hlength
      omega
    have hadvance : b.advance = (false, b) := by simp [Buffered.advance, Buffered.hasRow, hend]
    have hnone : b.rows[b.index]? = none := List.getElem?_eq_none (Nat.le_of_not_lt hend)
    apply Plays.nil
    · simp [hasRow, h, Buffered.hasRow, hend]
    · simp [current, h, Buffered.current, hnone, Except.map]
    · rw [advance_buffered h, hadvance, setCursor_self h]
  | cons row rest ih =>
    have hlt : b.index < b.rows.length := by
      have hlength := congrArg List.length hrest
      rw [List.length_drop, List.length_cons] at hlength
      omega
    rw [List.drop_eq_getElem_cons hlt] at hrest
    obtain ⟨hrow, hrest⟩ := List.cons.inj hrest
    have hadvance : b.advance =
        (decide (b.index + 1 < b.rows.length), { b with index := b.index + 1 }) := by
      simp [Buffered.advance, Buffered.hasRow, hlt]
    have hnext : b.index + 1 < b.rows.length ↔ 0 < rest.length := by
      rw [← hrest, List.length_drop]
      omega
    apply Plays.cons
    · simp [hasRow, h, Buffered.hasRow, hlt]
    · simp [current, h, Buffered.current, List.getElem?_eq_getElem hlt, hrow, Except.map]
    · rw [advance_buffered h, hadvance]
      simp only [hnext]
    · rw [advance_buffered h, hadvance]
      exact ih (cursor?_setCursor_self h _) hrest

theorem plays_ended {f : Sqlite.Cursor} {n : Sqlite.Statement}
    (h : s.cursor? c = some (.stepping t f)) (hn : s.statement? t = some (.embedded n))
    (hcur : f.isCurrent n = true) (hon : n.onRow = false) : Plays E c [] s := by
  have hrow : f.hasRow n = false := by simp [Sqlite.Cursor.hasRow, hon]
  have hadvance : f.advance E n s.engine = (.ok false, f, n, s.engine) := by
    simp [Sqlite.Cursor.advance, hcur, hon]
  apply Plays.nil
  · rw [hasRow_stepping h hn, hrow]
  · simp [current, h, hn, Sqlite.Cursor.current, hrow]
  · rw [advance_stepping h hn, hadvance, setStatement_self hn]
    exact congrArg (Prod.mk _) (setCursor_self h)

section Stepping

variable {native : Nat} {cols : Columns} {engine engine' : σ} {f : Sqlite.Cursor}
  {n : Sqlite.Statement}

theorem Standing.shown (h : Standing E c t native cols engine s f n) (hon : n.onRow = true) :
    hasRow c s = true ∧
      Session.current E c s = .ok (Sqlite.shownValues cols (E.row native engine)).live := by
  obtain ⟨hengine, hclasses⟩ := h.captured hon
  constructor
  · rw [hasRow_stepping h.cursor_eq h.statement_eq, Sqlite.Cursor.hasRow, h.current, hon]
    rfl
  · have hcaptured := Sqlite.Cursor.current_captured h.current hon (h.columns_eq ▸ hclasses)
    simp only [Session.current, h.cursor_eq, h.statement_eq, hengine]
    rw [hcaptured, h.columns_eq, h.native_eq, Sqlite.shownRow_eq_live]

theorem Standing.moved (h : Standing E c t native cols engine s f n) (hon : n.onRow = true)
    (hstep : E.step native engine = (.row, engine')) :
    (advance E c s).1 = .ok true ∧
      ∃ f', Standing E c t native cols engine' (advance E c s).2 f' n := by
  let f' : Sqlite.Cursor :=
    { f with classes := Sqlite.capture E n f.columns.length engine', steps := f.steps + 1 }
  have hadvance : f.advance E n s.engine = (.ok true, f', n, engine') := by
    rw [Sqlite.Cursor.advance_onRow h.current hon, h.native_eq, (h.captured hon).1, hstep]
  obtain ⟨hr, hc, ht, he⟩ := stepped h.cursor_eq h.statement_eq hadvance
  refine ⟨hr, f', hc, ht, h.current, h.native_eq, h.columns_eq, fun _ ↦ ⟨he, ?_⟩⟩
  simp only [f', h.columns_eq]

theorem Standing.finished (h : Standing E c t native cols engine s f n) (hon : n.onRow = true)
    (hstep : E.step native engine = (.done, engine')) :
    (advance E c s).1 = .ok false ∧ Plays E c [] (advance E c s).2 := by
  have hadvance : f.advance E n s.engine = (.ok false, f, { n with onRow := false }, engine') := by
    rw [Sqlite.Cursor.advance_onRow h.current hon, h.native_eq, (h.captured hon).1, hstep]
  obtain ⟨hr, hc, ht, -⟩ := stepped h.cursor_eq h.statement_eq hadvance
  exact ⟨hr, plays_ended hc ht h.current rfl⟩

theorem plays_stepping {later : List σ} {finish : σ}
    (hlater : E.Completes native engine later finish)
    (h : Standing E c t native cols engine s f n) (hon : n.onRow = true) :
    Plays E c ((engine :: later).map fun e ↦ Sqlite.shownValues cols (E.row native e)) s := by
  obtain ⟨hrow, hshown⟩ := h.shown hon
  induction hlater generalizing s f with
  | done hstep =>
    obtain ⟨hmoved, hrest⟩ := h.finished hon hstep
    exact .cons hrow hshown hmoved hrest
  | row hstep _ ih =>
    obtain ⟨hmoved, f', h'⟩ := h.moved hon hstep
    obtain ⟨hrow', hshown'⟩ := h'.shown hon
    exact .cons hrow hshown hmoved (ih h' hrow' hshown')

end Stepping

theorem plays_embedded {p : Sqlite.Statement} {later : List σ} {finish : σ}
    (hp : s₀.statement? t = some (.embedded p))
    (hcomplete : E.Completes p.native (E.reset p.native s₀.engine) later finish)
    (hrun : run E t s₀ = (.ok c, s)) :
    Plays E c (later.map fun e ↦ Sqlite.shownValues (columns c s) (E.row p.native e)) s := by
  obtain ⟨o, engine, cursor, hstarted⟩ := Started.of_run hp hrun
  cases hcomplete with
  | done hstep =>
    obtain ⟨rfl, rfl⟩ := Prod.mk.inj (hstarted.step_eq.symm.trans hstep)
    exact plays_ended hstarted.cursor_eq hstarted.statement_eq hstarted.isCurrent rfl
  | row hstep hlater =>
    obtain ⟨rfl, rfl⟩ := Prod.mk.inj (hstarted.step_eq.symm.trans hstep)
    obtain ⟨cursor', hstanding⟩ := standing_run hrun hstarted.statement_eq
    rw [hstarted.engine_eq] at hstanding
    exact plays_stepping hlater hstanding rfl

theorem Decodes.plays (h : Decodes E t s₀ (columns c s) rows) (hrun : run E t s₀ = (.ok c, s)) :
    Plays E c rows s := by
  cases h with
  | remote hr ha hrows => exact plays_remote hr ha hrows hrun
  | embedded hp hcomplete => exact plays_embedded hp hcomplete hrun

theorem answersAt_rows (cols : Columns) (stats : Stats) {m k : Nat} (h : m + k ≤ rows.length - 1)
    (rs : List (Request α)) :
    answersAt cols stats rows m (List.replicate k .advance ++ rs) =
      List.replicate k (.moved (.ok true)) ++ answersAt cols stats rows (m + k) rs := by
  induction k generalizing m with
  | zero => rfl
  | succ k ih =>
    have hrow : m + 1 < rows.length := by omega
    have hstep : m + 1 + k = m + (k + 1) := by omega
    rw [List.replicate_succ, List.cons_append, answersAt, answerAt, List.replicate_succ,
      List.cons_append]
    simp only [hrow, decide_true, Request.advances, if_true]
    rw [ih (by omega), hstep]

theorem answersAt_end (cols : Columns) (stats : Stats) {m : Nat} (h : rows.length ≤ m + 1)
    (k : Nat) :
    answersAt (α := α) cols stats rows m (List.replicate k .advance) =
      List.replicate k (.moved (.ok false)) := by
  induction k generalizing m with
  | zero => rfl
  | succ k ih =>
    have hrow : ¬ m + 1 < rows.length := by omega
    rw [List.replicate_succ, answersAt, answerAt, List.replicate_succ]
    simp only [hrow, decide_false, Request.advances, if_true]
    rw [ih (by omega)]

/-- The cursor of an execution whose rows all decode answers every sequence of requests as a buffer
of its columns, rows and statistics, which is the buffer that reading it whole gives. Columns and
statistics stay as they are, all advances but one for each row succeed, and there is no row at the
beginning exactly if there is none at all. -/
theorem cursor_answers (hrun : run E t s₀ = (.ok c, s))
    (hrows : Decodes E t s₀ (columns c s) rows) :
    let b : Buffered := ⟨columns c s, rows, stats c s, 0⟩
    let beside := s.addCursor (.buffered b)
    (toBuffered E c s).1 = .ok b ∧
    (∀ {α : Type} (requests : List (Request α)),
      (askAll E c s requests).1 = (askAll E beside.1 beside.2 requests).1 ∧
      columns c (askAll E c s requests).2 = columns c s ∧
      stats c (askAll E c s requests).2 = stats c s) ∧
    (∀ {α : Type} (k : Nat),
      (askAll E c s (List.replicate (rows.length - 1) (.advance : Request α) ++
        List.replicate k .advance)).1 =
        List.replicate (rows.length - 1) (.moved (.ok true)) ++
          List.replicate k (.moved (.ok false))) ∧
    (position c s = .atEnd ↔ rows = []) := by
  intro b beside
  have hplays := hrows.plays hrun
  have hcursor : beside.2.cursor? beside.1 = some (.buffered b) := cursor?_addCursor_self _
  have hbuffer : Plays E beside.1 rows beside.2 := plays_buffered hcursor
  have hcolumns : columns beside.1 beside.2 = columns c s := by
    rw [columns, hcursor]
    rfl
  have hstats : stats beside.1 beside.2 = stats c s := by
    rw [stats, hcursor]
    rfl
  refine ⟨?_, fun requests ↦ ?_, fun k ↦ ?_, ?_⟩
  · have hwhole := toBuffered_ahead hplays.ahead
    rw [readable_live] at hwhole
    exact hwhole
  · obtain ⟨hanswers, hkept⟩ := hplays.answers requests
    obtain ⟨hanswers', -⟩ := hbuffer.answers requests
    rw [hcolumns, hstats] at hanswers'
    exact ⟨hanswers.trans hanswers'.symm, hkept⟩
  · rw [(hplays.answers _).1, answersAt_rows _ _ (by omega),
      answersAt_end _ _ (by omega)]
  · rw [position_eq_atEnd_iff, hplays.first.hasRow_eq, decide_eq_false_iff_not, Nat.not_lt,
      Nat.le_zero, List.length_eq_zero_iff]

def showsOne : Session Sql.World := preparedReturning.2

def showsOneRun : Session Sql.World := (run Sql.engine 0 showsOne).2

theorem decodes_showsOne : ∃ row, Decodes Sql.engine 0 showsOne (columns 0 showsOneRun) [row] := by
  let start := Sql.engine.reset 0 showsOne.engine
  let shown := (Sql.engine.step 0 start).2
  have hok : preparedReturning.1.toOption = some 0 := by decide +kernel
  have hprepare : preparedReturning = (.ok 0, showsOne) :=
    Prod.ext (Sqlite.eq_ok_of_toOption hok) rfl
  obtain ⟨-, n, rest, hn, hp⟩ := prepare_embedded rfl hprepare
  have hnative : (Sql.engine.prepare 0 insertReturning.toList oneTable.engine).1.toOption =
      some (some 0, []) := by decide +kernel
  rw [hn] at hnative
  cases hnative
  have hfirst : (Sql.engine.step 0 start).1 = .row := by decide +kernel
  have hsecond : (Sql.engine.step 0 shown).1 = .done := by decide +kernel
  exact ⟨_, .embedded hp (.row (Prod.ext hfirst rfl) (.done (Prod.ext hsecond rfl)))⟩

theorem cursor_answers_returning :
    run Sql.engine 0 showsOne = (.ok 0, showsOneRun) ∧
    (∃ row, (toBuffered Sql.engine 0 showsOneRun).1 =
      .ok ⟨columns 0 showsOneRun, [row], stats 0 showsOneRun, 0⟩) ∧
    (askAll Sql.engine 0 showsOneRun [(.advance : Request Unit), .advance]).1 =
      [.moved (.ok false), .moved (.ok false)] ∧
    position 0 showsOneRun ≠ .atEnd := by
  have hok : (run Sql.engine 0 showsOne).1.toOption = some 0 := by decide +kernel
  have hrun : run Sql.engine 0 showsOne = (.ok 0, showsOneRun) :=
    Prod.ext (Sqlite.eq_ok_of_toOption hok) rfl
  obtain ⟨row, hrows⟩ := decodes_showsOne
  obtain ⟨hbuffer, -, hadvances, hend⟩ := cursor_answers hrun hrows
  exact ⟨hrun, ⟨row, hbuffer⟩, hadvances 2, fun h ↦ List.cons_ne_nil _ _ (hend.mp h)⟩

end SqlGateway.Session
