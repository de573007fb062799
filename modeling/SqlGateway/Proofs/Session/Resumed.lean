import SqlGateway.Proofs.Rows.Stopped
import SqlGateway.Proofs.Session.Answers

namespace SqlGateway.Session

open Feed

variable {σ : Type} {E : Sqlite.Engine σ} {id p m : ℕ} {s s' : Session σ}
  {rows visited : List Row}

/-- The cursor has its turn and stands on row `p` of these, or behind the last. Nothing fails from
there to the end: values are read, a source that breaks does so elsewhere, and a native statement
steps to its end. -/
inductive At (E : Sqlite.Engine σ) (id : ℕ) (rows : List Row) (p : ℕ) (s : Session σ) : Prop
  | fetched {t : ℕ} {c : Fetched} (hcursor : s.cursor? id = some (.fetched t c))
      (hlive : c.isCurrent (s.generation t) = true) (hrows : c.rows = rows.map Row.live)
      (hplace : c.index = p) (hle : p ≤ rows.length)
  | buffered {b : Buffered} (hcursor : s.cursor? id = some (.buffered b)) (hrows : b.rows = rows)
      (hplace : b.index = p) (hle : p ≤ rows.length)
  | faulty {c : Faulty} (hcursor : s.cursor? id = some (.faulty c)) (hrows : c.rows = rows)
      (hplace : c.index = p) (hle : p ≤ rows.length)
      (hsound : ∀ b, c.breakAt = some b → b ≤ p ∨ rows.length < b)
  | stepping {t : ℕ} {c : Sqlite.Cursor} {n : Sqlite.Statement} {row : Row} {later : List σ}
      {finish : σ} (hcursor : s.cursor? id = some (.stepping t c))
      (hstatement : s.statement? t = some (.embedded n)) (hlive : c.isCurrent n = true)
      (hon : n.onRow = true) (hrow : c.current E n s.engine = .ok row.live)
      (hlater : E.Completes n.native s.engine later finish) (hplace : c.steps = p)
      (hrows : rows.drop p =
        row :: later.map fun e ↦ Sqlite.shownValues c.columns (E.row n.native e))
  | ended {t : ℕ} {c : Sqlite.Cursor} {n : Sqlite.Statement}
      (hcursor : s.cursor? id = some (.stepping t c))
      (hstatement : s.statement? t = some (.embedded n)) (hlive : c.isCurrent n = true)
      (hon : n.onRow = false) (hplace : p = rows.length)

theorem drop_eq_cons {row : Row} {rest : List Row} (h : rows.drop p = row :: rest) :
    p < rows.length ∧ rows[p]? = some row ∧ rows.drop (p + 1) = rest := by
  refine ⟨?_, ?_, ?_⟩
  · have hlength := congrArg List.length h
    rw [List.length_drop, List.length_cons] at hlength
    omega
  · rw [← List.head?_drop, h]
    rfl
  · rw [← List.drop_drop, h]
    rfl

theorem At.le (h : At E id rows p s) : p ≤ rows.length := by
  cases h with
  | fetched _ _ _ _ hle => exact hle
  | buffered _ _ _ hle => exact hle
  | faulty _ _ _ hle => exact hle
  | stepping _ _ _ _ _ _ _ hrows => exact Nat.le_of_lt (drop_eq_cons hrows).1
  | ended _ _ _ _ hplace => exact Nat.le_of_eq hplace

theorem At.hasRow_eq (h : At E id rows p s) : hasRow id s = decide (p < rows.length) := by
  cases h with
  | fetched hcursor hlive hrows hplace =>
    simp [hasRow, hcursor, Fetched.hasRow, hlive, hrows, hplace]
  | buffered hcursor hrows hplace => simp [hasRow, hcursor, Buffered.hasRow, hrows, hplace]
  | faulty hcursor hrows hplace => simp [hasRow, hcursor, Faulty.hasRow, hrows, hplace]
  | stepping hcursor hstatement hlive hon _ _ _ hrows =>
    rw [hasRow_stepping hcursor hstatement, Sqlite.Cursor.hasRow, hlive, hon]
    exact (decide_eq_true (drop_eq_cons hrows).1).symm
  | ended hcursor hstatement hlive hon hplace =>
    rw [hasRow_stepping hcursor hstatement, Sqlite.Cursor.hasRow, hlive, hon, hplace]
    simp

theorem At.current_eq (h : At E id rows p s) : current E id s = rowAt rows p := by
  cases h with
  | fetched hcursor hlive hrows hplace =>
    simp only [current, hcursor, Fetched.current, hlive, if_true, hrows, hplace, rowAt,
      List.getElem?_map]
    cases rows[p]? <;> rfl
  | buffered hcursor hrows hplace =>
    simp only [current, hcursor, Buffered.current, hrows, hplace, rowAt]
    cases rows[p]? <;> rfl
  | faulty hcursor hrows hplace =>
    cases hget : rows[p]? <;>
      simp only [current, hcursor, Faulty.current, hrows, hplace, rowAt, hget]
  | @stepping t c n row _ _ hcursor hstatement _ _ hrow _ _ hrows =>
    obtain ⟨-, hget, -⟩ := drop_eq_cons hrows
    simp only [current, hcursor, hstatement, hrow, rowAt, hget]
  | ended hcursor hstatement hlive hon hplace =>
    have hget : rows[p]? = none := List.getElem?_eq_none (Nat.le_of_eq hplace.symm)
    simp [current, hcursor, hstatement, Sqlite.Cursor.current, Sqlite.Cursor.hasRow, hon, rowAt,
      hget]

theorem At.of_advance {r : Result Bool} (hadvance : advance E id s = (r, s'))
    (h : At E id rows p s') :
    (advance E id s).1 = r ∧ At E id rows p ((feed E id).forward s) := by
  have hforward : (feed E id).forward s = s' := congrArg Prod.snd hadvance
  rw [hforward]
  exact ⟨congrArg Prod.fst hadvance, h⟩

theorem At.moved (h : At E id rows p s) (hp : p < rows.length) :
    (advance E id s).1 = .ok (decide (p + 1 < rows.length)) ∧
      At E id rows (p + 1) ((feed E id).forward s) := by
  cases h with
  | @fetched t c hcursor hlive hrows hplace =>
    have hadvance : c.advance (s.generation t) =
        (.ok (decide (p + 1 < rows.length)), { c with index := p + 1 }) := by
      rw [Fetched.advance_of_lt hlive (by simp [hrows, hplace, hp]), hrows, hplace, List.length_map]
    have hnext := advance_fetched (E := E) hcursor
    rw [hadvance] at hnext
    exact At.of_advance hnext (.fetched (cursor?_setCursor_self hcursor _) hlive hrows rfl hp)
  | @buffered b hcursor hrows hplace =>
    have hadvance : b.advance = (decide (p + 1 < rows.length), { b with index := p + 1 }) := by
      simp [Buffered.advance, Buffered.hasRow, hrows, hplace, hp]
    have hnext := advance_buffered (E := E) hcursor
    rw [hadvance] at hnext
    exact At.of_advance hnext (.buffered (cursor?_setCursor_self hcursor _) hrows rfl hp)
  | @faulty c hcursor hrows hplace _ hsound =>
    have hbreak : ¬ c.breakAt = some (p + 1) := by
      intro hb
      have := hsound _ hb
      omega
    have hadvance : c.advance =
        (.ok (decide (p + 1 < rows.length)), { c with index := p + 1 }) := by
      simp [Faulty.advance, Faulty.hasRow, hrows, hplace, hbreak, hp]
    have hnext := advance_faulty (E := E) hcursor
    rw [hadvance] at hnext
    refine At.of_advance hnext
      (.faulty (cursor?_setCursor_self hcursor _) hrows rfl hp fun b hb ↦ ?_)
    have := hsound b hb
    omega
  | @stepping t c n row later finish hcursor hstatement hlive hon hrow hlater hplace hrows =>
    obtain ⟨-, -, hrest⟩ := drop_eq_cons hrows
    have hlength : rows.length - (p + 1) = later.length := by
      rw [← List.length_drop, hrest, List.length_map]
    have hadvance := Sqlite.Cursor.advance_onRow (E := E) (s := s.engine) hlive hon
    cases hlater with
    | done hstep =>
      rw [hstep] at hadvance
      obtain ⟨hr, hc, ht, -⟩ := stepped hcursor hstatement hadvance
      rw [List.length_nil] at hlength
      have hlast : ¬ p + 1 < rows.length := by omega
      rw [hr, decide_eq_false hlast]
      exact ⟨rfl, .ended hc ht hlive rfl (by omega)⟩
    | @row _ engine _ later hstep hlater =>
      rw [hstep] at hadvance
      obtain ⟨hr, hc, ht, he⟩ := stepped hcursor hstatement hadvance
      rw [List.length_cons] at hlength
      have hmore : p + 1 < rows.length := by omega
      rw [hr, decide_eq_true hmore]
      refine ⟨rfl, .stepping hc ht hlive hon ?_ (he ▸ hlater) (congrArg (· + 1) hplace) hrest⟩
      rw [show ((feed E id).forward s).engine = engine from he, ← Sqlite.shownRow_eq_live]
      exact Sqlite.Cursor.current_captured (c := { c with
        classes := Sqlite.capture E n c.columns.length engine, steps := c.steps + 1 }) hlive hon rfl
  | ended _ _ _ _ hplace => omega

theorem At.iterate_forward (h : At E id rows p s) (hm : p + m ≤ rows.length) :
    At E id rows (p + m) ((feed E id).forward^[m] s) := by
  induction m with
  | zero => exact h
  | succ m ih =>
    rw [Function.iterate_succ_apply']
    exact ((ih (by omega)).moved (by omega)).2

theorem At.behind (h : At E id rows p s) (hp : p < rows.length) :
    (feed E id).Behind s ((rows.drop (p + 1)).map Row.live) none := by
  generalize hrest : rows.drop (p + 1) = rest
  induction rest generalizing p s with
  | nil =>
    have hend : ¬ p + 1 < rows.length := Nat.not_lt.mpr (List.drop_eq_nil_iff.mp hrest)
    have hlast := (h.moved hp).1
    rw [decide_eq_false hend] at hlast
    exact .exhausted (Prod.ext hlast rfl)
  | cons row rest ih =>
    obtain ⟨hmoved, hnext⟩ := h.moved hp
    obtain ⟨hmore, hget, hdrop⟩ := drop_eq_cons hrest
    rw [decide_eq_true hmore] at hmoved
    have hcurrent : (feed E id).current ((feed E id).forward s) = .ok row.live := by
      have h := hnext.current_eq
      rwa [rowAt, hget] at h
    exact .row (Prod.ext hmoved rfl) hcurrent (ih hnext hmore hdrop)

theorem At.ahead (h : At E id rows p s) :
    (feed E id).Ahead s ((rows.drop p).map Row.live) none := by
  by_cases hp : p < rows.length
  · rw [List.drop_eq_getElem_cons hp]
    have hcurrent := h.current_eq
    rw [rowAt, List.getElem?_eq_getElem hp] at hcurrent
    exact .row (h.hasRow_eq.trans (decide_eq_true hp)) hcurrent (h.behind hp)
  · rw [List.drop_eq_nil_of_le (Nat.le_of_not_lt hp)]
    exact .nothing (h.hasRow_eq.trans (decide_eq_false hp))

theorem at_run {t : ℕ} {s₀ : Session σ} (h : Decodes E t s₀ (columns id s) rows)
    (hrun : run E t s₀ = (.ok id, s)) : At E id rows 0 s := by
  cases h with
  | remote hr ha hrows =>
    have hcursor := cursor?_run_remote hr ha hrun
    exact .fetched hcursor (decide_eq_true rfl) hrows rfl (Nat.zero_le _)
  | @embedded p later finish hp hcomplete =>
    obtain ⟨o, engine, cursor, hstarted⟩ := Started.of_run hp hrun
    cases hcomplete with
    | done hstep =>
      obtain ⟨rfl, rfl⟩ := Prod.mk.inj (hstarted.step_eq.symm.trans hstep)
      exact .ended hstarted.cursor_eq hstarted.statement_eq hstarted.isCurrent rfl rfl
    | row hstep hlater =>
      obtain ⟨rfl, rfl⟩ := Prod.mk.inj (hstarted.step_eq.symm.trans hstep)
      have hshown : cursor.current E (p.started .row) s.engine =
          .ok (Sqlite.shownValues cursor.columns (E.row p.native engine)).live := by
        rw [hstarted.engine_eq, ← Sqlite.shownRow_eq_live]
        exact Sqlite.Cursor.current_captured hstarted.isCurrent rfl (hstarted.captured rfl)
      rw [hstarted.columns_eq]
      exact .stepping hstarted.cursor_eq hstarted.statement_eq hstarted.isCurrent rfl hshown
        (hstarted.engine_eq ▸ hlater) hstarted.steps_eq rfl

/-- Every reader of the cursor begins at place `p` and meets all the rows from there on. -/
structure ReadsFrom (E : Sqlite.Engine σ) (id : ℕ) (rows : List Row) (p : ℕ) (s : Session σ) :
    Prop where
  hasRow_eq : hasRow id s = decide (p < rows.length)
  current_eq : current E id s = rowAt rows p
  loop : ∃ s', (feed E id).take none s = (.exhausted, (rows.drop p).map Row.live, s')
  each : ∀ {κ : Type} (callback : κ → Row → Verdict × κ) (k : κ),
    Shown callback k (rows.drop p) none ((feed E id).forEach callback k s).1
      ((feed E id).forEach callback k s).2.1
  whole : (toBuffered E id s).1 = .ok ⟨columns id s, rows.drop p, stats id s, 0⟩

theorem At.readsFrom (h : At E id rows p s) : ReadsFrom E id rows p s where
  hasRow_eq := h.hasRow_eq
  current_eq := h.current_eq
  loop := take_none_ahead h.ahead
  each callback k := by
    obtain ⟨m, hm⟩ := forEach_ahead callback h.ahead k
    rw [hm, readable_live]
    exact shown_showRows callback k _ _
  whole := by
    have hwhole := toBuffered_ahead h.ahead
    rwa [readable_live] at hwhole

/-- The place of a cursor after at most `m` of `n` rows were read from place `p` on. -/
def placeAfter (n p m : ℕ) : ℕ := if p + m ≤ n then p + m - 1 else n

theorem placeAfter_succ {n : ℕ} (h : p ≤ n) (m : ℕ) :
    placeAfter n p (m + 1) = p + min m (n - p) := by
  unfold placeAfter
  split <;> omega

theorem At.placeAfter (h : At E id rows p s) (m : ℕ) :
    At E id rows (placeAfter rows.length p (m + 1))
      ((feed E id).forward^[min m (rows.drop p).length] s) := by
  have hle := h.le
  rw [List.length_drop, placeAfter_succ hle]
  exact h.iterate_forward (by omega)

def recording {κ : Type} (callback : κ → Row → Verdict × κ) (k : κ × List Row) (row : Row) :
    Verdict × κ × List Row :=
  ((callback k.1 row).1, (callback k.1 row).2, row :: k.2)

theorem enoughAt_recording {κ : Type} {callback : κ → Row → Verdict × κ} {k : κ}
    (h : EnoughAt callback k m rows) (record : List Row) :
    EnoughAt (recording callback) (k, record) m rows := by
  induction rows generalizing m k record with
  | nil => cases m <;> trivial
  | cons row rows ih =>
    match m, h with
    | 1, h => exact h
    | m + 2, ⟨hmore, hrest⟩ => exact ⟨hmore, ih hrest (row :: record)⟩

theorem record_afterCalls {κ : Type} (callback : κ → Row → Verdict × κ) (k : κ)
    (rows record : List Row) :
    (afterCalls (recording callback) (k, record) rows).2 = rows.reverse ++ record := by
  induction rows generalizing k record with
  | nil => rfl
  | cons row rows ih =>
    rw [List.reverse_cons, List.append_assoc]
    exact ih (callback k row).2 (row :: record)

/-- Rows are read by a loop that takes at most `m`, or by a callback that breaks on call `m`. -/
inductive ReadPart (E : Sqlite.Engine σ) (id m : ℕ) (s : Session σ) : List Row → Session σ → Prop
  | loop {ending : Ending} {visited : List Row} {s' : Session σ}
      (h : (feed E id).take (some m) s = (ending, visited.map Row.live, s')) :
      ReadPart E id m s visited s'
  | calls {κ : Type} {callback : κ → Row → Verdict × κ} {k k' : κ} {answer : Result ℕ}
      {record : List Row} {s' : Session σ} (hbreaks : ∀ rows, EnoughAt callback k m rows)
      (h : (feed E id).forEach (recording callback) (k, []) s = (answer, (k', record), s')) :
      ReadPart E id m s record.reverse s'

inductive ReadParts (E : Sqlite.Engine σ) (id : ℕ) :
    Session σ → List (ℕ × List Row) → Session σ → Prop
  | nil {s : Session σ} : ReadParts E id s [] s
  | cons {m : ℕ} {s s' s'' : Session σ} {visited : List Row} {parts : List (ℕ × List Row)} :
      ReadPart E id m s visited s' → ReadParts E id s' parts s'' →
      ReadParts E id s ((m, visited) :: parts) s''

theorem live_injective : Function.Injective Row.live :=
  List.map_injective_iff.mpr fun _ _ ↦ Except.ok.inj

theorem At.readPart (h : At E id rows p s) (hm : 0 < m) (hread : ReadPart E id m s visited s') :
    visited = (rows.drop p).take m ∧ At E id rows (Session.placeAfter rows.length p m) s' := by
  obtain ⟨m, rfl⟩ := Nat.exists_eq_succ_of_ne_zero (Nat.ne_of_gt hm)
  have hplace := h.placeAfter m
  cases hread with
  | loop htake =>
    rw [take_ahead h.ahead, List.length_map, ← List.map_take] at htake
    simp only [Prod.mk.injEq] at htake
    obtain ⟨-, hvisited, rfl⟩ := htake
    exact ⟨(List.map_injective_iff.mpr live_injective hvisited).symm, hplace⟩
  | @calls _ _ _ _ _ record _ hbreaks heach =>
    rw [forEach_enoughAt h.ahead (enoughAt_recording (hbreaks _) [])] at heach
    simp only [Prod.mk.injEq] at heach
    obtain ⟨-, hkept, rfl⟩ := heach
    have hrecord : _ = record := congrArg Prod.snd hkept
    rw [record_afterCalls, List.append_nil] at hrecord
    rw [← hrecord, List.reverse_reverse]
    exact ⟨rfl, hplace⟩

/-- The rows of parts that were read one after the other, and of the rest behind them: each begins
with the row that the one in front of it ended with. -/
def joined (parts : List (List Row)) (rest : List Row) : List Row :=
  parts.foldr (fun visited later ↦ visited ++ later.tail) rest

theorem take_append_tail (rows : List Row) (p : ℕ) {m : ℕ} (hm : 0 < m) :
    (rows.drop p).take m ++ (rows.drop (placeAfter rows.length p m)).tail = rows.drop p := by
  unfold placeAfter
  split
  · have hnext : p + m - 1 + 1 = p + m := by omega
    rw [List.tail_drop, hnext, ← List.drop_drop, List.take_append_drop]
  · rw [List.drop_length, List.tail_nil, List.append_nil]
    apply List.take_of_length_le
    rw [List.length_drop]
    omega

theorem At.readParts {parts : List (ℕ × List Row)} (h : At E id rows p s)
    (hread : ReadParts E id s parts s') (hparts : ∀ part ∈ parts, 0 < part.1) :
    let q := (parts.map Prod.fst).foldl (Session.placeAfter rows.length) p
    At E id rows q s' ∧ joined (parts.map Prod.snd) (rows.drop q) = rows.drop p := by
  induction hread generalizing p with
  | nil => exact ⟨h, rfl⟩
  | @cons m _ _ _ visited parts hpart _ ih =>
    have hm : 0 < m := hparts _ List.mem_cons_self
    obtain ⟨rfl, hnext⟩ := h.readPart hm hpart
    obtain ⟨hlast, hjoined⟩ := ih hnext fun part hmem ↦ hparts part (List.mem_cons_of_mem _ hmem)
    refine ⟨hlast, ?_⟩
    have hstep := take_append_tail rows p hm
    rw [← hjoined] at hstep
    exact hstep

/-- A cursor that stands on a row, or at the end, is read in parts. A loop over at most `m` rows and
a callback that has enough on row `m` both see the next `m` rows, or all if there are fewer; then
the cursor stands on the last row that was seen, or at the end if there were fewer. However many
parts are read, whoever reads on begins with the row that was seen last and meets all the rest. -/
theorem reading_resumes (h : At E id rows p s) :
    (∀ m, 0 < m → ∃ s',
      At E id rows (placeAfter rows.length p m) s' ∧
      ReadsFrom E id rows (placeAfter rows.length p m) s' ∧
      (feed E id).take (some m) s =
        (if p + m ≤ rows.length then .stopped else .exhausted,
          ((rows.drop p).take m).map Row.live, s') ∧
      ∀ {κ : Type} (callback : κ → Row → Verdict × κ) (k : κ),
        EnoughAt callback k m (rows.drop p) →
        (feed E id).forEach callback k s =
          (.ok ((rows.drop p).take m).length, afterCalls callback k ((rows.drop p).take m), s')) ∧
    ∀ parts s', ReadParts E id s parts s' → (∀ part ∈ parts, 0 < part.1) →
      let q := (parts.map Prod.fst).foldl (placeAfter rows.length) p
      At E id rows q s' ∧ ReadsFrom E id rows q s' ∧
        joined (parts.map Prod.snd) (rows.drop q) = rows.drop p := by
  constructor
  · intro m hm
    obtain ⟨m, rfl⟩ := Nat.exists_eq_succ_of_ne_zero (Nat.ne_of_gt hm)
    have hplace := h.placeAfter m
    refine ⟨_, hplace, hplace.readsFrom, ?_, fun callback k hk ↦ forEach_enoughAt h.ahead hk⟩
    rw [take_ahead h.ahead, List.length_map, ← List.map_take]
    have hfull : (rows.drop p).length ≤ m ↔ ¬ p + (m + 1) ≤ rows.length := by
      have hle := h.le
      rw [List.length_drop]
      omega
    simp only [hfull, ite_not]
  · intro parts s' hread hparts q
    obtain ⟨hlast, hjoined⟩ := h.readParts hread hparts
    exact ⟨hlast, hlast.readsFrom, hjoined⟩

def bothRows : List Row := [[.blob [1]], [.blob [2]]]

def breakOnThird (calls : ℕ) (_ : Row) : Verdict × ℕ :=
  (if calls < 2 then .more else .enough, calls + 1)

theorem reading_resumes_twoRows :
    At Sql.engine 0 bothRows 0 executedOnce ∧
    (∃ s, ReadParts Sql.engine 0 executedOnce [(1, [[.blob [1]]]), (2, bothRows)] s ∧
      (toBuffered Sql.engine 0 s).1.map Buffered.rows = .ok [[.blob [2]]]) ∧
    ∃ s, ReadsFrom Sql.engine 0 bothRows 2 s ∧
      (feed Sql.engine 0).forEach breakOnThird 0 executedOnce = (.ok 2, 2, s) := by
  have h : At Sql.engine 0 bothRows 0 executedOnce := by
    have hrun : run Sql.engine 0 (performAll Sql.engine { engine := {}, servers := twoRows }
        [.connect "pg:", .prepare 0 "q"]) = (.ok 0, executedOnce) := Prod.ext rfl rfl
    exact at_run (.remote rfl rfl rfl) hrun
  obtain ⟨hpart, hparts⟩ := reading_resumes h
  obtain ⟨s₁, hfirst, -, htake₁, -⟩ := hpart 1 Nat.one_pos
  obtain ⟨s₂, -, -, htake₂, -⟩ := (reading_resumes hfirst).1 2 Nat.two_pos
  obtain ⟨s₃, -, hlast, -, heach⟩ := hpart 3 (by decide)
  refine ⟨h, ⟨s₂, ?_⟩, s₃, hlast, heach _ 0 ⟨rfl, rfl, trivial⟩⟩
  have hread : ReadParts Sql.engine 0 executedOnce [(1, [[.blob [1]]]), (2, bothRows)] s₂ :=
    .cons (.loop htake₁) (.cons (.loop htake₂) .nil)
  obtain ⟨-, hrest, -⟩ := hparts _ _ hread (by simp)
  refine ⟨hread, ?_⟩
  rw [hrest.whole]
  rfl

end SqlGateway.Session
