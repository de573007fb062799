import Mathlib.Control.Monad.Basic
import SqlGateway.Proofs.Sqlite.Execution
import SqlGateway.Sql.World

namespace SqlGateway.Sqlite

inductive Engine.Request where
  | openDatabase (path : String)
  | closeDatabase (database : Nat)
  | prepare (database : Nat) (text : List Char)
  | finalize (statement : Nat)
  | step (statement : Nat)
  | reset (statement : Nat)
  | bind (statement index : Nat) (d : Sql.Datum)
deriving DecidableEq, Repr

structure Engine.Noted (σ : Type) where
  inner : σ
  asked : List Engine.Request := []

variable {σ : Type}

/-- The engine that notes every request and answers as before. -/
def Engine.note (E : Engine σ) : Engine (Noted σ) where
  openDatabase path w :=
    ((E.openDatabase path w.inner).1,
      ⟨(E.openDatabase path w.inner).2, w.asked ++ [.openDatabase path]⟩)
  closeDatabase db w := ⟨E.closeDatabase db w.inner, w.asked ++ [.closeDatabase db]⟩
  prepare db text w :=
    ((E.prepare db text w.inner).1,
      ⟨(E.prepare db text w.inner).2, w.asked ++ [.prepare db text]⟩)
  finalize n w := ⟨E.finalize n w.inner, w.asked ++ [.finalize n]⟩
  step n w := ((E.step n w.inner).1, ⟨(E.step n w.inner).2, w.asked ++ [.step n]⟩)
  reset n w := ⟨E.reset n w.inner, w.asked ++ [.reset n]⟩
  bind n index d w :=
    ((E.bind n index d w.inner).1, ⟨(E.bind n index d w.inner).2, w.asked ++ [.bind n index d]⟩)
  parameters n w := E.parameters n w.inner
  columns n w := E.columns n w.inner
  row n w := E.row n w.inner
  counters db w := E.counters db w.inner

variable {E : Engine σ} {db n k : Nat} {f : Failure} {s s₁ s' : σ} {text rest : List Char}
  {later : List σ} {turns : List (Turn σ)} {ending : TextEnding}

theorem step_note {o : Outcome} (h : E.step n s = (o, s')) (asked : List Engine.Request) :
    E.note.step n ⟨s, asked⟩ = (o, ⟨s', asked ++ [.step n]⟩) := by
  simp only [Engine.note, h]

theorem prepare_note {r : Except Failure (Option Nat × List Char)}
    (h : E.prepare db text s = (r, s')) (asked : List Engine.Request) :
    E.note.prepare db text ⟨s, asked⟩ = (r, ⟨s', asked ++ [.prepare db text]⟩) := by
  simp only [Engine.note, h]

def stepsOf (n rows : Nat) : List Engine.Request := List.replicate (rows + 1) (.step n)

theorem Engine.Completes.note (h : E.Completes n s later s') (asked : List Request) :
    ∃ later', E.note.Completes n ⟨s, asked⟩ later' ⟨s', asked ++ stepsOf n later.length⟩ := by
  induction h generalizing asked with
  | done hstep => exact ⟨[], .done (step_note hstep asked)⟩
  | @row _ _ _ later hstep _ ih =>
    obtain ⟨later', hlater⟩ := ih (asked ++ [.step n])
    rw [List.append_assoc] at hlater
    exact ⟨_, .row (step_note hstep asked) hlater⟩

theorem Engine.Breaks.note (h : E.Breaks n f s k s') (asked : List Request) :
    E.note.Breaks n f ⟨s, asked⟩ k ⟨s', asked ++ stepsOf n k⟩ := by
  induction h generalizing asked with
  | failed hstep => exact .failed (step_note hstep asked)
  | row hstep _ ih =>
    have hrest := ih (asked ++ [.step n])
    rw [List.append_assoc] at hrest
    exact .row (step_note hstep asked) hrest

def Ran.requests (r : Ran σ) : List Engine.Request :=
  stepsOf r.native r.later.length ++ [.finalize r.native]

/-- What is asked up to the rest of a text: each part is compiled where it stands in the text, and
the statement in it is run once. -/
def requested (db : Nat) : List (Turn σ) → List Char → List Engine.Request
  | [], _ => []
  | t :: turns, rest =>
    .prepare db (t.piece ++ (written turns ++ rest)) ::
      (t.ran.elim [] Ran.requests ++ requested db turns rest)

def TextEnding.requests (db : Nat) (rest : List Char) : TextEnding → List Engine.Request
  | finished => []
  | unprepared _ => [.prepare db rest]
  | broken n rows _ => .prepare db rest :: (stepsOf n rows ++ [.finalize n])

theorem Engine.Passes.note (h : E.Passes db text s turns rest s₁) (asked : List Request) :
    ∃ turns', E.note.Passes db text ⟨s, asked⟩ turns' rest ⟨s₁, asked ++ requested db turns rest⟩ ∧
      (runs turns').map (Ran.stats E.note db) = (runs turns).map (Ran.stats E db) := by
  induction h generalizing asked with
  | stay =>
    refine ⟨[], ?_, rfl⟩
    rw [requested, List.append_nil]
    exact .stay
  | @blank piece left rest _ _ _ turns hpiece hprepare hleft ih =>
    have hprepared := prepare_note hprepare asked
    obtain ⟨turns', hturns, hstats⟩ := ih (asked ++ [.prepare db (piece ++ left)])
    have hasked : asked ++ requested db (⟨piece, none⟩ :: turns) rest =
        asked ++ [.prepare db (piece ++ left)] ++ requested db turns rest := by
      simp [requested, ← hleft.text_eq]
    rw [hasked]
    exact ⟨_, .blank hpiece hprepared hturns, hstats⟩
  | @statement piece left rest n _ s₁ s₂ _ later turns hpiece hprepare hrun hleft ih =>
    have hprepared := prepare_note hprepare asked
    obtain ⟨later', hran⟩ := hrun.note (asked ++ [.prepare db (piece ++ left)])
    obtain ⟨turns', hturns, hstats⟩ := ih
      (asked ++ [.prepare db (piece ++ left)] ++ stepsOf n later.length ++ [.finalize n])
    have hasked : asked ++ requested db (⟨piece, some ⟨n, s₁, later, s₂⟩⟩ :: turns) rest =
        asked ++ [.prepare db (piece ++ left)] ++ stepsOf n later.length ++ [.finalize n] ++
          requested db turns rest := by
      simp [requested, Ran.requests, ← hleft.text_eq]
    rw [hasked]
    exact ⟨_, .statement hpiece hprepared hran hturns, congrArg (_ :: ·) hstats⟩

theorem Engine.Ends.note (h : E.Ends db rest s ending s') (asked : List Request) :
    E.note.Ends db rest ⟨s, asked⟩ ending ⟨s', asked ++ ending.requests db rest⟩ := by
  cases h with
  | finished =>
    rw [TextEnding.requests, List.append_nil]
    exact .finished
  | unprepared hrest hprepare => exact .unprepared hrest (prepare_note hprepare asked)
  | @broken piece left n k _ _ s₂ f hpiece hprepare hrun =>
    have hran := hrun.note (asked ++ [.prepare db (piece ++ left)])
    have hasked : asked ++ (TextEnding.broken n k f).requests db (piece ++ left) =
        asked ++ [.prepare db (piece ++ left)] ++ stepsOf n k ++ [.finalize n] := by
      simp [TextEnding.requests]
    rw [hasked]
    exact .broken hpiece (prepare_note hprepare asked) hran

theorem execute_nul {sql : String} (hnul : sql.toList.any Engine.isNul) (s : σ) :
    E.execute db sql s = (.error ((misuse "SQL text contains NUL").at .prepare), s) := by
  rw [Engine.execute, if_pos hnul]

/-- The statements of a text are compiled and run to their ends in order, each once, up to the first
that fails, of which the answer tells; of what stands behind it nothing is asked. If none fails, the
answer has the changes of all of them. The work ends unless one of the statements has no end. -/
theorem text_executed (E : Engine σ) (db : Nat) (sql : String) (hadvances : E.Advances db sql.toList)
    (s : σ) (asked : List Engine.Request) :
    (sql.toList.any Engine.isNul → E.note.execute db sql ⟨s, asked⟩ =
      (.error ((misuse "SQL text contains NUL").at .prepare), ⟨s, asked⟩)) ∧
    (¬ sql.toList.any Engine.isNul →
      (∃ turns rest s₁, E.Passes db sql.toList s turns rest s₁ ∧
        ((∃ ending s', E.Ends db rest s₁ ending s') ∨ E.RunsOn db rest s₁)) ∧
      ∀ turns rest s₁ ending s', E.Passes db sql.toList s turns rest s₁ →
        E.Ends db rest s₁ ending s' →
          sql.toList = written turns ++ rest ∧
          E.execute db sql s = (ending.result (total E db turns), s') ∧
          E.note.execute db sql ⟨s, asked⟩ = (ending.result (total E db turns),
            ⟨s', asked ++ requested db turns rest ++ ending.requests db rest⟩) ∧
          (total E db turns).affectedRows =
            UInt64.ofNat ((runs turns).map (Ran.changes E db)).sum) := by
  refine ⟨fun hnul ↦ execute_nul hnul _, fun hnul ↦ ⟨hadvances.exists_passes s, ?_⟩⟩
  intro turns rest s₁ ending s' hpasses hend
  refine ⟨hpasses.text_eq, hend.execute hpasses hnul, ?_, ?_⟩
  · obtain ⟨turns', hturns, hstats⟩ := hpasses.note asked
    have htotal : total E.note db turns' = total E db turns := by rw [total, total, hstats]
    rw [(hend.note _).execute hturns hnul, htotal]
  · rw [total, affectedRows_foldl]
    simp

theorem readStatement_suffix (text : List Char) : (Sql.readStatement text).2 <:+ text := by
  have hnil : [] <:+ text := List.nil_suffix
  unfold Sql.readStatement
  simp only
  split
  · exact hnil
  split
  · exact hnil
  simp only
  split
  · split
    · exact hnil
    · exact List.drop_suffix _ _
  · exact hnil

theorem left_of_prepare {w w' : Sql.World} {statement : Option Nat} {left : List Char}
    (h : Sql.engine.prepare db text w = (.ok (statement, left), w')) :
    left = (Sql.readStatement text).2 := by
  simp only [Sql.engine, Sql.World.prepare] at h
  split at h
  · cases h
  · rename_i hread
    cases h
    rw [hread]
  · rename_i hread
    rw [hread]
    split at h
    · cases h
    split at h
    · cases h
    · cases h
      rfl

theorem advances_of_readStatement
    (h : ∀ k < text.length, (Sql.readStatement (text.drop k)).2.length < (text.drop k).length)
    (db : Nat) : Sql.engine.Advances db text := by
  intro part w statement left w' hpart hne hprepare
  obtain rfl := left_of_prepare hprepare
  obtain ⟨piece, hpiece⟩ := readStatement_suffix part
  refine ⟨piece, ?_, hpiece.symm⟩
  have hpos := List.length_pos_iff.mpr hne
  have hle := hpart.length_le
  have hless := h (text.length - part.length) (by omega)
  rw [← List.suffix_iff_eq_drop.mp hpart] at hless
  -- A piece without characters would leave as much as there was.
  rintro rfl
  rw [List.nil_append] at hpiece
  exact absurd (congrArg List.length hpiece) (Nat.ne_of_lt hless)

def oneTableWorld : Sql.World where
  stores := [⟨none, { tables := [{
    name := "t"
    columns := [{ name := "n", declared := some "INTEGER" }] }] }⟩]
  clients := [{ store := 0 }]

def interruptedText : List Char :=
  "INSERT INTO t VALUES (5);--\n;DROP TABLE u;DROP TABLE t".toList

def interruptedRun : Ran Sql.World :=
  let start := (Sql.engine.prepare 0 interruptedText oneTableWorld).2
  ⟨0, start, [], (Sql.engine.step 0 start).2⟩

theorem interrupted_passes :
    Sql.engine.Passes 0 interruptedText oneTableWorld
      [⟨interruptedText.take 28, some interruptedRun⟩] (interruptedText.drop 28)
      (Sql.engine.finalize 0 interruptedRun.finish) := by
  have hprepare : (Sql.engine.prepare 0 interruptedText oneTableWorld).1 =
      .ok (some 0, interruptedText.drop 28) := by decide +kernel
  have hstep : (Sql.engine.step 0 interruptedRun.start).1 = .done := by decide +kernel
  have hpasses : Sql.engine.Passes 0 (interruptedText.take 28 ++ interruptedText.drop 28)
      oneTableWorld [⟨interruptedText.take 28, some interruptedRun⟩] (interruptedText.drop 28)
      (Sql.engine.finalize 0 interruptedRun.finish) := by
    refine .statement (by decide) ?_ (.done (Prod.ext hstep rfl)) .stay
    rw [List.take_append_drop]
    exact Prod.ext hprepare rfl
  rwa [List.take_append_drop] at hpasses

theorem interrupted_ends : ∃ w,
    Sql.engine.Ends 0 (interruptedText.drop 28) (Sql.engine.finalize 0 interruptedRun.finish)
      (.unprepared ⟨1, "no such table: u"⟩) w ∧ (Sql.engine.counters 0 w).total = 1 := by
  have hprepare : (Sql.engine.prepare 0 (interruptedText.drop 28)
      (Sql.engine.finalize 0 interruptedRun.finish)).1 = .error ⟨1, "no such table: u"⟩ := by
    decide +kernel
  exact ⟨_, .unprepared (by decide) (Prod.ext hprepare rfl), by decide +kernel⟩

theorem text_executed_interrupted :
    Sql.engine.Advances 0 interruptedText ∧
    ∃ w, Sql.engine.note.execute 0 (String.ofList interruptedText) ⟨oneTableWorld, []⟩ =
        (.error (.native .prepare "1" "no such table: u"), ⟨w, [.prepare 0 interruptedText,
          .step 0, .finalize 0, .prepare 0 (interruptedText.drop 28)]⟩) ∧
      (Sql.engine.counters 0 w).total = 1 := by
  have hadvances : Sql.engine.Advances 0 interruptedText :=
    advances_of_readStatement (by decide +kernel) 0
  obtain ⟨w, hend, htotal⟩ := interrupted_ends
  obtain ⟨-, hrun⟩ := (text_executed Sql.engine 0 (String.ofList interruptedText)
    (by rwa [String.toList_ofList]) oneTableWorld []).2 (by decide)
  rw [String.toList_ofList] at hrun
  exact ⟨hadvances, w, (hrun _ _ _ _ _ interrupted_passes hend).2.2.1, htotal⟩

end SqlGateway.Sqlite
