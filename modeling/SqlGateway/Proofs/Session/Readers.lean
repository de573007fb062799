import Mathlib.Data.List.Basic
import SqlGateway.Proofs.Session.Reading
import SqlGateway.Sql.World

namespace SqlGateway.Session

open Feed

variable {σ κ : Type} {E : Sqlite.Engine σ} {id : Nat} {s : Session σ} {rows : List LiveRow}
  {e : Option Error}

/-- What a buffer over the readable rows of a cursor is, or the failure that ends them. -/
def bufferOf (columns : Columns) (stats : Stats) (values : List Row) :
    Option Error → Result Buffered
  | none => .ok ⟨columns, values, stats, 0⟩
  | some e => .error e

theorem toBuffered_ahead (h : (feed E id).Ahead s rows e) :
    (toBuffered E id s).1 =
      bufferOf (columns id s) (stats id s) (readable rows e).1 (readable rows e).2 := by
  obtain ⟨m, hm⟩ := collect_ahead h
  have hlabels : ((feed E id).forward^[m] s).labels = s.labels :=
    iterate_forward_keeps labels (labels_advance id) m s
  have hcolumns : columns id ((feed E id).forward^[m] s) = columns id s := by
    rw [columns_eq, hlabels, columns_eq]
  have hstats : stats id ((feed E id).forward^[m] s) = stats id s := by
    rw [stats_eq, hlabels, stats_eq]
  simp only [toBuffered, hm]
  cases (readable rows e).2 with
  | none => simp [bufferOf, Except.map, hcolumns, hstats]
  | some failure => rfl

theorem toBuffered_unread (h : s.Unread E id rows e) :
    (toBuffered E id s).1 =
      bufferOf (columns id s) (stats id s) (readable rows e).1 (readable rows e).2 :=
  toBuffered_ahead h.ahead

/-- The loop over the rows, the callback and the buffer read the rows of a cursor up to the first
that cannot be fetched or read, and each reports that failure. Executing with a callback or into a
buffer reads as these do. -/
theorem readers_agree (h : s.Unread E id rows e) :
    let values := (readable rows e).1
    let failure := (readable rows e).2
    (((feed E id).readAll s).1 = .ofFailure failure ∧ ((feed E id).readAll s).2.1 = values) ∧
    (∀ {κ : Type} (callback : κ → Row → Verdict × κ) (k : κ),
      Shown callback k values failure ((feed E id).forEach callback k s).1
        ((feed E id).forEach callback k s).2.1) ∧
    (toBuffered E id s).1 = bufferOf (columns id s) (stats id s) values failure ∧
    ∀ t s₀, run E t s₀ = (.ok id, s) →
      (∀ {κ : Type} (callback : κ → Row → Verdict × κ) (k : κ),
        Shown callback k values failure (runEach E t callback k s₀).1
          (runEach E t callback k s₀).2.1) ∧
      (runBuffered E t s₀).1 = bufferOf (columns id s) (stats id s) values failure := by
  intro values failure
  have hshown : ∀ {κ : Type} (callback : κ → Row → Verdict × κ) (k : κ),
      Shown callback k values failure ((feed E id).forEach callback k s).1
        ((feed E id).forEach callback k s).2.1 := by
    intro κ callback k
    obtain ⟨m, hm⟩ := forEach_ahead callback h.ahead k
    rw [hm]
    exact shown_showRows callback k values failure
  refine ⟨?_, hshown, toBuffered_unread h, fun t s₀ hrun ↦ ⟨fun callback k ↦ ?_, ?_⟩⟩
  · obtain ⟨m, hm⟩ := readAll_ahead h.ahead
    exact ⟨congrArg (·.1) hm, congrArg (·.2.1) hm⟩
  · simp only [runEach, hrun]
    exact hshown callback k
  · simp only [runBuffered, hrun]
    exact toBuffered_unread h

def damaged : Servers where
  postgres := { statements := [("q", { fields := [⟨"n", 23⟩]
                                       rows := [[some [0, 0, 0, 1]], [some [1]],
                                         [some [0, 0, 0, 3]]] })] }

def damagedPrepared : Session Sql.World :=
  let connected := ((catalog Sql.engine).create "pg:" { engine := {}, servers := damaged }).2
  (prepare Sql.engine 0 "q" connected).2

def damagedRows : List LiveRow :=
  [[.ok (.int 1)], [.error (Postgres.undecodable 0)], [.ok (.int 3)]]

theorem damagedRows_eq :
    damagedRows = [[some [0, 0, 0, 1]], [some [1]], [some [0, 0, 0, 3]]].map
      (Postgres.liveRow [⟨"n", 23⟩]) := by
  have hfirst : Postgres.decode 23 0 (some [0, 0, 0, 1]) = .ok (.int 1) := by decide +kernel
  have hsecond : Postgres.decode 23 0 (some [1]) = .error (Postgres.undecodable 0) := by
    decide +kernel
  have hthird : Postgres.decode 23 0 (some [0, 0, 0, 3]) = .ok (.int 3) := by decide +kernel
  simp [damagedRows, Postgres.liveRow, hfirst, hsecond, hthird]

theorem readers_agree_damaged :
    let s := (run Sql.engine 0 damagedPrepared).2
    s.Unread Sql.engine 0 damagedRows none ∧
    ((feed Sql.engine 0).readAll s).2.1 = [[.int 1]] ∧
    ((feed Sql.engine 0).forEach (fun calls _ ↦ (.more, calls + 1)) 0 s).1 =
      .error (Postgres.undecodable 0) ∧
    ((feed Sql.engine 0).forEach (fun calls _ ↦ (.enough, calls + 1)) 0 s).1 = .ok 1 ∧
    (toBuffered Sql.engine 0 s).1 = .error (Postgres.undecodable 0) := by
  intro s
  have h : s.Unread Sql.engine 0 damagedRows none := ⟨rfl, rfl, damagedRows_eq, rfl⟩
  obtain ⟨⟨-, hread⟩, hcalls, hbuffer, -⟩ := readers_agree h
  have hmore := hcalls (fun calls _ ↦ (.more, calls + 1)) 0
  have henough := hcalls (fun calls _ ↦ (.enough, calls + 1)) 0
  exact ⟨h, hread, (hmore.all ⟨rfl, trivial⟩).1,
    (henough.enough [] [.int 1] [] rfl trivial rfl).1, hbuffer⟩

end SqlGateway.Session
