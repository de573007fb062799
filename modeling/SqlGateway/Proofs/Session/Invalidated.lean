import SqlGateway.Proofs.Session.Turns
import SqlGateway.Sql.World

namespace SqlGateway.Session

open Feed

variable {σ : Type} {E : Sqlite.Engine σ} {s s₁ : Session σ} {t c : Nat}

/-- Once the statement of a cursor was executed again or bound anew, its row is gone and it moves no
further; but the first look of a loop, the callback and the buffer find an end of the rows. -/
theorem reading_invalidated (h : run E t s = (.ok c, s₁)) {after : List (Operation σ)}
    (htouched : touches E t s₁ after % UInt64.size ≠ 0) :
    let s₂ := performAll E s₁ after
    current E c s₂ = .error .invalidIterator ∧
    advance E c s₂ = (.error .invalidIterator, s₂) ∧
    (∀ started, (feed E c).next started s₂ =
      (if started then .error .invalidIterator else .ok none, s₂)) ∧
    (∀ {κ : Type} (callback : κ → Row → Verdict × κ) (k : κ),
      (feed E c).forEach callback k s₂ = (.ok 0, k, s₂)) ∧
    toBuffered E c s₂ = (.ok ⟨columns c s₁, [], stats c s₁, 0⟩, s₂) := by
  intro s₂
  have hticket := ticket?_run h
  have hlost : s₁.generation t ≠ s₂.generation t := by
    rw [generation_performAll, ne_comm, Ne, add_ofNat_eq_self_iff]
    exact htouched
  have hticket₂ : s₂.ticket? c = some (t, s₁.generation t) := ticket?_performAll hticket after
  have hrow : hasRow c s₂ = false := hasRow_of_lost hticket₂ hlost
  have hadvance : advance E c s₂ = (.error .invalidIterator, s₂) := advance_of_lost hticket₂ hlost
  refine ⟨current_of_lost hticket₂ hlost, hadvance, fun started ↦ ?_,
    fun callback k ↦ forEach_nothing callback hrow k, ?_⟩
  · cases started with
    | true => simp [next, feed, hadvance]
    | false => simp [next, feed, hrow]
  · have hlabel := getElem?_labels_performAll (E := E) (lt_length_labels hticket) after
    have hcollect : (feed E c).collect s₂ = (.ok [], s₂) := collect_nothing hrow
    simp only [toBuffered, hcollect, Except.map, columns_eq, stats_eq]
    rw [hlabel]

def oneRow : Servers where
  postgres := { statements := [("q", { fields := [⟨"n", 23⟩], rows := [[some [0, 0, 0, 1]]] })] }

def oneRowPrepared : Session Sql.World :=
  performAll Sql.engine { engine := {}, servers := oneRow } [.connect "pg:", .prepare 0 "q"]

theorem reading_invalidated_oneRow :
    let s₁ := (run Sql.engine 0 oneRowPrepared).2
    (run Sql.engine 0 oneRowPrepared).1 = .ok 0 ∧
    hasRow 0 s₁ = true ∧
    touches Sql.engine 0 s₁ [.execute 0] % UInt64.size ≠ 0 ∧
    (toBuffered Sql.engine 0 (performAll Sql.engine s₁ [.execute 0])).1 =
      .ok { columns := [⟨"n", .int, 23, 0, "", ""⟩] } := by
  intro s₁
  have hcursor : (run Sql.engine 0 oneRowPrepared).1 = .ok 0 := by decide +kernel
  have hrow : hasRow 0 s₁ = true := by decide +kernel
  have htouched : touches Sql.engine 0 s₁ [.execute 0] % UInt64.size ≠ 0 := by decide +kernel
  have hcolumns : columns 0 s₁ = [⟨"n", .int, 23, 0, "", ""⟩] := by decide +kernel
  have hstats : stats 0 s₁ = {} := by decide +kernel
  have hrun : run Sql.engine 0 oneRowPrepared = (.ok 0, s₁) := Prod.ext hcursor rfl
  obtain ⟨-, -, -, -, hbuffer⟩ := reading_invalidated hrun htouched
  rw [hcolumns, hstats] at hbuffer
  exact ⟨hcursor, hrow, htouched, congrArg Prod.fst hbuffer⟩

end SqlGateway.Session
