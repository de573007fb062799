import SqlGateway.Proofs.Sqlite.Batch

namespace SqlGateway.Sqlite

variable {σ : Type} {E : Engine σ} {inserted : Nat → Nat → σ → Option Int64} {db n : Nat}
  {s s' : σ}

/-- What the documentation of the engine says of its counters. `inserted db n s` is the number of
the row that the next step of statement `n` inserts last into database `db`, if it inserts any. -/
structure Engine.Documented (E : Engine σ) (inserted : Nat → Nat → σ → Option Int64) : Prop where
  /-- The identity is that of the latest insertion on the connection. -/
  step : ∀ db n s, (E.counters db (E.step n s).2).rowid =
    (inserted db n s).getD (E.counters db s).rowid
  /-- A statement makes its changes during its first step. -/
  resume : ∀ db n s s', E.step n s = (.row, s') → inserted db n s' = none
  /-- Changes are counted once the statement has run to completion. -/
  counted : ∀ db n s s', E.step n s = (.row, s') →
    (E.counters db s').total = (E.counters db s).total
  prepare : ∀ db' text s db, (E.counters db (E.prepare db' text s).2).rowid =
    (E.counters db s).rowid
  reset : ∀ db n s, (E.counters db (E.reset n s)).rowid = (E.counters db s).rowid
  finalize : ∀ db n s, (E.counters db (E.finalize n s)).rowid = (E.counters db s).rowid
  /-- A statement that was just prepared is rewound already. -/
  fresh : ∀ db text n rest s s', E.prepare db text s = (.ok (some n, rest), s') → E.reset n s' = s'

def Ran.lastRow (inserted : Nat → Nat → σ → Option Int64) (db : Nat) (r : Ran σ) : Option Int64 :=
  ((r.start :: r.later).filterMap (inserted db r.native)).getLast?

def lastRow (inserted : Nat → Nat → σ → Option Int64) (db : Nat) (runs : List (Ran σ)) :
    Option Int64 := (runs.filterMap (Ran.lastRow inserted db)).getLast?

def identity (rowid : Int64) : UInt64 := UInt64.ofNat rowid.toInt.toNat

/-- The statement left the counter on the identity where it stood. -/
def Ran.Still (E : Engine σ) (db : Nat) (r : Ran σ) : Prop :=
  (E.counters db r.finish).rowid = (E.counters db r.start).rowid

instance (r : Ran σ) : Decidable (r.Still E db) := inferInstanceAs (Decidable (_ = _))

theorem identity_ne_zero {k : Int64} (h : 0 < k) : identity k ≠ 0 := by
  have hpos : 0 < k.toInt := by simpa using Int64.lt_iff_toInt_lt.mp h
  have hlt : k.toInt < 2 ^ 63 := Int64.toInt_lt k
  rw [identity, ne_eq, ← UInt64.toNat_inj, UInt64.toNat_ofNat']
  simp only [UInt64.toNat_zero]
  omega

theorem lastInsertId_stats (r : Ran σ) :
    (r.stats E db).lastInsertId =
      if r.Still E db then 0 else identity (E.counters db r.finish).rowid := rfl

namespace Engine.Documented

theorem rowid_step (D : E.Documented inserted) {o : Outcome} (h : E.step n s = (o, s')) :
    (E.counters db s').rowid = (inserted db n s).getD (E.counters db s).rowid := by
  have hstep := D.step db n s
  rw [h] at hstep
  exact hstep

theorem rowid_prepare (D : E.Documented inserted) {db' : Nat} {text : List Char}
    {r : Except Failure (Option Nat × List Char)} (h : E.prepare db' text s = (r, s')) :
    (E.counters db s').rowid = (E.counters db s).rowid := by
  have hprepare := D.prepare db' text s db
  rw [h] at hprepare
  exact hprepare

theorem completes_inserts (D : E.Documented inserted) {later : List σ}
    (h : E.Completes n s later s') : later.filterMap (inserted db n) = [] := by
  induction h with
  | done hstep => rfl
  | row hstep _ ih => rw [List.filterMap_cons_none (D.resume db n _ _ hstep), ih]

theorem rowid_completes (D : E.Documented inserted) {later : List σ}
    (h : E.Completes n s later s') :
    (E.counters db s').rowid = (inserted db n s).getD (E.counters db s).rowid := by
  induction h with
  | done hstep => exact D.rowid_step hstep
  | row hstep _ ih =>
    rw [ih, D.resume db n _ _ hstep, ← D.rowid_step hstep]
    rfl

theorem lastRow_ran (D : E.Documented inserted) {later : List σ} (h : E.Completes n s later s') :
    Ran.lastRow inserted db ⟨n, s, later, s'⟩ = inserted db n s := by
  have hlater : later.filterMap (inserted db n) = [] := D.completes_inserts h
  cases hfirst : inserted db n s with
  | none => simp [Ran.lastRow, List.filterMap_cons_none hfirst, hlater]
  | some k => simp [Ran.lastRow, List.filterMap_cons_some hfirst, hlater]

theorem rowid_carriedOut (D : E.Documented inserted) {text : List Char} {runs : List (Ran σ)}
    (h : E.CarriedOut db text s runs s') :
    (E.counters db s').rowid = (lastRow inserted db runs).getD (E.counters db s).rowid := by
  induction h with
  | finished _ => rfl
  | nothing _ hprepare _ => exact D.rowid_prepare hprepare
  | blank hprepare _ _ ih => rw [ih, D.rowid_prepare hprepare]
  | @statement text rest n s s₁ s₂ s₃ later runs hprepare _ hcomplete _ ih =>
    rw [ih, D.finalize, D.rowid_completes hcomplete, D.rowid_prepare hprepare]
    have hran : Ran.lastRow inserted db ⟨n, s₁, later, s₂⟩ = inserted db n s₁ :=
      D.lastRow_ran hcomplete
    cases hfirst : inserted db n s₁ with
    | none =>
      rw [hfirst] at hran
      simp [lastRow, List.filterMap_cons_none hran]
    | some k =>
      rw [hfirst] at hran
      rw [lastRow, lastRow, List.filterMap_cons_some hran, List.getLast?_cons]
      simp

theorem rowid_still (D : E.Documented inserted) {text : List Char} {runs : List (Ran σ)}
    (h : E.CarriedOut db text s runs s') (hstill : ∀ r ∈ runs, r.Still E db) :
    (E.counters db s').rowid = (E.counters db s).rowid := by
  induction h with
  | finished _ => rfl
  | nothing _ hprepare _ => exact D.rowid_prepare hprepare
  | blank hprepare _ _ ih => rw [ih hstill, D.rowid_prepare hprepare]
  | @statement text rest n s s₁ s₂ s₃ later runs hprepare _ hcomplete _ ih =>
    obtain ⟨hfirst, hrest⟩ := List.forall_mem_cons.mp hstill
    rw [ih hrest, D.finalize, ← D.rowid_prepare hprepare]
    exact hfirst

/-- A text reports the identity that the counter stands on at the end, unless no statement of it
moved the counter. -/
theorem lastInsertId_carriedOut (D : E.Documented inserted) {text : List Char} {runs : List (Ran σ)}
    (h : E.CarriedOut db text s runs s') (hpos : 0 < (E.counters db s').rowid) (stats : Stats) :
    (runs.foldl (fun stats r ↦ stats.followedBy (r.stats E db)) stats).lastInsertId =
      if ∀ r ∈ runs, r.Still E db then stats.lastInsertId
      else identity (E.counters db s').rowid := by
  induction h generalizing stats with
  | finished _ => simp
  | nothing _ _ _ => simp
  | blank _ _ _ ih => exact ih hpos stats
  | @statement text rest n s s₁ s₂ s₃ later runs hprepare _ hcomplete hout ih =>
    rw [List.foldl_cons, ih hpos, Stats.followedBy, lastInsertId_stats]
    by_cases hfirst : Ran.Still E db ⟨n, s₁, later, s₂⟩
    · simp [hfirst]
    · by_cases hrest : ∀ r ∈ runs, r.Still E db
      · -- no later statement moves the counter on, so it still stands on a positive identity here
        have hend := D.rowid_still hout hrest
        rw [D.finalize] at hend
        rw [hend] at hpos ⊢
        simp [hfirst, identity_ne_zero hpos]
      · have hall : ¬ ∀ r ∈ (⟨n, s₁, later, s₂⟩ : Ran σ) :: runs, r.Still E db :=
          fun h ↦ hrest fun r hr ↦ h r (List.mem_cons_of_mem _ hr)
        rw [if_neg hrest, if_neg hall]

theorem stats_firstStep (D : E.Documented inserted) {later : List σ}
    (h : E.Completes n s later s') :
    E.statsSince (E.counters db s) db (later.headD s') =
      ⟨if later = [] then (Ran.stats E db ⟨n, s, later, s'⟩).affectedRows else 0,
        (Ran.stats E db ⟨n, s, later, s'⟩).lastInsertId⟩ := by
  cases h with
  | done hstep => rfl
  | @row _ s₁ _ later hstep hlater =>
    have hrowid : (E.counters db s').rowid = (inserted db n s₁).getD (E.counters db s₁).rowid :=
      D.rowid_completes hlater
    rw [D.resume db n _ _ hstep] at hrowid
    simp only [List.headD_cons, Engine.statsSince, Ran.stats, D.counted db n _ _ hstep, hrowid]
    rfl

end Engine.Documented

end SqlGateway.Sqlite
