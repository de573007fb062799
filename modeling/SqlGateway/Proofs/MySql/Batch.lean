import Mathlib.Algebra.Ring.Nat
import SqlGateway.MySql.Server

namespace SqlGateway.MySql

def Fetch.failure? : Fetch → Option Fault
  | row _ => none
  | failed f => some f

namespace BatchResult

def affected : BatchResult → UInt64
  | set affected _ _ => affected
  | failed _ => 0

def insertId? : BatchResult → Option UInt64
  | set _ insertId _ => insertId
  | failed _ => none

def failures : BatchResult → List Fault
  | set _ _ fetches => fetches.filterMap Fetch.failure?
  | failed f => [f]

end BatchResult

variable {stats : Stats} {f : Fault} {later : List Fault} {results : List BatchResult}

def allChanges (results : List BatchResult) : Nat := (results.map fun r ↦ r.affected.toNat).sum

def identities (results : List BatchResult) : List UInt64 :=
  (results.filterMap BatchResult.insertId?).filter (· ≠ 0)

def allFailures (results : List BatchResult) : List Fault := results.flatMap BatchResult.failures

theorem forM_arrival (fetches : List Fetch) :
    fetches.forM Fetch.arrival =
      match fetches.filterMap Fetch.failure? with
      | [] => .ok ()
      | f :: _ => .error f := by
  induction fetches with
  | nil => rfl
  | cons fetch fetches ih =>
    cases fetch with
    | row cells => exact ih
    | failed f => rfl

theorem addTo_eq (stats : Stats) (r : BatchResult) :
    r.addTo stats =
      match r.failures with
      | [] => .ok ⟨stats.affectedRows + r.affected,
          (r.insertId?.filter (· ≠ 0)).getD stats.lastInsertId⟩
      | f :: _ => .error f := by
  cases r with
  | failed f => rfl
  | set affected insertId fetches =>
    rw [BatchResult.addTo, forM_arrival, BatchResult.failures]
    cases fetches.filterMap Fetch.failure? <;> rfl

theorem getLast?_identities (r : BatchResult) (results : List BatchResult) (id : UInt64) :
    (identities (r :: results)).getLast?.getD id =
      (identities results).getLast?.getD ((r.insertId?.filter (· ≠ 0)).getD id) := by
  cases hr : r.insertId? with
  | none => simp [identities, List.filterMap_cons_none hr]
  | some k =>
    rw [identities, List.filterMap_cons_some hr, Option.filter_some]
    by_cases hk : k = 0
    · rw [List.filter_cons_of_neg (by simp [hk]), if_neg (by simp [hk])]
      rfl
    · rw [List.filter_cons_of_pos (by simp [hk]), if_pos (by simp [hk]), List.getLast?_cons]
      rfl

theorem foldlM_addTo_ok (h : allFailures results = [])
    (hsum : stats.affectedRows.toNat + allChanges results < 2 ^ 64) :
    ∃ sum, results.foldlM BatchResult.addTo stats = .ok sum ∧
      sum.affectedRows.toNat = stats.affectedRows.toNat + allChanges results ∧
      sum.lastInsertId = (identities results).getLast?.getD stats.lastInsertId := by
  -- The bound on the sum moves with the changes already counted, so no addition wraps around.
  induction results generalizing stats with
  | nil => exact ⟨stats, rfl, rfl, rfl⟩
  | cons r results ih =>
    obtain ⟨hr, hresults⟩ := List.append_eq_nil_iff.mp h
    have hcons : allChanges (r :: results) = r.affected.toNat + allChanges results := by
      simp [allChanges]
    rw [hcons] at hsum
    have hadd : (stats.affectedRows + r.affected).toNat =
        stats.affectedRows.toNat + r.affected.toNat := by
      rw [UInt64.toNat_add]
      exact Nat.mod_eq_of_lt (by omega)
    have hnext : (stats.affectedRows + r.affected).toNat + allChanges results < 2 ^ 64 := by
      omega
    have hstep := addTo_eq stats r
    simp only [hr] at hstep
    obtain ⟨sum, hsum, hrows, hid⟩ := @ih ⟨stats.affectedRows + r.affected, _⟩ hresults hnext
    refine ⟨sum, ?_, ?_, ?_⟩
    · rw [List.foldlM_cons, hstep]
      exact hsum
    · rw [hrows, hadd, hcons]
      omega
    · rw [hid, getLast?_identities]

theorem foldlM_addTo_error (h : allFailures results = f :: later) (stats : Stats) :
    results.foldlM BatchResult.addTo stats = .error f := by
  induction results generalizing stats with
  | nil => cases h
  | cons r results ih =>
    have hcons : allFailures (r :: results) = r.failures ++ allFailures results := rfl
    rw [List.foldlM_cons, addTo_eq]
    cases hr : r.failures with
    | nil =>
      rw [hcons, hr] at h
      exact ih h _
    | cons g failures =>
      rw [hcons, hr] at h
      cases h
      rfl

/-- A batch succeeds exactly if nothing in it fails, and reports all changes and the last identity
that is not zero. Otherwise it reports the first failure alone. -/
theorem batch_counted (server : Server) (sql : String)
    (hsum : allChanges (server.results sql) < 2 ^ 64) :
    let results := server.results sql
    ((∃ stats, server.batch sql = .ok stats) ↔ allFailures results = []) ∧
    (allFailures results = [] → ∃ stats, server.batch sql = .ok stats ∧
      stats.affectedRows.toNat = allChanges results ∧
      stats.lastInsertId = (identities results).getLast?.getD 0) ∧
    ∀ f later, allFailures results = f :: later →
      server.batch sql =
        .error (.native .execute (f.rejection "2000").code (f.rejection "2000").message) := by
  intro results
  have hok : allFailures results = [] → ∃ stats, server.batch sql = .ok stats ∧
      stats.affectedRows.toNat = allChanges results ∧
      stats.lastInsertId = (identities results).getLast?.getD 0 := by
    intro h
    have hstart : ({} : Stats).affectedRows.toNat + allChanges results < 2 ^ 64 := by
      simpa using hsum
    obtain ⟨sum, hfold, hrows, hid⟩ := foldlM_addTo_ok h hstart
    refine ⟨sum, ?_, by simpa using hrows, hid⟩
    rw [Server.batch, batchStats, hfold]
    rfl
  have herror : ∀ f later, allFailures results = f :: later →
      server.batch sql =
        .error (.native .execute (f.rejection "2000").code (f.rejection "2000").message) := by
    intro f later h
    rw [Server.batch, batchStats, foldlM_addTo_error h]
    rfl
  refine ⟨⟨?_, ?_⟩, hok, herror⟩
  · rintro ⟨stats, hstats⟩
    cases hfailures : allFailures results with
    | nil => rfl
    | cons f later =>
      rw [herror f later hfailures] at hstats
      cases hstats
  · intro h
    obtain ⟨stats, hstats, -⟩ := hok h
    exact ⟨stats, hstats⟩

def twoBatches : Server where
  batches := [
    ("kept", [.set 2 (some 7) [], .set 0 none [.row [.null]], .set 1 (some 0) []]),
    ("lost", [.set 2 (some 7) [], .set 0 none [.row [.null], .failed (.client "broken pipe")],
      .failed (.server ⟨"1064", "syntax"⟩)])]

theorem batch_counted_lost :
    allChanges (twoBatches.results "kept") < 2 ^ 64 ∧
    (∃ stats, twoBatches.batch "kept" = .ok stats ∧ stats.affectedRows.toNat = 3 ∧
      stats.lastInsertId = 7) ∧
    allChanges (twoBatches.results "lost") < 2 ^ 64 ∧
    twoBatches.batch "lost" = .error (.native .execute "2000" "broken pipe") := by
  have hkept : allChanges (twoBatches.results "kept") < 2 ^ 64 := by decide
  have hlost : allChanges (twoBatches.results "lost") < 2 ^ 64 := by decide
  exact ⟨hkept, (batch_counted twoBatches "kept" hkept).2.1 rfl, hlost,
    (batch_counted twoBatches "lost" hlost).2.2 _ _ rfl⟩

end SqlGateway.MySql
