import SqlGateway.Proofs.Session.Turns
import SqlGateway.Sql.World

namespace SqlGateway

namespace Fetched

variable {live : UInt64} {c : Fetched}

def advanced (c : Fetched) (n : Nat) : Fetched := { c with index := min n c.rows.length }

@[simp]
theorem isCurrent_advanced (c : Fetched) (n : Nat) :
    (c.advanced n).isCurrent live = c.isCurrent live := rfl

@[simp]
theorem rows_advanced (c : Fetched) (n : Nat) : (c.advanced n).rows = c.rows := rfl

theorem index_advanced_lt_iff (c : Fetched) (n : Nat) :
    (c.advanced n).index < c.rows.length ↔ n < c.rows.length := by
  simp only [advanced]
  omega

theorem advanced_of_length_le {n : Nat} (h : c.rows.length ≤ n) :
    c.advanced (n + 1) = c.advanced n := by
  have hmin : min (n + 1) c.rows.length = min n c.rows.length := by omega
  simp only [advanced, hmin]

theorem advance_advanced (h : c.isCurrent live = true) (n : Nat) :
    (c.advanced n).advance live =
      (.ok (decide (n + 1 < c.rows.length)), c.advanced (n + 1)) := by
  by_cases hn : n < c.rows.length
  · have hmin : min n c.rows.length = n := by omega
    have hmin' : min (n + 1) c.rows.length = n + 1 := by omega
    rw [advance_of_lt (by simpa using h) (by simpa [index_advanced_lt_iff] using hn)]
    simp [advanced, hmin, hmin']
  · have hlast : ¬ n + 1 < c.rows.length := by omega
    rw [advanced_of_length_le (by omega)]
    simp [advance, h, index_advanced_lt_iff, hn, hlast]

theorem hasRow_advanced (h : c.isCurrent live = true) (n : Nat) :
    (c.advanced n).hasRow live = decide (n < c.rows.length) := by
  simp [hasRow, h, index_advanced_lt_iff]

theorem current_advanced (h : c.isCurrent live = true) (n : Nat) :
    (c.advanced n).current live =
      match c.rows[n]? with
      | some row => .ok row
      | none => .error .invalidIterator := by
  simp only [current, isCurrent_advanced, h, if_true, rows_advanced]
  by_cases hn : n < c.rows.length
  · have hmin : min n c.rows.length = n := by omega
    simp [advanced, hmin, List.getElem?_eq_getElem hn]
  · have hmin : min n c.rows.length = c.rows.length := by omega
    have hnone : c.rows[n]? = none := List.getElem?_eq_none (by omega)
    simp [advanced, hmin, hnone]

end Fetched

namespace Session

variable {σ : Type} {E : Sqlite.Engine σ} {s s₁ : Session σ} {t c : Nat}

/-- The cursors of a statement come in the order of their generations, and none is beyond the
generation of the statement. -/
structure InOrder (t : Nat) (s : Session σ) : Prop where
  ordered : s.labels.Pairwise fun l l' ↦
    ∀ g g', l.1 = some (t, g) → l'.1 = some (t, g') → g.toNat < g'.toNat
  bounded : ∀ l ∈ s.labels, ∀ g, l.1 = some (t, g) → g.toNat ≤ (s.generation t).toNat

theorem inOrder_perform (h : InOrder t s) (op : Operation σ)
    (hroom : (s.generation t).toNat + (if touched E s op = some t then 1 else 0) < UInt64.size) :
    InOrder t (perform E s op) := by
  obtain ⟨new, hnew, hlen, hborn⟩ := labels_perform (E := E) s op
  have hg := toNat_generation_perform op hroom
  have hlate : ∀ l ∈ new.map Cursor.fixed, ∀ g, l.1 = some (t, g) →
      touched E s op = some t ∧ g = (perform E s op).generation t := by
    intro l hl g hticket
    obtain ⟨cursor, hcursor, rfl⟩ := List.mem_map.mp hl
    exact hborn cursor hcursor t g hticket
  constructor
  · rw [hnew, List.pairwise_append]
    refine ⟨h.ordered, ?_, fun l hl l' hl' g g' hticket hticket' ↦ ?_⟩
    · match new, hlen with
      | [], _ => exact .nil
      | [cursor], _ => exact List.pairwise_singleton ..
    · have hle := h.bounded l hl g hticket
      obtain ⟨htouched, rfl⟩ := hlate l' hl' g' hticket'
      rw [hg, if_pos htouched]
      omega
  · intro l hl g hticket
    rw [hnew, List.mem_append] at hl
    rcases hl with hl | hl
    · have hle := h.bounded l hl g hticket
      omega
    · obtain ⟨-, rfl⟩ := hlate l hl g hticket
      exact Nat.le_refl _

theorem inOrder_performAll (h : InOrder t s) (ops : List (Operation σ))
    (hroom : (s.generation t).toNat + touches E t s ops < UInt64.size) :
    InOrder t (performAll E s ops) := by
  induction ops generalizing s with
  | nil => exact h
  | cons op ops ih =>
    rw [touches] at hroom
    have hstep :
        (s.generation t).toNat + (if touched E s op = some t then 1 else 0) < UInt64.size := by
      omega
    refine ih (inOrder_perform h op hstep) ?_
    rw [toNat_generation_perform op hstep]
    omega

theorem InOrder.unique (h : InOrder t s) {c' : Nat} (hc : s.ticket? c = some (t, s.generation t))
    (hc' : s.ticket? c' = some (t, s.generation t)) : c = c' := by
  rw [ticket?_eq] at hc hc'
  obtain ⟨l, hl, hticket⟩ := Option.bind_eq_some_iff.mp hc
  obtain ⟨l', hl', hticket'⟩ := Option.bind_eq_some_iff.mp hc'
  obtain ⟨hlt, rfl⟩ := List.getElem?_eq_some_iff.mp hl
  obtain ⟨hlt', rfl⟩ := List.getElem?_eq_some_iff.mp hl'
  have hpair := List.pairwise_iff_getElem.mp h.ordered
  rcases Nat.lt_trichotomy c c' with hcc | hcc | hcc
  · exact absurd (hpair c c' hlt hlt' hcc _ _ hticket hticket') (Nat.lt_irrefl _)
  · exact hcc
  · exact absurd (hpair c' c hlt' hlt hcc _ _ hticket' hticket) (Nat.lt_irrefl _)

theorem cursor?_run_remote {r : RemoteStatement Message} {a : Answer}
    (hs : s.statement? t = some (.remote r)) (ha : (r.prepared.run r.bound).2 = .ok a)
    (hrun : run E t s = (.ok c, s₁)) :
    s₁.cursor? c = some (.fetched t ⟨a.columns, a.rows, a.stats, s₁.generation t, 0⟩) := by
  have hg := generation_run (E := E) (s := s) (t := t) t
  simp only [hs, hrun, Option.isSome_some, and_self, if_true] at hg
  have hold : s.generation t = r.generation := by simp [generation, hs, Statement.generation]
  rw [hg, hold]
  simp only [run, hs, RemoteStatement.execute, ha, Except.map, Prod.mk.injEq, Except.ok.injEq]
    at hrun
  obtain ⟨rfl, rfl⟩ := hrun
  exact cursor?_addCursor_self _

theorem cursor?_performAll_fetched {f : Fetched} {n : Nat}
    (h : s.cursor? c = some (.fetched t (f.advanced n)))
    (hcur : f.isCurrent (s.generation t) = true) (ops : List (Operation σ))
    (huntouched : touches E t s ops = 0) :
    (performAll E s ops).cursor? c =
        some (.fetched t (f.advanced (n + ops.countP (·.advances c)))) ∧
      f.isCurrent ((performAll E s ops).generation t) = true := by
  induction ops generalizing s n with
  | nil => exact ⟨h, hcur⟩
  | cons op ops ih =>
    rw [touches] at huntouched
    have hop : touched E s op ≠ some t := fun htouched ↦ by simp [htouched] at huntouched
    have hrest : touches E t (perform E s op) ops = 0 := by omega
    have hg : (perform E s op).generation t = s.generation t := by simp [generation_perform, hop]
    rw [performAll_cons, List.countP_cons]
    by_cases hadvance : op.advances c = true
    · have hcursor : (perform E s op).cursor? c = some (.fetched t (f.advanced (n + 1))) := by
        cases op with
        | advance id =>
          obtain rfl : id = c := by simpa [Operation.advances] using hadvance
          rw [perform, advance_fetched h, Fetched.advance_advanced hcur]
          exact cursor?_setCursor_self h _
        | _ => simp [Operation.advances] at hadvance
      have hih := ih hcursor (by rwa [hg]) hrest
      simpa [hadvance, Nat.add_assoc, Nat.add_comm 1] using hih
    · rw [Bool.not_eq_true] at hadvance
      have hih := ih (cursor?_perform h hadvance) (by rwa [hg]) hrest
      simpa [hadvance] using hih

theorem reads_advanced {f : Fetched} {m : Nat} (h : s.cursor? c = some (.fetched t (f.advanced m)))
    (hlive : f.isCurrent (s.generation t) = true) :
    hasRow c s = decide (m < f.rows.length) ∧
    position c s = (if m < f.rows.length then .at (.statement t) m else .atEnd) ∧
    current E c s =
      (match f.rows[m]? with
      | some row => .ok row
      | none => .error .invalidIterator) ∧
    (advance E c s).1 = .ok (decide (m + 1 < f.rows.length)) := by
  have hrow : hasRow c s = decide (m < f.rows.length) := by
    simp only [hasRow, h]
    exact Fetched.hasRow_advanced hlive m
  refine ⟨hrow, ?_, ?_, ?_⟩
  · rw [position, hrow]
    by_cases hm : m < f.rows.length
    · have hindex : (f.advanced m).index = m := Nat.min_eq_left (Nat.le_of_lt hm)
      simp only [hm, decide_true, if_true, h, hindex]
    · simp [hm]
  · simp only [current, h]
    exact Fetched.current_advanced hlive m
  · rw [advance_fetched h]
    exact congrArg Prod.fst (Fetched.advance_advanced hlive m)

theorem inOrder_start (engine : σ) (servers : Servers) (t : Nat) :
    InOrder t ({ engine, servers } : Session σ) where
  ordered := .nil
  bounded l hl := by cases hl

theorem inOrder_history (engine : σ) (servers : Servers) {ops : List (Operation σ)}
    (hroom : touches E t { engine, servers } ops < UInt64.size) :
    InOrder t (performAll E { engine, servers } ops) := by
  apply inOrder_performAll (inOrder_start engine servers t)
  have hstart : ({ engine, servers } : Session σ).generation t = 0 := rfl
  rw [hstart, UInt64.toNat_zero, Nat.zero_add]
  exact hroom

theorem isCurrent_perform_iff {g : UInt64} (h : s.ticket? c = some (t, g)) {op : Operation σ}
    (hop : touched E s op ≠ some t) : (perform E s op).IsCurrent c ↔ s.IsCurrent c := by
  have h' : (perform E s op).ticket? c = some (t, g) := ticket?_performAll h [op]
  rw [isCurrent_iff h, isCurrent_iff h', generation_perform, if_neg hop, UInt64.add_zero]

/-- In every history of a session, up to as many executions and bindings of a statement as a
generation can count: a cursor has its turn exactly as long as its statement is not touched again,
and no two cursors of the statement have it at once. A cursor that lost its turn shows nothing,
moves nowhere and never gets it back. One over fetched rows that was advanced `m` times meanwhile
stands on row `m` of its own execution, or behind the last. -/
theorem turns_kept (engine : σ) (servers : Servers) {before after : List (Operation σ)}
    (hrun : run E t (performAll E { engine, servers } before) = (.ok c, s₁))
    (hroom : touches E t { engine, servers } (before ++ .execute t :: after) < UInt64.size) :
    let s₀ := performAll E { engine, servers } before
    let s := performAll E s₁ after
    (s.IsCurrent c ↔ touches E t s₁ after = 0) ∧
    (∀ op, touched E s op ≠ some t → ((perform E s op).IsCurrent c ↔ s.IsCurrent c)) ∧
    (∀ c' c'', s.ticket? c' = some (t, s.generation t) →
      s.ticket? c'' = some (t, s.generation t) → c' = c'') ∧
    (¬ s.IsCurrent c →
      hasRow c s = false ∧ position c s = .atEnd ∧ current E c s = .error .invalidIterator ∧
      advance E c s = (.error .invalidIterator, s) ∧
      ∀ later, touches E t s₁ (after ++ later) < UInt64.size →
        ¬ (performAll E s later).IsCurrent c) ∧
    (∀ r a, s₀.statement? t = some (.remote r) → (r.prepared.run r.bound).2 = .ok a →
      s.IsCurrent c →
      let m := after.countP (·.advances c)
      hasRow c s = decide (m < a.rows.length) ∧
      position c s = (if m < a.rows.length then .at (.statement t) m else .atEnd) ∧
      current E c s =
        (match a.rows[m]? with
        | some row => .ok row
        | none => .error .invalidIterator) ∧
      (advance E c s).1 = .ok (decide (m + 1 < a.rows.length))) := by
  intro s₀ s
  have hs₁ : perform E s₀ (.execute t) = s₁ := congrArg Prod.snd hrun
  have hticket₁ : s₁.ticket? c = some (t, s₁.generation t) := ticket?_run hrun
  have hticket : s.ticket? c = some (t, s₁.generation t) := ticket?_performAll hticket₁ after
  have hroom₁ : touches E t s₁ after < UInt64.size := by
    rw [touches_append, touches, hs₁] at hroom
    omega
  have hcurrent : s.IsCurrent c ↔ touches E t s₁ after = 0 := by
    rw [isCurrent_performAll_iff hrun after, Nat.mod_eq_of_lt hroom₁]
  refine ⟨hcurrent, fun op hop ↦ isCurrent_perform_iff hticket hop, ?_, fun hlost ↦ ?_,
    fun r a hr ha hcur ↦ ?_⟩
  · intro c' c'' hc' hc''
    have hs : performAll E { engine, servers } (before ++ .execute t :: after) = s := by
      rw [performAll_append, performAll_cons, hs₁]
    have horder : InOrder t s := hs ▸ inOrder_history engine servers hroom
    exact horder.unique hc' hc''
  · have hg : s₁.generation t ≠ s.generation t := fun h ↦ hlost ((isCurrent_iff hticket).mpr h)
    refine ⟨hasRow_of_lost hticket hg, position_of_lost hticket hg, current_of_lost hticket hg,
      advance_of_lost hticket hg, fun later hlater hagain ↦ ?_⟩
    rw [← performAll_append, isCurrent_performAll_iff hrun, Nat.mod_eq_of_lt hlater,
      touches_append] at hagain
    exact hlost (hcurrent.mpr (by omega))
  · let f : Fetched := ⟨a.columns, a.rows, a.stats, s₁.generation t, 0⟩
    have hf : f.advanced 0 = f := by simp [Fetched.advanced, f]
    have hcursor₁ := cursor?_run_remote hr ha hrun
    obtain ⟨hcursor, hlive⟩ := cursor?_performAll_fetched (E := E) (f := f) (n := 0)
      (by rw [hf]; exact hcursor₁) (by simp [f, Fetched.isCurrent]) after (hcurrent.mp hcur)
    rw [Nat.zero_add] at hcursor
    exact reads_advanced hcursor hlive

def twoRows : Servers where
  postgres := { statements := [("q", { fields := [⟨"b", 17⟩]
                                       rows := [[some [1]], [some [2]]] })] }

def executed : List (Operation Sql.World) := [.connect "pg:", .prepare 0 "q", .execute 0]

def executedOnce : Session Sql.World :=
  performAll Sql.engine { engine := {}, servers := twoRows } executed

theorem turns_kept_twoRows :
    let s := performAll Sql.engine (run Sql.engine 0 executedOnce).2 [.advance 1]
    (run Sql.engine 0 executedOnce).1 = .ok 1 ∧
    touches Sql.engine 0 { engine := {}, servers := twoRows }
      (executed ++ .execute 0 :: [.advance 1]) < UInt64.size ∧
    s.IsCurrent 1 ∧ current Sql.engine 1 s = .ok [.ok (.blob [2])] := by
  intro s
  have hfirst : (run Sql.engine 0 executedOnce).1 = .ok 1 := by rfl
  have hrun : run Sql.engine 0 executedOnce = (.ok 1, (run Sql.engine 0 executedOnce).2) :=
    Prod.ext hfirst rfl
  have htouches : touches Sql.engine 0 { engine := {}, servers := twoRows }
      (executed ++ .execute 0 :: [.advance 1]) = 2 := rfl
  have hroom : touches Sql.engine 0 { engine := {}, servers := twoRows }
      (executed ++ .execute 0 :: [.advance 1]) < UInt64.size := by
    rw [htouches]
    decide
  obtain ⟨hcurrent, -, -, -, hrows⟩ := turns_kept _ twoRows hrun hroom
  have hcur : s.IsCurrent 1 := hcurrent.mpr rfl
  obtain ⟨-, -, hshown, -⟩ := hrows _ _ rfl rfl hcur
  have hrow : Postgres.liveRow [⟨"b", 17⟩] [some [2]] = [.ok (.blob [2])] := by rfl
  exact ⟨hfirst, hroom, hcur, hshown.trans (congrArg Except.ok hrow)⟩

end Session
end SqlGateway
