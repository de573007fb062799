import SqlGateway.Proofs.Session.Attended
import SqlGateway.Sql.World

namespace SqlGateway

open Sqlite (Watched watch Phase Call)

variable {σ : Type}

namespace Act

def operations (t first : Nat) (acts : List (Act σ)) : List (Operation σ) :=
  acts.map (·.operation t first)

theorem Lawful.added {first : Nat} {a : Act σ} {w w' : Session (Watched σ)}
    (h : a.Lawful first w w') :
    ∃ added, w'.engine.calls = w.engine.calls ++ added ∧ (∀ call ∈ added, call.Lawful) ∧
      added.count (.step .ready) = if a.isExecute then 1 else 0 := by
  cases a with
  | execute =>
    obtain ⟨tail, rfl | rfl, hcalls⟩ := h
    · exact ⟨_, hcalls, by simp [Call.Lawful], by simp [isExecute]⟩
    · exact ⟨_, hcalls, by simp [Call.Lawful], by simp [isExecute]⟩
  | bind index v | bindNamed name v =>
    obtain ⟨added, rfl | rfl | rfl, hcalls⟩ := h
    · exact ⟨_, hcalls, by simp, by simp [isExecute]⟩
    · exact ⟨_, hcalls, by simp [Call.Lawful], by simp [isExecute]⟩
    · exact ⟨_, hcalls, by simp [Call.Lawful], by simp [isExecute]⟩
  | advance j =>
    obtain ⟨added, rfl | ⟨-, -, rfl | rfl⟩, hcalls⟩ := h
    · exact ⟨_, hcalls, by simp, by simp [isExecute]⟩
    · exact ⟨_, hcalls, by simp [Call.Lawful], by simp [isExecute]⟩
    · exact ⟨_, hcalls, by simp [Call.Lawful], by simp [isExecute]⟩
  | drop j =>
    by_cases hcur : w.IsCurrent (first + j)
    · exact ⟨_, (h.1 hcur).2, by simp [Call.Lawful], by simp [isExecute]⟩
    · exact ⟨[], by rw [h.2 hcur, List.append_nil], by simp, by simp [isExecute]⟩
  | elsewhere change servers =>
    exact ⟨[], by rw [h.2, List.append_nil], by simp, by simp [isExecute]⟩

end Act

namespace Session

variable (E : Sqlite.Engine σ) (stray : List Sql.Datum) {t native first : Nat}
  {p : Sqlite.Statement} {w : Session (Watched σ)}

def attend (E : Sqlite.Engine σ) (native : Nat) (stray : List Sql.Datum) (t first : Nat)
    (w : Session (Watched σ)) (acts : List (Act σ)) : Session (Watched σ) :=
  performAll (watch E native stray) w (Act.operations t first (acts.map Act.watched))

theorem attend_cons (w : Session (Watched σ)) (a : Act σ) (acts : List (Act σ)) :
    attend E native stray t first w (a :: acts) =
      attend E native stray t first
        (perform (watch E native stray) w (a.watched.operation t first)) acts := rfl

theorem attend_append (w : Session (Watched σ)) (acts later : List (Act σ)) :
    attend E native stray t first w (acts ++ later) =
      attend E native stray t first (attend E native stray t first w acts) later := by
  simp only [attend, Act.operations, List.map_append, performAll_append]

theorem Attended.generation_eq (k : Attended t native first p w) :
    w.generation t = p.generation := by
  simp [generation, k.statement, Statement.generation]

/-- Acts keep session and native statement in step. They leave the session as it would be without
the record, and the record is lawful and counts the executions. -/
theorem Attended.attend (k : Attended t native first p w) (acts : List (Act σ))
    (hroom : p.generation.toNat + touches E t w.unwatched (Act.operations t first acts) <
      UInt64.size) :
    let w' := Session.attend E native stray t first w acts
    (∃ p', Attended t native first p' w' ∧ p'.generation.toNat =
      p.generation.toNat + touches E t w.unwatched (Act.operations t first acts)) ∧
    w'.unwatched = performAll E w.unwatched (Act.operations t first acts) ∧
    acts.countP Act.isExecute ≤ touches E t w.unwatched (Act.operations t first acts) ∧
    ∃ added, w'.engine.calls = w.engine.calls ++ added ∧ (∀ call ∈ added, call.Lawful) ∧
      added.count (.step .ready) = acts.countP Act.isExecute := by
  induction acts generalizing w p with
  | nil => exact ⟨⟨p, k, rfl⟩, rfl, Nat.le_refl 0, [], by simp [Session.attend, Act.operations]⟩
  | cons a acts ih =>
    have htouches : touches E t w.unwatched (Act.operations t first (a :: acts)) =
        (if touched E w.unwatched (a.operation t first) = some t then 1 else 0) +
          touches E t (perform E w.unwatched (a.operation t first))
            (Act.operations t first acts) := rfl
    rw [htouches] at hroom
    obtain ⟨⟨p', k'⟩, hplain, hlawful⟩ := k.perform_act E stray a fun h ↦ by
      rw [if_pos h] at hroom
      omega
    have hplaing : w.unwatched.generation t = p.generation := k.generation_eq
    have hg : p'.generation.toNat = p.generation.toNat +
        if touched E w.unwatched (a.operation t first) = some t then 1 else 0 := by
      have hg' : (perform E w.unwatched (a.operation t first)).generation t = p'.generation := by
        rw [← hplain]
        exact k'.generation_eq
      rw [← hg', ← hplaing]
      exact toNat_generation_perform _ (by rw [hplaing]; omega)
    have hexecute : a.isExecute = true → touched E w.unwatched (a.operation t first) = some t := by
      intro ha
      have hstatement : w.unwatched.statement? t = some (.embedded p) := k.statement
      cases a with
      | execute => simp [Act.operation, touched, hstatement]
      | _ => simp [Act.isExecute] at ha
    rw [← hplain] at hroom htouches
    obtain ⟨⟨p'', k'', hg''⟩, hplain', hcount, added', hcalls', hgood', hstarts'⟩ :=
      ih k' (by omega)
    obtain ⟨added, hcalls, hgood, hstarts⟩ := hlawful.added
    refine ⟨⟨p'', k'', by omega⟩, ?_, ?_, added ++ added', ?_, ?_, ?_⟩
    · rw [attend_cons, hplain', hplain]
      rfl
    · rw [List.countP_cons, htouches]
      by_cases ha : a.isExecute = true
      · rw [if_pos ha, if_pos (hexecute ha)]
        omega
      · rw [if_neg ha]
        omega
    · rw [attend_cons, hcalls', hcalls, List.append_assoc]
    · intro call hcall
      exact (List.mem_append.mp hcall).elim (hgood call) (hgood' call)
    · rw [List.count_append, hstarts, hstarts', List.countP_cons, Nat.add_comm]

theorem Attended.middle (k : Attended t native first p w) {before after : List (Act σ)}
    (hroom : p.generation.toNat +
      touches E t w.unwatched (Act.operations t first (before ++ after)) < UInt64.size) :
    let w' := Session.attend E native stray t first w before
    w'.unwatched = performAll E w.unwatched (Act.operations t first before) ∧
    ∃ p', Attended t native first p' w' ∧ p'.generation.toNat +
      touches E t w'.unwatched (Act.operations t first after) < UInt64.size := by
  have hsplit : touches E t w.unwatched (Act.operations t first (before ++ after)) =
      touches E t w.unwatched (Act.operations t first before) +
        touches E t (performAll E w.unwatched (Act.operations t first before))
          (Act.operations t first after) := by
    rw [← touches_append, Act.operations, Act.operations, Act.operations, List.map_append]
  rw [hsplit] at hroom
  obtain ⟨⟨p', k', hg⟩, hplain, -⟩ := k.attend E stray before (by omega)
  refine ⟨hplain, p', k', ?_⟩
  rw [hplain, hg]
  omega

theorem Attended.read (k : Attended t native first p w) (j : Nat) :
    current (watch E native stray) (first + j) w = current E (first + j) w.unwatched ∧
    ∀ row, current (watch E native stray) (first + j) w = .ok row →
      w.IsCurrent (first + j) ∧ w.engine.phase = .onRow ∧
      ∃ c values, w.cursor? (first + j) = some (.stepping t c) ∧
        c.classes.length = c.columns.length ∧ row = Row.live values ∧
        values.length = c.columns.length ∧ .absent ∉ values := by
  obtain rfl := k.native_eq
  have hplain : w.unwatched.cursor? (first + j) = w.cursor? (first + j) := rfl
  have hplainp : w.unwatched.statement? t = some (.embedded p) := k.statement
  cases hc : w.cursor? (first + j) with
  | none => simp [current, hplain, hc]
  | some cursor =>
    obtain ⟨c, rfl, -, hcaptured⟩ := k.cursors j cursor hc
    have hW : current (watch E p.native stray) (first + j) w =
        c.current (watch E p.native stray) p w.engine := by simp [current, hc, k.statement]
    have hE : current E (first + j) w.unwatched = c.current E p w.engine.inner := by
      simp only [current, hplain, hc, hplainp]
      rfl
    have hwatch := Sqlite.current_watch E stray c k.phase
    rw [hW, hE, hwatch]
    refine ⟨rfl, fun row hrow ↦ ?_⟩
    obtain ⟨hcur, hon, hlen, values, hvalues⟩ := Sqlite.Cursor.current_ok hrow hcaptured
    exact ⟨(isCurrent_stepping hc k.statement).mpr hcur, k.phase.mp hon, c, values, rfl, hlen,
      hvalues⟩

variable {E}

theorem attended_prepare {s₀ s : Session σ} {connection : Nat} {sql : String}
    (hprepare : prepare E connection sql s₀ = (.ok t, s))
    (hp : s.statement? t = some (.embedded p)) :
    Attended t p.native s.cursors.length p s.watched ∧ p.generation = 0 := by
  unfold prepare at hprepare
  split at hprepare
  · simp at hprepare
  · split at hprepare
    · simp at hprepare
    · simp only [addStatement, Prod.mk.injEq, Except.ok.injEq] at hprepare
      obtain ⟨rfl, rfl⟩ := hprepare
      simp [statement?] at hp
  · split at hprepare
    · simp at hprepare
    · rename_i n engine hn
      simp only [addStatement, Prod.mk.injEq, Except.ok.injEq] at hprepare
      obtain ⟨rfl, rfl⟩ := hprepare
      obtain rfl : n = p := by simpa [statement?] using hp
      obtain ⟨hg, hrow⟩ := Sqlite.Statement.prepareStatement_ok hn
      refine ⟨⟨by simp [watched], hp, rfl, by simp [watched, hrow], Nat.le_refl _, ?_⟩, hg⟩
      intro j cursor hcursor
      simp [cursor?, watched] at hcursor

/-- The session after acts of statement `t`, whose native statement is under watch from the first
act on. -/
def recorded (E : Sqlite.Engine σ) (native : Nat) (stray : List Sql.Datum) (t : Nat) (s : Session σ)
    (acts : List (Act σ)) : Session (Watched σ) :=
  attend E native stray t s.cursors.length s.watched acts

/-- The protocol of the native statement `native` while acts of statement `t` take place. -/
structure ProtocolKept (E : Sqlite.Engine σ) (native : Nat) (stray : List Sql.Datum) (t : Nat)
    (s : Session σ) (acts : List (Act σ)) : Prop where
  /-- Noting the calls, refusing values out of turn and showing stray rows changes nothing. -/
  plain : (recorded E native stray t s acts).unwatched =
    performAll E s (Act.operations t s.cursors.length acts)
  plain_current : ∀ k,
    current (watch E native stray) (s.cursors.length + k) (recorded E native stray t s acts) =
      current E (s.cursors.length + k) (performAll E s (Act.operations t s.cursors.length acts))
  /-- Each execution starts the native statement once, and nothing else starts it. -/
  starts : (recorded E native stray t s acts).engine.calls.count (.step .ready) =
    acts.countP Act.isExecute
  /-- It is never stepped at its end, and takes values only when it is rewound. -/
  lawful : ∀ call ∈ (recorded E native stray t s acts).engine.calls, call.Lawful
  act : ∀ before a after, acts = before ++ a :: after →
    a.Lawful s.cursors.length (recorded E native stray t s before)
      (recorded E native stray t s (before ++ [a]))
  /-- A cursor has its turn until the statement is touched; so the row that it steps from or reads
  is one of the run that its own execution started. -/
  turn : ∀ before after c s₁, acts = before ++ .execute :: after →
    run E t (performAll E s (Act.operations t s.cursors.length before)) = (.ok c, s₁) →
    ((recorded E native stray t s acts).IsCurrent c ↔
      touches E t s₁ (Act.operations t s.cursors.length after) = 0) ∧
    ((recorded E native stray t s acts).IsCurrent c → after.countP Act.isExecute = 0)
  /-- Columns are read on a row only, each in the storage class that was captured for it. -/
  read : ∀ k row,
    current (watch E native stray) (s.cursors.length + k) (recorded E native stray t s acts) =
      .ok row →
    (recorded E native stray t s acts).IsCurrent (s.cursors.length + k) ∧
    (recorded E native stray t s acts).engine.phase = .onRow ∧
    ∃ c values, (recorded E native stray t s acts).cursor? (s.cursors.length + k) =
        some (.stepping t c) ∧
      c.classes.length = c.columns.length ∧ row = Row.live values ∧
      values.length = c.columns.length ∧ .absent ∉ values

/-- Whatever is done with a statement of the embedded engine and the cursors that it made, in any
order and with any outcome of the steps, the protocol of its native statement is kept. -/
theorem protocol_kept {s₀ s : Session σ} {connection : Nat} {sql : String}
    (hprepare : prepare E connection sql s₀ = (.ok t, s))
    (hp : s.statement? t = some (.embedded p)) {acts : List (Act σ)}
    (hroom : touches E t s (Act.operations t s.cursors.length acts) < UInt64.size) :
    ProtocolKept E p.native stray t s acts := by
  obtain ⟨k, hg⟩ := attended_prepare hprepare hp
  have hroom₀ : p.generation.toNat +
      touches E t s.watched.unwatched (Act.operations t s.cursors.length acts) < UInt64.size := by
    rw [hg, UInt64.toNat_zero, Nat.zero_add]
    exact hroom
  obtain ⟨⟨p', k', -⟩, hplain, -, added, hcalls, hgood, hstarts⟩ :=
    k.attend E stray acts hroom₀
  have hrecord : (recorded E p.native stray t s acts).engine.calls = added := hcalls
  have hplain' : (recorded E p.native stray t s acts).unwatched =
      performAll E s (Act.operations t s.cursors.length acts) := hplain
  refine ⟨hplain', fun j ↦ ?_, by rw [hrecord, hstarts], by rw [hrecord]; exact hgood, ?_, ?_,
    fun j ↦ (k'.read E stray j).2⟩
  · rw [← hplain']
    exact (k'.read E stray j).1
  · rintro before a after rfl
    obtain ⟨-, p₁, k₁, hroom₁⟩ := k.middle E stray hroom₀
    have hact := k₁.perform_act E stray a fun h ↦ by
      simp only [Act.operations, List.map_cons, touches, h, if_true] at hroom₁
      omega
    rw [recorded, recorded, attend_append]
    exact hact.2.2
  · rintro before after c s₁ rfl hrun
    have hacts : before ++ .execute :: after = (before ++ [.execute]) ++ after := by simp
    have hs₁ : performAll E s (Act.operations t s.cursors.length (before ++ [.execute])) = s₁ := by
      rw [Act.operations, List.map_append, performAll_append]
      exact congrArg Prod.snd hrun
    rw [hacts] at hroom₀
    obtain ⟨hplain₁, p₁, k₁, hroom₁⟩ := k.middle E stray hroom₀
    rw [hplain₁.trans hs₁] at hroom₁
    have hcount := (k₁.attend E stray after (by rwa [hplain₁.trans hs₁])).2.2.1
    rw [hplain₁.trans hs₁] at hcount
    have hturn : (recorded E p.native stray t s (before ++ .execute :: after)).IsCurrent c ↔
        touches E t s₁ (Act.operations t s.cursors.length after) = 0 := by
      have hlast : (recorded E p.native stray t s (before ++ .execute :: after)).unwatched =
          performAll E s₁ (Act.operations t s.cursors.length after) := by
        rw [hplain', hacts, Act.operations, List.map_append, performAll_append]
        exact congrArg (performAll E · _) hs₁
      have hiff := isCurrent_performAll_iff hrun (Act.operations t s.cursors.length after)
      rw [← hlast, Nat.mod_eq_of_lt (by omega)] at hiff
      exact hiff
    exact ⟨hturn, fun hcur ↦ by have := hturn.mp hcur; omega⟩

def oneRowEngine : Sqlite.Engine Nat where
  openDatabase _ rest := (.ok 0, rest)
  closeDatabase _ rest := rest
  prepare _ _ rest := (.ok (some 0, []), rest)
  finalize _ rest := rest
  step _ rest := (if rest = 0 then .done else .row, rest - 1)
  reset _ _ := 1
  bind _ _ _ rest := (.ok (), rest)
  parameters _ _ := []
  columns _ _ := [{ name := "n" }]
  row _ _ := [.integer 7]
  counters _ _ := {}

def unprepared : Session Nat := { engine := 0, connections := [{ item := .embedded 0 }] }

def interleaved : List (Act Nat) :=
  [.execute, .advance 0, .advance 0, .execute, .drop 0, .advance 1, .advance 1, .drop 1]

theorem protocol_kept_interleaved :
    let s := (prepare oneRowEngine 0 "" unprepared).2
    touches oneRowEngine 0 s (Act.operations 0 s.cursors.length interleaved) < UInt64.size ∧
    (recorded oneRowEngine 0 [] 0 s interleaved).engine.calls.count (.step .ready) = 2 ∧
    ∀ call ∈ (recorded oneRowEngine 0 [] 0 s interleaved).engine.calls, call.Lawful := by
  intro s
  have hprepare : prepare oneRowEngine 0 "" unprepared = (.ok 0, s) := Prod.ext rfl rfl
  have htouches : touches oneRowEngine 0 s (Act.operations 0 s.cursors.length interleaved) = 2 :=
    rfl
  have hroom :
      touches oneRowEngine 0 s (Act.operations 0 s.cursors.length interleaved) < UInt64.size := by
    rw [htouches]
    decide
  have hp : s.statement? 0 = some (.embedded ⟨0, 0, 0, 0, false⟩) := rfl
  have hkept : ProtocolKept oneRowEngine 0 [] 0 s interleaved := protocol_kept [] hprepare hp hroom
  have hexecutions : interleaved.countP Act.isExecute = 2 := rfl
  exact ⟨hroom, hkept.starts.trans hexecutions, hkept.lawful⟩

end Session
end SqlGateway
