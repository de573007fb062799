import SqlGateway.Proofs.Session.Turns
import SqlGateway.Proofs.Sqlite.Watch

namespace SqlGateway

open Sqlite (Watched watch Phase Call)

/-- What can happen to one statement and to the cursors that it made, which count from zero. -/
inductive Act (σ : Type) where
  | execute
  | bind (index : Nat) (v : Value)
  | bindNamed (name : String) (v : Value)
  | advance (cursor : Nat)
  | drop (cursor : Nat)
  | elsewhere (change : σ → σ) (servers : Servers)

namespace Act

variable {σ : Type}

/-- The act in a session where it is about statement `t`, whose cursors stand behind `first`
others. -/
def operation (t first : Nat) : Act σ → Operation σ
  | execute => .execute t
  | bind index v => .bind t index v
  | bindNamed name v => .bindNamed t name v
  | advance cursor => .advance (first + cursor)
  | drop cursor => .dropCursor (first + cursor)
  | elsewhere change servers => .elsewhere change servers

def watched : Act σ → Act (Watched σ)
  | execute => execute
  | bind index v => bind index v
  | bindNamed name v => bindNamed name v
  | advance cursor => advance cursor
  | drop cursor => drop cursor
  | elsewhere change servers => elsewhere (fun w ↦ { w with inner := change w.inner }) servers

def isExecute : Act σ → Bool
  | execute => true
  | _ => false

/-- What an act may ask of the native statement. -/
def Lawful (first : Nat) (w w' : Session (Watched σ)) : Act σ → Prop
  | execute => ∃ tail, (tail = [] ∨ tail = [.reset .halted]) ∧
      w'.engine.calls = w.engine.calls ++ .reset w.engine.phase :: .step .ready :: tail
  | bind .. | bindNamed .. => ∃ added,
      (added = [] ∨ added = [.reset w.engine.phase] ∨
        added = [.reset w.engine.phase, .bind .ready]) ∧
      w'.engine.calls = w.engine.calls ++ added
  | advance cursor => ∃ added,
      (added = [] ∨ w.IsCurrent (first + cursor) ∧ w.engine.phase = .onRow ∧
        (added = [.step .onRow] ∨ added = [.step .onRow, .reset .halted])) ∧
      w'.engine.calls = w.engine.calls ++ added
  | drop cursor =>
      (w.IsCurrent (first + cursor) → w'.engine.phase = .ready ∧
        w'.engine.calls = w.engine.calls ++ [.reset w.engine.phase]) ∧
      (¬ w.IsCurrent (first + cursor) → w'.engine = w.engine)
  | elsewhere .. => w'.engine.phase = w.engine.phase ∧ w'.engine.calls = w.engine.calls

end Act

namespace Session

variable {σ : Type}

def watched (s : Session σ) : Session (Watched σ) :=
  ⟨{ inner := s.engine }, s.servers, s.connections, s.statements, s.cursors, s.received⟩

def unwatched (w : Session (Watched σ)) : Session σ :=
  ⟨w.engine.inner, w.servers, w.connections, w.statements, w.cursors, w.received⟩

/-- Session and native statement in step. -/
structure Attended (t native first : Nat) (p : Sqlite.Statement) (w : Session (Watched σ)) :
    Prop where
  held : (w.statements[t]?).map (·.held) = some true
  statement : w.statement? t = some (.embedded p)
  native_eq : p.native = native
  phase : p.onRow = true ↔ w.engine.phase = .onRow
  first_le : first ≤ w.cursors.length
  cursors : ∀ k cursor, w.cursor? (first + k) = some cursor → ∃ c, cursor = .stepping t c ∧
    c.generation.toNat ≤ p.generation.toNat ∧
    (c.isCurrent p = true → p.onRow = true → c.classes.length = c.columns.length)

variable (E : Sqlite.Engine σ) (stray : List Sql.Datum) {t native first : Nat}
  {p : Sqlite.Statement} {w : Session (Watched σ)}

theorem held_setStatement (s : Session σ) (id : Nat) (new : Statement) (t : Nat) :
    ((s.setStatement id new).statements[t]?).map (·.held) = (s.statements[t]?).map (·.held) := by
  simp only [setStatement, List.getElem?_modify]
  cases s.statements[t]? with
  | none => rfl
  | some slot => by_cases h : id = t <;> simp [h]

theorem settleStatement_held {s : Session σ} {t : Nat}
    (h : (s.statements[t]?).map (·.held) = some true) : settleStatement E t s = s := by
  obtain ⟨slot, hslot, hheld⟩ := Option.map_eq_some_iff.mp h
  simp [settleStatement, needsStatement, hslot, hheld]

def letGo (s : Session σ) (id : Nat) : Session σ :=
  { s with cursors := s.cursors.modify id fun slot ↦ { slot with held := false } }

theorem dropCursor_stepping {s : Session σ} {id : Nat} {c : Sqlite.Cursor}
    {p : Sqlite.Statement} (hc : s.cursor? id = some (.stepping t c))
    (hp : s.statement? t = some (.embedded p))
    (hheld : (s.statements[t]?).map (·.held) = some true) :
    dropCursor E id s = { s.letGo id with engine := (c.drop E p s.engine).2 }.setStatement t
      (.embedded (c.drop E p s.engine).1) := by
  simp only [dropCursor, hc, hp]
  exact settleStatement_held E ((held_setStatement _ t _ t).trans hheld)

theorem run_embedded {s : Session σ} {p : Sqlite.Statement}
    (h : s.statement? t = some (.embedded p)) :
    run E t s =
      match p.execute E s.engine with
      | (.error e, p, engine) => (.error e, { s with engine }.setStatement t (.embedded p))
      | (.ok c, p, engine) => (.ok s.cursors.length,
          (({ s with engine }.setStatement t (.embedded p)).addCursor (.stepping t c)).2) := by
  rcases hr : p.execute E s.engine with ⟨r, p', engine⟩
  cases r <;> simp [run, h, hr, addCursor, setStatement]

theorem bind_embedded {s : Session σ} {p : Sqlite.Statement}
    (h : s.statement? t = some (.embedded p)) (index : Nat) (v : Value) :
    bind E t index v s =
      ((p.bind E index v s.engine).1,
        { s with engine := (p.bind E index v s.engine).2.2 }.setStatement t
          (.embedded (p.bind E index v s.engine).2.1)) := by
  simp [bind, h]

theorem isCurrent_stepping {s : Session σ} {id : Nat} {c : Sqlite.Cursor}
    (hc : s.cursor? id = some (.stepping t c)) (hp : s.statement? t = some (.embedded p)) :
    s.IsCurrent id ↔ c.isCurrent p = true := by
  have hticket : s.ticket? id = some (t, c.generation) := by simp [ticket?, hc, Cursor.ticket?]
  rw [isCurrent_iff hticket]
  simp [generation, hp, Statement.generation, Sqlite.Cursor.isCurrent]

namespace Attended

theorem renewed (k : Attended t native first p w) (p' : Sqlite.Statement) (engine : Watched σ)
    (hnative : p'.native = p.native) (hg : p'.generation = p.generation + 1)
    (hroom : p.generation.toNat + 1 < UInt64.size)
    (hphase : p'.onRow = true ↔ engine.phase = .onRow) :
    Attended t native first p' ({ w with engine }.setStatement t (.embedded p')) where
  held := (held_setStatement { w with engine } t _ t).trans k.held
  statement := statement?_setStatement_self (s := { w with engine }) k.statement _
  native_eq := hnative.trans k.native_eq
  phase := hphase
  first_le := k.first_le
  cursors j cursor hcursor := by
    obtain ⟨c, rfl, hle, -⟩ := k.cursors j cursor hcursor
    have hnext : p'.generation.toNat = p.generation.toNat + 1 := by
      rw [hg, UInt64.toNat_add]
      exact Nat.mod_eq_of_lt hroom
    refine ⟨c, rfl, by omega, fun hcur ↦ ?_⟩
    have hsame : c.generation = p'.generation := by simpa [Sqlite.Cursor.isCurrent] using hcur
    rw [hsame] at hle
    omega

theorem moved (k : Attended t native first p w) (p' : Sqlite.Statement) (engine : Watched σ)
    (hnative : p'.native = p.native) (hg : p'.generation = p.generation)
    (hrow : p'.onRow = true → p.onRow = true) (hphase : p'.onRow = true ↔ engine.phase = .onRow) :
    Attended t native first p' ({ w with engine }.setStatement t (.embedded p')) where
  held := (held_setStatement { w with engine } t _ t).trans k.held
  statement := statement?_setStatement_self (s := { w with engine }) k.statement _
  native_eq := hnative.trans k.native_eq
  phase := hphase
  first_le := k.first_le
  cursors j cursor hcursor := by
    obtain ⟨c, rfl, hle, hcaptured⟩ := k.cursors j cursor hcursor
    rw [← hg] at hle
    refine ⟨c, rfl, hle, fun hcur hr ↦ hcaptured ?_ (hrow hr)⟩
    simpa [Sqlite.Cursor.isCurrent, hg] using hcur

theorem setCursor (k : Attended t native first p w) {j : Nat} {c c' : Sqlite.Cursor}
    (hc : w.cursor? (first + j) = some (.stepping t c)) (hg : c'.generation = c.generation)
    (hcaptured : c'.isCurrent p = true → p.onRow = true → c'.classes.length = c'.columns.length) :
    Attended t native first p (w.setCursor (first + j) (.stepping t c')) where
  held := k.held
  statement := k.statement
  native_eq := k.native_eq
  phase := k.phase
  first_le := by simpa [Session.setCursor] using k.first_le
  cursors i cursor hcursor := by
    by_cases hij : first + j = first + i
    · obtain rfl : j = i := by omega
      rw [cursor?_setCursor_self hc] at hcursor
      cases hcursor
      obtain ⟨d, hd, hle, -⟩ := k.cursors j _ hc
      cases hd
      exact ⟨c', rfl, hg ▸ hle, hcaptured⟩
    · rw [cursor?_setCursor_of_ne hij] at hcursor
      exact k.cursors i cursor hcursor

theorem addCursor (k : Attended t native first p w) {c : Sqlite.Cursor}
    (hg : c.generation = p.generation)
    (hcaptured : p.onRow = true → c.classes.length = c.columns.length) :
    Attended t native first p (w.addCursor (.stepping t c)).2 where
  held := k.held
  statement := k.statement
  native_eq := k.native_eq
  phase := k.phase
  first_le := by
    have := k.first_le
    simp only [Session.addCursor, List.length_append]
    omega
  cursors j cursor hcursor := by
    rcases Nat.lt_trichotomy (first + j) w.cursors.length with hj | hj | hj
    · rw [cursor?_addCursor_of_lt hj] at hcursor
      exact k.cursors j cursor hcursor
    · rw [hj] at hcursor
      have hself := cursor?_addCursor_self (s := w) (.stepping t c)
      rw [Session.addCursor] at hself hcursor
      rw [hself] at hcursor
      cases hcursor
      exact ⟨c, rfl, Nat.le_of_eq (congrArg UInt64.toNat hg), fun _ hr ↦ hcaptured hr⟩
    · have hnone : (w.addCursor (.stepping t c)).2.cursor? (first + j) = none := by
        simp only [Session.addCursor, cursor?, Option.map_eq_none_iff]
        exact List.getElem?_eq_none (by simpa using Nat.succ_le_of_lt hj)
      rw [hnone] at hcursor
      cases hcursor

/-- A statement in step after an act as well, which is the act of the session without its record,
and asks for no more than it may. -/
def Follows (E : Sqlite.Engine σ) (t native first : Nat) (a : Act σ) (w w' : Session (Watched σ)) :
    Prop :=
  (∃ p', Attended t native first p' w') ∧
    w'.unwatched = perform E w.unwatched (a.operation t first) ∧ a.Lawful first w w'

theorem execute (k : Attended t native first p w) (hroom : p.generation.toNat + 1 < UInt64.size) :
    Follows E t native first .execute w (run (watch E native stray) t w).2 := by
  obtain rfl := k.native_eq
  obtain ⟨phase, tail, hwatch, htail, hphase⟩ :=
    Sqlite.execute_watch E stray p w.engine
  have hplain : w.unwatched.statement? t = some (.embedded p) := k.statement
  have hrunW := run_embedded (watch E p.native stray) k.statement
  have hrun := run_embedded E hplain
  obtain ⟨hnative, hg⟩ := Sqlite.Statement.execute_kept (E := E) p w.engine.inner
  rw [hwatch] at hrunW
  have hengine : w.unwatched.engine = w.engine.inner := rfl
  rw [hengine] at hrun
  rcases hr : p.execute E w.engine.inner with ⟨r, p', inner⟩
  rw [hr] at hrunW hrun hnative hg hphase
  have krenewed := k.renewed p' ⟨inner, phase,
    w.engine.calls ++ .reset w.engine.phase :: .step .ready :: tail⟩ hnative hg hroom hphase
  cases r with
  | error e =>
    simp only at hrunW hrun
    rw [hrunW]
    refine ⟨⟨p', krenewed⟩, ?_, tail, htail, rfl⟩
    rw [Act.operation, perform, hrun]
    rfl
  | ok c =>
    obtain ⟨hc, hcaptured⟩ := Sqlite.Statement.execute_ok hr
    simp only at hrunW hrun
    rw [hrunW]
    refine ⟨⟨p', krenewed.addCursor hc hcaptured⟩, ?_, tail, htail, rfl⟩
    rw [Act.operation, perform, hrun]
    rfl

theorem bind (k : Attended t native first p w) (index : Nat) (v : Value)
    (hroom : w.hasParameter t index = true → p.generation.toNat + 1 < UInt64.size) :
    Follows E t native first (.bind index v) w
      (Session.bind (watch E native stray) t index v w).2 := by
  obtain rfl := k.native_eq
  have hbind := bind_embedded E (s := w.unwatched) k.statement index v
  have hbindW := bind_embedded (watch E p.native stray) k.statement index v
  have hengine : w.unwatched.engine = w.engine.inner := rfl
  rw [hengine] at hbind
  by_cases hi : 1 ≤ index ∧ index ≤ p.parameters
  · obtain ⟨added, hadded, hwatch⟩ :=
      Sqlite.bind_watch E stray hi v w.engine
    have hp := Sqlite.Statement.bind_in_range (E := E) hi v w.engine.inner
    rw [hwatch, hp] at hbindW
    rw [hp] at hbind
    have hrange : w.hasParameter t index = true := by
      simp [hasParameter, k.statement, Statement.parameterCount, hi]
    rw [hbindW]
    refine ⟨⟨_, k.renewed _ _ rfl rfl (hroom hrange) (by simp)⟩, ?_, added, .inr hadded, rfl⟩
    rw [Act.operation, perform, hbind]
    rfl
  · obtain ⟨e, hout⟩ := Sqlite.Statement.bind_out_of_range hi v
    rw [hout, setStatement_self (s := { w with engine := w.engine }) k.statement] at hbindW
    rw [hout] at hbind
    rw [hbindW]
    refine ⟨⟨p, k⟩, ?_, [], .inl rfl, by rw [List.append_nil]⟩
    rw [Act.operation, perform, hbind]
    exact (setStatement_self (s := w.unwatched) k.statement).symm

theorem parameterIndex?_watch (k : Attended t native first p w) (name : String) :
    parameterIndex? (watch E native stray) t name w = parameterIndex? E t name w.unwatched := by
  have hplain : w.unwatched.statement? t = some (.embedded p) := k.statement
  simp only [parameterIndex?, k.statement, hplain]
  rfl

theorem bindNamed (k : Attended t native first p w) (name : String) (v : Value)
    (hroom : (parameterIndex? E t name w.unwatched).any (w.hasParameter t) = true →
      p.generation.toNat + 1 < UInt64.size) :
    Follows E t native first (.bindNamed name v) w
      (Session.bindNamed (watch E native stray) t name v w).2 := by
  have hindex := k.parameterIndex?_watch E stray name
  cases hi : parameterIndex? E t name w.unwatched with
  | none =>
    have hW : Session.bindNamed (watch E native stray) t name v w =
        (.error (unknownParameter name), w) := by simp [Session.bindNamed, hindex, hi]
    rw [hW]
    refine ⟨⟨p, k⟩, ?_, [], .inl rfl, by rw [List.append_nil]⟩
    rw [Act.operation, perform, Session.bindNamed, hi]
  | some index =>
    have hW : Session.bindNamed (watch E native stray) t name v w =
        Session.bind (watch E native stray) t index v w := by
      simp [Session.bindNamed, hindex, hi]
    rw [hW]
    rw [hi, Option.any_some] at hroom
    obtain ⟨hattended, hplain, hlawful⟩ := k.bind E stray index v hroom
    refine ⟨hattended, ?_, hlawful⟩
    rw [hplain, Act.operation, Act.operation, perform, perform, Session.bindNamed, hi]

theorem advance (k : Attended t native first p w) (j : Nat) :
    Follows E t native first (.advance j) w
      (Session.advance (watch E native stray) (first + j) w).2 := by
  obtain rfl := k.native_eq
  cases hc : w.cursor? (first + j) with
  | none =>
    have hW : Session.advance (watch E p.native stray) (first + j) w =
        (.error (noObject "cursor"), w) := by simp [Session.advance, hc]
    have hplain : w.unwatched.cursor? (first + j) = none := hc
    rw [hW]
    refine ⟨⟨p, k⟩, ?_, [], .inl rfl, by rw [List.append_nil]⟩
    simp [Act.operation, perform, Session.advance, hplain]
  | some cursor =>
    obtain ⟨c, rfl, -, -⟩ := k.cursors j cursor hc
    obtain ⟨phase, added, hwatch, hphase, hadded⟩ :=
      Sqlite.advance_watch E stray c k.phase
    obtain ⟨hnative, hg, hcg, hrow, hcaptured⟩ :=
      Sqlite.Cursor.advance_kept (E := E) c p w.engine.inner
    have hW := advance_stepping (E := watch E p.native stray) hc k.statement
    have hplain := advance_stepping (E := E) (s := w.unwatched) hc k.statement
    have hengine : w.unwatched.engine = w.engine.inner := rfl
    rw [hengine] at hplain
    rw [hwatch] at hW
    rw [hW]
    have kmoved := k.moved (c.advance E p w.engine.inner).2.2.1
      ⟨(c.advance E p w.engine.inner).2.2.2, phase, w.engine.calls ++ added⟩ hnative hg hrow hphase
    have kset := kmoved.setCursor (j := j) hc hcg fun hcur hr ↦
      hcaptured (by simpa [Sqlite.Cursor.isCurrent, hcg, hg] using hcur) hr
    refine ⟨⟨_, kset⟩, ?_, added, ?_, rfl⟩
    · rw [Act.operation, perform, hplain]
      rfl
    · rcases hadded with ⟨rfl, -⟩ | ⟨hcur, hon, hadded⟩
      · exact .inl rfl
      · exact .inr ⟨(isCurrent_stepping hc k.statement).mpr hcur, hon, hadded⟩

theorem letGo (k : Attended t native first p w) (id : Nat) :
    Attended t native first p (w.letGo id) where
  held := k.held
  statement := k.statement
  native_eq := k.native_eq
  phase := k.phase
  first_le := by simpa [Session.letGo] using k.first_le
  cursors j cursor hcursor := by
    have hitems := items_modify (s := w) (f := fun slot ↦ { slot with held := false })
      (fun _ ↦ rfl) id
    rw [← getElem?_items, items, Session.letGo, hitems, getElem?_items] at hcursor
    exact k.cursors j cursor hcursor

theorem drop (k : Attended t native first p w) (j : Nat) :
    Follows E t native first (.drop j) w
      (dropCursor (watch E native stray) (first + j) w) := by
  obtain rfl := k.native_eq
  have kgone := k.letGo (first + j)
  cases hc : w.cursor? (first + j) with
  | none =>
    have hplain : w.unwatched.cursor? (first + j) = none := hc
    have hnot : ¬ w.IsCurrent (first + j) := by
      rintro ⟨u, hu⟩
      simp [ticket?, hc] at hu
    simp only [dropCursor, hc]
    refine ⟨⟨p, kgone⟩, ?_, fun h ↦ absurd h hnot, fun _ ↦ rfl⟩
    simp only [Act.operation, perform, dropCursor, hplain]
    rfl
  | some cursor =>
    obtain ⟨c, rfl, -, -⟩ := k.cursors j cursor hc
    have hcurrent := isCurrent_stepping hc k.statement
    have hW := dropCursor_stepping (watch E p.native stray) hc k.statement k.held
    have hplain := dropCursor_stepping E (s := w.unwatched) hc k.statement k.held
    have hengine : w.unwatched.engine = w.engine.inner := rfl
    rw [hengine] at hplain
    by_cases hcur : c.isCurrent p = true
    · rw [Sqlite.drop_watch_current E stray hcur] at hW
      have hreset : c.drop E p w.engine.inner = p.reset E w.engine.inner := by
        simp [Sqlite.Cursor.drop, hcur]
      rw [hreset] at hW hplain
      have kmoved := kgone.moved (p.reset E w.engine.inner).1
        ⟨(p.reset E w.engine.inner).2, .ready, w.engine.calls ++ [.reset w.engine.phase]⟩ rfl rfl
        (fun h ↦ by cases h) (by simp [Sqlite.Statement.reset])
      rw [hW]
      refine ⟨⟨_, kmoved⟩, ?_, fun _ ↦ ⟨rfl, rfl⟩, fun h ↦ absurd (hcurrent.mpr hcur) h⟩
      rw [Act.operation, perform, hplain]
      rfl
    · have hstale : c.isCurrent p = false := by simpa using hcur
      rw [Sqlite.drop_stale _ hstale] at hW hplain
      rw [hW]
      refine ⟨⟨p, kgone.moved _ _ rfl rfl (fun h ↦ h) k.phase⟩, ?_,
        fun h ↦ absurd (hcurrent.mp h) hcur, fun _ ↦ rfl⟩
      rw [Act.operation, perform, hplain]
      rfl

/-- Every act keeps session and native statement in step and asks for no more than it may, as long
as the generation has room for it. -/
theorem perform_act (k : Attended t native first p w) (a : Act σ)
    (hroom : touched E w.unwatched (a.operation t first) = some t →
      p.generation.toNat + 1 < UInt64.size) :
    Follows E t native first a w
      (perform (watch E native stray) w (a.watched.operation t first)) := by
  have hplain : w.unwatched.statement? t = some (.embedded p) := k.statement
  cases a with
  | execute => exact k.execute E stray (hroom (by simp [Act.operation, touched, hplain]))
  | bind index v =>
    refine k.bind E stray index v fun h ↦ hroom ?_
    have h' : w.unwatched.hasParameter t index = true := h
    simp [Act.operation, touched, h']
  | bindNamed name v =>
    refine k.bindNamed E stray name v fun h ↦ hroom ?_
    have h' : (parameterIndex? E t name w.unwatched).any (w.unwatched.hasParameter t) = true := h
    simp [Act.operation, touched, h']
  | advance j => exact k.advance E stray j
  | drop j => exact k.drop E stray j
  | elsewhere change servers =>
    exact ⟨⟨p, ⟨k.held, k.statement, k.native_eq, k.phase, k.first_le, k.cursors⟩⟩, rfl, rfl, rfl⟩

end Attended

end Session
end SqlGateway
