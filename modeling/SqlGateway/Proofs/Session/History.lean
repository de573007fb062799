import SqlGateway.Proofs.Catalog.Routes
import SqlGateway.Proofs.Session.Objects
import SqlGateway.Proofs.Sqlite.Stepping

namespace SqlGateway

/-- What can happen to a session. Reading a row changes nothing, and whole results are read by
advances. -/
inductive Operation (σ : Type) where
  | connect (url : String)
  | batch (connection : Nat) (sql : String)
  | prepare (connection : Nat) (sql : String)
  | bind (statement index : Nat) (v : Value)
  | bindNamed (statement : Nat) (name : String) (v : Value)
  | execute (statement : Nat)
  | advance (cursor : Nat)
  | dropConnection (connection : Nat)
  | dropStatement (statement : Nat)
  | dropCursor (cursor : Nat)
  | buffer (b : Buffered)
  | script (c : Faulty)
  | answer (statement : Nat) (run : List Value → Option Message × Result Answer)
  | elsewhere (change : σ → σ) (servers : Servers)

def Operation.advances {σ : Type} (id : Nat) : Operation σ → Bool
  | advance id' => id' = id
  | _ => false

namespace Session

variable {σ : Type} (E : Sqlite.Engine σ)

def perform (s : Session σ) : Operation σ → Session σ
  | .connect url => ((catalog E).create url s).2
  | .batch id sql => (execute E id sql s).2
  | .prepare id sql => (prepare E id sql s).2
  | .bind t index v => (bind E t index v s).2
  | .bindNamed t name v => (bindNamed E t name v s).2
  | .execute t => (run E t s).2
  | .advance id => (advance E id s).2
  | .dropConnection id => dropConnection E id s
  | .dropStatement t => dropStatement E t s
  | .dropCursor id => dropCursor E id s
  | .buffer b => (s.addCursor (.buffered b)).2
  | .script c => (s.addCursor (.faulty c)).2
  | .answer t run =>
    match s.statement? t with
    | some (.remote r) => s.setStatement t (.remote { r with prepared := { r.prepared with run } })
    | _ => s
  | .elsewhere change servers => { s with engine := change s.engine, servers }

def performAll (s : Session σ) (ops : List (Operation σ)) : Session σ := ops.foldl (perform E) s

/-- The index is that of a parameter. -/
def hasParameter (s : Session σ) (t index : Nat) : Bool :=
  match s.statement? t with
  | some statement => 1 ≤ index && index ≤ statement.parameterCount
  | none => false

/-- The statement whose cursors lose their turn: one that is executed, successfully or not, and one
that a value is bound to under an index in range. -/
def touched (s : Session σ) : Operation σ → Option Nat
  | .execute t => if (s.statement? t).isSome then some t else none
  | .bind t index _ => if s.hasParameter t index then some t else none
  | .bindNamed t name _ =>
    if (parameterIndex? E t name s).any (s.hasParameter t) then some t else none
  | _ => none

def touches (t : Nat) : Session σ → List (Operation σ) → Nat
  | _, [] => 0
  | s, op :: ops => (if touched E s op = some t then 1 else 0) + touches t (perform E s op) ops

variable {E} {s : Session σ} {t u : Nat}

@[simp]
theorem performAll_nil (s : Session σ) : performAll E s [] = s := rfl

@[simp]
theorem performAll_cons (s : Session σ) (op : Operation σ) (ops : List (Operation σ)) :
    performAll E s (op :: ops) = performAll E (perform E s op) ops := rfl

theorem performAll_append (s : Session σ) (ops later : List (Operation σ)) :
    performAll E s (ops ++ later) = performAll E (performAll E s ops) later := List.foldl_append

theorem touches_append (s : Session σ) (ops later : List (Operation σ)) :
    touches E t s (ops ++ later) = touches E t s ops + touches E t (performAll E s ops) later := by
  induction ops generalizing s with
  | nil => simp [touches]
  | cons op ops ih => rw [List.cons_append, touches, ih, touches, performAll_cons, Nat.add_assoc]

theorem generation_congr {s' : Session σ} (h : s'.statements = s.statements) (u : Nat) :
    s'.generation u = s.generation u := by simp only [generation, statement?, h]

theorem generation_setStatement {old : Statement} (new : Statement) (h : s.statement? t = some old)
    (k : UInt64) (hk : new.generation = old.generation + k) (u : Nat) :
    (s.setStatement t new).generation u = s.generation u + if t = u then k else 0 := by
  by_cases hu : t = u
  · subst hu
    rw [generation_setStatement_self h, hk]
    simp [generation, h]
  · rw [generation_setStatement_of_ne hu]
    simp [hu]

theorem generation_addStatement (id : Nat) {new : Statement} (h : new.generation = 0) (u : Nat) :
    (s.addStatement id new).2.generation u = s.generation u := by
  simp only [generation, statement?, addStatement]
  rcases Nat.lt_trichotomy u s.statements.length with hu | rfl | hu
  · rw [List.getElem?_append_left hu]
  · simp [h]
  · rw [List.getElem?_eq_none, List.getElem?_eq_none (Nat.le_of_lt hu)]
    simpa using Nat.succ_le_of_lt hu

theorem generation_bind (index : Nat) (v : Value) (u : Nat) :
    (bind E t index v s).2.generation u =
      s.generation u + if t = u ∧ s.hasParameter t index then 1 else 0 := by
  cases hs : s.statement? t with
  | none => simp [bind, hs, hasParameter]
  | some old =>
    have hrange : s.hasParameter t index = decide (1 ≤ index ∧ index ≤ old.parameterCount) := by
      simp [hasParameter, hs]
    cases old with
    | remote r =>
      by_cases hi : 1 ≤ index ∧ index ≤ r.bound.length
      · have hslot := parameterSlot_of_range hi
        simp only [bind, hs, RemoteStatement.bind, Parameters.set, hslot, Except.map]
        rw [generation_setStatement _ hs 1 rfl, hrange]
        simp [Statement.parameterCount, hi]
      · obtain ⟨e, he⟩ := parameterSlot_of_not_range hi
        simp only [bind, hs, RemoteStatement.bind, Parameters.set, he, Except.map]
        rw [hrange]
        simp [Statement.parameterCount, hi]
    | embedded n =>
      by_cases hi : 1 ≤ index ∧ index ≤ n.parameters
      · have hn := Sqlite.Statement.bind_in_range (E := E) hi v s.engine
        have hold : { s with engine := (n.bind E index v s.engine).2.2 }.statement? t =
            some (.embedded n) := hs
        simp only [bind, hs]
        rw [hn, generation_setStatement (.embedded _) hold 1 rfl, hrange]
        simp [Statement.parameterCount, hi, generation, statement?]
      · obtain ⟨e, hn⟩ := Sqlite.Statement.bind_out_of_range hi v
        simp only [bind, hs, hn E s.engine]
        rw [generation_setStatement _ hs 0 (by simp), hrange]
        simp [Statement.parameterCount, hi]

theorem generation_bindNamed (name : String) (v : Value) (u : Nat) :
    (bindNamed E t name v s).2.generation u = s.generation u +
      if t = u ∧ (parameterIndex? E t name s).any (s.hasParameter t) then 1 else 0 := by
  unfold bindNamed
  cases hi : parameterIndex? E t name s with
  | none => simp
  | some index => simp [generation_bind]

theorem generation_run (u : Nat) :
    (run E t s).2.generation u =
      s.generation u + if t = u ∧ (s.statement? t).isSome then 1 else 0 := by
  cases hs : s.statement? t with
  | none => simp [run, hs]
  | some old =>
    have hgeneration : (run E t s).2.generation u =
        s.generation u + if t = u then 1 else 0 := by
      cases old with
      | remote r =>
        have h := generation_setStatement (.remote r.execute.2.2) hs 1 rfl u
        simp only [run, hs]
        split <;> simpa [receive, addCursor, generation, statement?] using h
      | embedded n =>
        have hn := (Sqlite.Statement.execute_kept (E := E) n s.engine).2
        have h := generation_setStatement (.embedded (n.execute E s.engine).2.1) hs 1 hn u
        simp only [run, hs]
        split <;> simpa [addCursor, generation, statement?, setStatement] using h
    simpa using hgeneration

theorem generation_advance (id u : Nat) : (advance E id s).2.generation u = s.generation u := by
  cases h : s.cursor? id with
  | none => simp [advance, h]
  | some cursor =>
    cases cursor with
    | fetched t c => rw [advance_fetched h, generation_setCursor]
    | stepping t c =>
      cases hn : s.statement? t with
      | none => simp [advance, h, hn]
      | some n =>
        cases n with
        | remote n => simp [advance, h, hn]
        | embedded n =>
          have hg := (Sqlite.Cursor.advance_kept (E := E) c n s.engine).2.1
          have hold : { s with engine := (c.advance E n s.engine).2.2.2 }.statement? t =
              some (.embedded n) := hn
          rw [advance_stepping h hn, generation_setCursor,
            generation_setStatement (.embedded _) hold 0
              (by simpa [Statement.generation] using hg)]
          simp [generation, statement?]
    | buffered b => rw [advance_buffered h, generation_setCursor]
    | faulty c => rw [advance_faulty h, generation_setCursor]

theorem generation_dropCursor (id u : Nat) :
    (dropCursor E id s).generation u = s.generation u := by
  unfold dropCursor
  split
  · rename_i t c h
    split
    · rename_i n hn
      have hg := (Sqlite.Cursor.drop_kept (E := E) c n s.engine).2.1
      rw [generation_congr (settleStatement_frame E t _).1]
      have hold : { s with engine := (c.drop E n s.engine).2 }.statement? t =
          some (.embedded n) := hn
      have h := generation_setStatement (.embedded (c.drop E n s.engine).1) hold 0
        (by simpa [Statement.generation] using hg) u
      simpa [generation, statement?, setStatement] using h
    · rfl
  · rename_i t c h
    exact generation_congr (settleStatement_frame E t _).1 u
  · rfl

theorem generation_dropStatement (t u : Nat) :
    (dropStatement E t s).generation u = s.generation u := by
  unfold dropStatement
  rw [generation_congr (settleStatement_frame E t _).1]
  simp only [generation, statement?, List.getElem?_modify]
  cases s.statements[u]? with
  | none => rfl
  | some slot => by_cases h : t = u <;> simp [h]

theorem openRemote_frame (r : Result (RemoteConnection Message)) (s : Session σ) :
    (openRemote r s).2.statements = s.statements ∧ (openRemote r s).2.cursors = s.cursors := by
  cases r <;> exact ⟨rfl, rfl⟩

theorem connect_frame {d : Driver (Session σ) Nat} (h : d ∈ drivers E) (scheme target : String)
    (s : Session σ) :
    (d.connect scheme target s).2.statements = s.statements ∧
      (d.connect scheme target s).2.cursors = s.cursors := by
  simp only [drivers, List.mem_cons, List.not_mem_nil, or_false] at h
  rcases h with rfl | rfl | rfl | rfl
  · simp only [sqlite, openEmbedded]
    split <;> exact ⟨rfl, rfl⟩
  · simp only [postgresql]
    exact openRemote_frame _ s
  · simp only [mariadb]
    exact openRemote_frame _ s
  · simp only [odbc]
    exact openRemote_frame _ (s.receive _)

theorem create_frame (url : String) (s : Session σ) :
    ((catalog E).create url s).2.statements = s.statements ∧
      ((catalog E).create url s).2.cursors = s.cursors := by
  rcases Catalog.create_cases (drivers E) url s with h | ⟨d, hd, scheme, target, h⟩
  · simp only [catalog, catalogOf, h, and_self]
  · rw [catalog, catalogOf, h]
    exact connect_frame hd scheme target s

theorem execute_frame (id : Nat) (sql : String) (s : Session σ) :
    (execute E id sql s).2.statements = s.statements ∧
      (execute E id sql s).2.cursors = s.cursors := by
  unfold execute
  split <;> exact ⟨rfl, rfl⟩

theorem generation_prepare (id : Nat) (sql : String) (u : Nat) :
    (prepare E id sql s).2.generation u = s.generation u := by
  unfold prepare
  split
  · rfl
  · split
    · rfl
    · exact generation_addStatement id rfl u
  · split
    · rfl
    · rename_i database hconn n engine hp
      have hn := (Sqlite.Statement.prepareStatement_ok hp).1
      exact generation_addStatement (s := { s with engine }) id
        (by simpa [Statement.generation] using hn) u

theorem generation_perform (s : Session σ) (op : Operation σ) (u : Nat) :
    (perform E s op).generation u = s.generation u + if touched E s op = some u then 1 else 0 := by
  cases op with
  | connect url => simp [perform, touched, generation_congr (create_frame url s).1]
  | batch id sql => simp [perform, touched, generation_congr (execute_frame id sql s).1]
  | prepare id sql => simp [perform, touched, generation_prepare]
  | bind t index v =>
    rw [perform, generation_bind]
    by_cases h : s.hasParameter t index <;> simp [touched, h]
  | bindNamed t name v =>
    rw [perform, generation_bindNamed]
    by_cases h : (parameterIndex? E t name s).any (s.hasParameter t) <;> simp [touched, h]
  | execute t =>
    rw [perform, generation_run]
    by_cases h : (s.statement? t).isSome <;> simp [touched, h]
  | advance id => simp [perform, touched, generation_advance]
  | dropConnection id =>
    have h := settleConnection_frame E id
      { s with connections := s.connections.modify id fun slot ↦ { slot with held := false } }
    rw [perform, dropConnection, generation_congr h.1]
    simp [touched, generation, statement?]
  | dropStatement t => simp [perform, touched, generation_dropStatement]
  | dropCursor id => simp [perform, touched, generation_dropCursor]
  | buffer b => simp [touched, perform, addCursor, generation, statement?]
  | script c => simp [touched, perform, addCursor, generation, statement?]
  | answer t run =>
    simp only [perform, touched]
    split
    · rename_i r hr
      rw [generation_setStatement _ hr 0 (by simp [Statement.generation])]
      simp
    · simp
  | elsewhere change servers => simp [touched, perform, generation, statement?]

/-- A generation counts the operations that touch the statement, as long as the count has room. -/
theorem toNat_generation_perform (op : Operation σ)
    (hroom : (s.generation t).toNat + (if touched E s op = some t then 1 else 0) < UInt64.size) :
    ((perform E s op).generation t).toNat =
      (s.generation t).toNat + if touched E s op = some t then 1 else 0 := by
  rw [generation_perform, UInt64.toNat_add]
  split at hroom <;> rename_i htouched
  · simpa [htouched] using Nat.mod_eq_of_lt hroom
  · simp [htouched]

theorem generation_performAll (s : Session σ) (ops : List (Operation σ)) (u : Nat) :
    (performAll E s ops).generation u = s.generation u + UInt64.ofNat (touches E u s ops) := by
  induction ops generalizing s with
  | nil => simp [touches]
  | cons op ops ih =>
    rw [performAll_cons, ih, generation_perform, touches]
    by_cases h : touched E s op = some u
    · simp [h, UInt64.add_assoc, UInt64.ofNat_add]
    · simp [h]

theorem items_congr {s' : Session σ} (h : s'.cursors = s.cursors) : s'.items = s.items := by
  rw [items, h, items]

theorem items_modify {f : Slot Cursor → Slot Cursor} (hf : ∀ slot, (f slot).item = slot.item)
    (id : Nat) : (s.cursors.modify id f).map (·.item) = s.items := by
  apply List.ext_getElem? fun j ↦ ?_
  simp only [items, List.getElem?_map, List.getElem?_modify]
  cases s.cursors[j]? with
  | none => rfl
  | some slot => by_cases h : id = j <;> simp [h, hf]

theorem cursors_bind (t index : Nat) (v : Value) (s : Session σ) :
    (bind E t index v s).2.cursors = s.cursors := by
  unfold bind
  split
  · rfl
  · split <;> rfl
  · rfl

theorem items_dropCursor (id : Nat) (s : Session σ) : (dropCursor E id s).items = s.items := by
  have hmodify := items_modify (s := s) (f := fun slot ↦ { slot with held := false })
    (fun _ ↦ rfl) id
  unfold dropCursor
  split
  · split
    · rw [items_congr (settleStatement_frame E _ _).2]
      exact hmodify
    · exact hmodify
  · rw [items_congr (settleStatement_frame E _ _).2]
    exact hmodify
  · exact hmodify

theorem run_cases (t : Nat) (s : Session σ) :
    (∃ e, (run E t s).1 = .error e ∧ (run E t s).2.cursors = s.cursors) ∨
    ∃ cursor, (run E t s).1 = .ok s.cursors.length ∧
      (run E t s).2.cursors = s.cursors ++ [{ item := cursor }] ∧
      cursor.ticket? = some (t, (run E t s).2.generation t) := by
  have hg := generation_run (E := E) (s := s) (t := t) t
  cases hs : s.statement? t with
  | none => exact .inl ⟨noObject "statement", by simp [run, hs]⟩
  | some old =>
    have hold : s.generation t = old.generation := by simp [generation, hs]
    simp only [hs, Option.isSome_some, and_self, if_true, hold] at hg
    cases old with
    | remote r =>
      cases ha : (r.prepared.run r.bound).2 with
      | error e =>
        refine .inl ⟨e, ?_⟩
        simp [run, hs, RemoteStatement.execute, ha, Except.map, receive, setStatement]
      | ok a =>
        refine .inr ⟨.fetched t ⟨a.columns, a.rows, a.stats, r.generation + 1, 0⟩, ?_⟩
        rw [hg]
        simp [run, hs, RemoteStatement.execute, ha, Except.map, receive, setStatement, addCursor,
          Cursor.ticket?, Statement.generation]
    | embedded n =>
      rcases he : n.execute E s.engine with ⟨r, n', engine⟩
      cases r with
      | error e =>
        refine .inl ⟨e, ?_⟩
        simp [run, hs, he, setStatement]
      | ok c =>
        have hc : c.generation = n.generation + 1 := by
          have hkept := (Sqlite.Statement.execute_kept (E := E) n s.engine).2
          rw [he] at hkept
          exact (Sqlite.Statement.execute_ok he).1.trans hkept
        refine .inr ⟨.stepping t c, ?_⟩
        rw [hg]
        simp [run, hs, he, setStatement, addCursor, Cursor.ticket?, hc, Statement.generation]

/-- A new cursor stands behind those that exist. If it is one of a statement, the operation touched
the statement, and the cursor has its turn. -/
def Adds (E : Sqlite.Engine σ) (s : Session σ) (op : Operation σ) (new : List Cursor) : Prop :=
  new.length ≤ 1 ∧ ∀ cursor ∈ new, ∀ t g, cursor.ticket? = some (t, g) →
    touched E s op = some t ∧ g = (perform E s op).generation t

theorem adds_nil (s : Session σ) (op : Operation σ) : Adds E s op [] := by simp [Adds]

theorem items_perform (s : Session σ) (op : Operation σ) (h : ∀ id, op.advances id = false) :
    ∃ new, (perform E s op).items = s.items ++ new ∧ Adds E s op new := by
  have hquiet : (perform E s op).items = s.items →
      ∃ new, (perform E s op).items = s.items ++ new ∧ Adds E s op new :=
    fun h ↦ ⟨[], by rw [h, List.append_nil], adds_nil s op⟩
  cases op with
  | connect url => exact hquiet (items_congr (create_frame url s).2)
  | batch id sql => exact hquiet (items_congr (execute_frame id sql s).2)
  | prepare id sql =>
    refine hquiet (items_congr (?_ : (prepare E id sql s).2.cursors = s.cursors))
    unfold prepare
    split
    · rfl
    · split <;> rfl
    · split <;> rfl
  | bind t index v => exact hquiet (items_congr (cursors_bind t index v s))
  | bindNamed t name v =>
    refine hquiet (items_congr (?_ : (bindNamed E t name v s).2.cursors = s.cursors))
    unfold bindNamed
    split
    · exact cursors_bind ..
    · rfl
  | execute t =>
    rcases run_cases (E := E) t s with ⟨e, -, hc⟩ | ⟨cursor, hr, hc, ht⟩
    · exact hquiet (items_congr hc)
    · refine ⟨[cursor], by simp [perform, items, hc], Nat.le_refl 1, ?_⟩
      intro cursor' hcursor t' g hg
      rw [List.mem_singleton.mp hcursor, ht] at hg
      obtain ⟨rfl, rfl⟩ := Prod.mk.inj (Option.some.inj hg)
      refine ⟨?_, rfl⟩
      cases hs : s.statement? t with
      | none => simp [run, hs] at hr
      | some old => simp [touched, hs]
  | advance id => simpa [Operation.advances] using h id
  | dropConnection id =>
    exact hquiet (items_congr (settleConnection_frame E id
      { s with connections := s.connections.modify id fun slot ↦ { slot with held := false } }).2)
  | dropStatement t =>
    exact hquiet (items_congr (settleStatement_frame E t
      { s with statements := s.statements.modify t fun slot ↦ { slot with held := false } }).2)
  | dropCursor id => exact hquiet (items_dropCursor id s)
  | buffer b =>
    refine ⟨[.buffered b], by simp [perform, items, addCursor], Nat.le_refl 1, ?_⟩
    intro cursor hcursor t g hg
    rw [List.mem_singleton.mp hcursor] at hg
    cases hg
  | script c =>
    refine ⟨[.faulty c], by simp [perform, items, addCursor], Nat.le_refl 1, ?_⟩
    intro cursor hcursor t g hg
    rw [List.mem_singleton.mp hcursor] at hg
    cases hg
  | answer t run =>
    refine hquiet (items_congr ?_)
    simp only [perform]
    split <;> rfl
  | elsewhere change servers => exact hquiet rfl

theorem advances_cases (op : Operation σ) :
    (∃ id, op = .advance id) ∨ ∀ id, op.advances id = false := by
  cases op with
  | advance id => exact .inl ⟨id, rfl⟩
  | _ => exact .inr fun _ ↦ rfl

theorem labels_perform (s : Session σ) (op : Operation σ) :
    ∃ new : List Cursor, (perform E s op).labels = s.labels ++ new.map Cursor.fixed ∧
      Adds E s op new := by
  rcases advances_cases op with ⟨id, rfl⟩ | h
  · exact ⟨[], by simp [perform, labels_advance], adds_nil s _⟩
  · obtain ⟨new, hnew, hadds⟩ := items_perform (E := E) s op h
    exact ⟨new, by simp [labels, hnew], hadds⟩

theorem cursor?_perform {id : Nat} {cursor : Cursor} (h : s.cursor? id = some cursor)
    {op : Operation σ} (hop : op.advances id = false) :
    (perform E s op).cursor? id = some cursor := by
  rcases advances_cases op with ⟨id', rfl⟩ | hop
  · have hne : id' ≠ id := by simpa [Operation.advances, eq_comm] using hop
    rw [perform, cursor?_advance_of_ne hne, h]
  · obtain ⟨new, hnew, -⟩ := items_perform (E := E) s op hop
    rw [← getElem?_items] at h ⊢
    rw [hnew, List.getElem?_append_left (List.getElem?_eq_some_iff.mp h).1, h]

theorem labels_performAll (s : Session σ) (ops : List (Operation σ)) :
    s.labels <+: (performAll E s ops).labels := by
  induction ops generalizing s with
  | nil => exact List.prefix_rfl
  | cons op ops ih =>
    obtain ⟨new, hnew, -⟩ := labels_perform (E := E) s op
    have hstep : s.labels <+: (perform E s op).labels := ⟨_, hnew.symm⟩
    exact hstep.trans (ih _)

end Session
end SqlGateway
