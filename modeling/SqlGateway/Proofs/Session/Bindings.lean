import SqlGateway.Proofs.Session.Connections
import SqlGateway.Sql.World

namespace SqlGateway.Session

variable {σ : Type} {E : Sqlite.Engine σ} {s : Session σ} {t : Nat} {r : RemoteStatement Message}

/-- The values that wait for the next execution of a statement. -/
def bound? (s : Session σ) (t : Nat) : Option Parameters :=
  match s.statement? t with
  | some (.remote r) => some r.bound
  | _ => none

/-- The next execution of a statement is given up before anything is sent. -/
def Refuses (s : Session σ) (t : Nat) : Prop :=
  ∃ r, s.statement? t = some (.remote r) ∧ r.prepared.Refuses

variable (E) in
/-- The value that an operation gives to a parameter of a statement, if it is accepted. -/
def accepted (t index : Nat) (s : Session σ) : Operation σ → Option Value
  | .bind t' index' v =>
    if t' = t ∧ index' = index ∧ (bind E t' index' v s).1.isOk then some v else none
  | .bindNamed t' name v =>
    if t' = t ∧ parameterIndex? E t' name s = some index ∧ (bindNamed E t' name v s).1.isOk then
      some v
    else none
  | _ => none

variable (E) in
/-- The last value that a parameter of a statement was given. -/
def lastAccepted (t index : Nat) : Session σ → List (Operation σ) → Option Value
  | _, [] => none
  | s, op :: ops => (lastAccepted t index (perform E s op) ops).or (accepted E t index s op)

theorem statement?_setStatement_of_ne {t' : Nat} (h : t' ≠ t) (new : Statement) :
    (s.setStatement t' new).statement? t = s.statement? t := by
  simp [statement?_setStatement, h]

theorem statement?_bind_of_ne {t' : Nat} (h : t' ≠ t) (index : Nat) (v : Value) :
    (bind E t' index v s).2.statement? t = s.statement? t := by
  unfold bind
  split
  · rfl
  · split
    · rfl
    · exact statement?_setStatement_of_ne h _
  · exact statement?_setStatement_of_ne (s := { s with engine := _ }) h _

theorem statement?_run_of_ne {t' : Nat} (h : t' ≠ t) :
    (run E t' s).2.statement? t = s.statement? t := by
  unfold run
  split
  · rfl
  · rename_i r _
    have hset := statement?_setStatement_of_ne (s := s) h (.remote r.execute.2.2)
    simp only
    split <;> exact hset
  · rename_i n _
    have hset := statement?_setStatement_of_ne
      (s := { s with engine := (n.execute E s.engine).2.2 }) h
      (.embedded (n.execute E s.engine).2.1)
    simp only
    split <;> exact hset

theorem statement?_prepare (h : s.statement? t = some (.remote r)) (id : Nat) (sql : String) :
    (prepare E id sql s).2.statement? t = some (.remote r) := by
  have ht : t < s.statements.length := by
    obtain ⟨slot, hslot, -⟩ := Option.map_eq_some_iff.mp h
    exact (List.getElem?_eq_some_iff.mp hslot).1
  have hadd : ∀ (new : StatementSlot),
      ((s.statements ++ [new])[t]?).map (·.item) = some (.remote r) := fun new ↦ by
    rw [List.getElem?_append_left ht]
    exact h
  unfold prepare
  split
  · exact h
  · split
    · exact h
    · exact hadd _
  · split
    · exact h
    · exact hadd _

theorem ne_of_embedded (h : s.statement? t = some (.remote r)) {t' : Nat} {n : Sqlite.Statement}
    (hn : s.statement? t' = some (.embedded n)) : t' ≠ t := by
  rintro rfl
  rw [h] at hn
  cases hn

theorem statement?_advance (h : s.statement? t = some (.remote r)) (id : Nat) :
    (advance E id s).2.statement? t = some (.remote r) := by
  cases hc : s.cursor? id with
  | none => simpa [advance, hc] using h
  | some cursor =>
    cases cursor with
    | fetched t' c =>
      rw [advance_fetched hc]
      exact h
    | stepping t' c =>
      cases hn : s.statement? t' with
      | none => simpa [advance, hc, hn] using h
      | some n =>
        cases n with
        | remote n => simpa [advance, hc, hn] using h
        | embedded n =>
          rw [advance_stepping hc hn]
          refine Eq.trans ?_ h
          exact statement?_setStatement_of_ne (s := { s with engine := _ }) (ne_of_embedded h hn) _
    | buffered b =>
      rw [advance_buffered hc]
      exact h
    | faulty c =>
      rw [advance_faulty hc]
      exact h

theorem statement?_congr {s' : Session σ} (h : s'.statements = s.statements) (t : Nat) :
    s'.statement? t = s.statement? t := by simp only [statement?, h]

theorem statement?_dropCursor (h : s.statement? t = some (.remote r)) (id : Nat) :
    (dropCursor E id s).statement? t = some (.remote r) := by
  unfold dropCursor
  split
  · rename_i t' c _
    split
    · rename_i n hn
      have hne := ne_of_embedded h hn
      rw [statement?_congr (settleStatement_frame E t' _).1]
      refine Eq.trans ?_ h
      exact statement?_setStatement_of_ne (s := { s with engine := _, cursors := _ }) hne _
    · exact h
  · rw [statement?_congr (settleStatement_frame E _ _).1]
    exact h
  · exact h

theorem statement?_dropStatement (h : s.statement? t = some (.remote r)) (t' : Nat) :
    (dropStatement E t' s).statement? t = some (.remote r) := by
  unfold dropStatement
  rw [statement?_congr (settleStatement_frame E t' _).1, ← h]
  simp only [statement?, List.getElem?_modify]
  cases s.statements[t]? with
  | none => rfl
  | some slot => by_cases h : t' = t <;> simp [h]

theorem bind_remote_in_range (h : s.statement? t = some (.remote r)) {index : Nat}
    (hi : 1 ≤ index ∧ index ≤ r.bound.length) (v : Value) :
    bind E t index v s = (.ok (), s.setStatement t (.remote { r with
      bound := List.set r.bound (index - 1) v, generation := r.generation + 1 })) := by
  simp [bind, h, RemoteStatement.bind, Parameters.set, parameterSlot_of_range hi, Except.map]

theorem bind_remote_out_of_range (h : s.statement? t = some (.remote r)) {index : Nat}
    (hi : ¬ (1 ≤ index ∧ index ≤ r.bound.length)) (v : Value) :
    ∃ e, bind E t index v s = (.error e, s) := by
  obtain ⟨e, he⟩ := parameterSlot_of_not_range hi
  exact ⟨e, by simp [bind, h, RemoteStatement.bind, Parameters.set, he, Except.map]⟩

theorem bindNamed_remote (h : s.statement? t = some (.remote r)) (name : String) (v : Value) :
    bindNamed E t name v s = (.error (unknownParameter name), s) := by
  simp [bindNamed, parameterIndex?, h]

theorem run_remote (h : s.statement? t = some (.remote r)) :
    (run E t s).2.received = s.received ++ (r.prepared.run r.bound).1.toList ∧
    (run E t s).2.statement? t =
      some (.remote { r with generation := r.generation + 1 }) ∧
    ∀ e, (r.prepared.run r.bound).2 = .error e → (run E t s).1 = .error e := by
  have hset := statement?_setStatement_self h (.remote r.execute.2.2)
  simp only [run, h]
  split
  · rename_i e he
    refine ⟨rfl, hset, fun e' he' ↦ ?_⟩
    simp only [RemoteStatement.execute, he', Except.map] at he
    cases he
    rfl
  · rename_i c hc
    refine ⟨rfl, hset, fun e' he' ↦ ?_⟩
    simp [RemoteStatement.execute, he', Except.map] at hc

/-- A statement after an operation: each parameter holds the value that it was given, or what it
held, and the server answers as before unless the operation says otherwise. -/
structure Rebound (E : Sqlite.Engine σ) (t : Nat) (s : Session σ) (op : Operation σ)
    (r r' : RemoteStatement Message) : Prop where
  prepared : r'.prepared = r.prepared ∨
    ∃ run, op = .answer t run ∧ r'.prepared = ⟨r.prepared.parameters, run⟩
  bound : ∀ i, r'.bound[i]? = (r.bound[i]?).map fun old ↦ (accepted E t (i + 1) s op).getD old

theorem Rebound.of_bound_eq {op : Operation σ} {r' : RemoteStatement Message}
    (hprepared : r'.prepared = r.prepared) (hbound : r'.bound = r.bound)
    (hnone : ∀ index, accepted E t index s op = none) : Rebound E t s op r r' where
  prepared := .inl hprepared
  bound i := by simp [hbound, hnone]

theorem rebound_bind (h : s.statement? t = some (.remote r)) (t' index : Nat) (v : Value) :
    ∃ r', (bind E t' index v s).2.statement? t = some (.remote r') ∧
      Rebound E t s (.bind t' index v) r r' := by
  by_cases ht : t' = t
  · subst ht
    by_cases hi : 1 ≤ index ∧ index ≤ r.bound.length
    · let r' : RemoteStatement Message :=
        { r with bound := List.set r.bound (index - 1) v, generation := r.generation + 1 }
      have hbind : bind E t' index v s = (.ok (), s.setStatement t' (.remote r')) :=
        bind_remote_in_range h hi v
      refine ⟨r', by rw [hbind]; exact statement?_setStatement_self h _, .inl rfl, fun i ↦ ?_⟩
      simp only [accepted, hbind, r', List.getElem?_set]
      by_cases hslot : index - 1 = i
      · have hindex : index = i + 1 := by omega
        have hlt : i < r.bound.length := by omega
        simp [hindex, hlt, Except.isOk, Except.toBool]
      · have hindex : index ≠ i + 1 := by omega
        simp [hslot, hindex]
    · obtain ⟨e, hbind⟩ := bind_remote_out_of_range (E := E) h hi v
      refine ⟨r, by rw [hbind]; exact h, .of_bound_eq rfl rfl fun i ↦ ?_⟩
      simp [accepted, hbind, Except.isOk, Except.toBool]
  · refine ⟨r, (statement?_bind_of_ne ht index v).trans h, .of_bound_eq rfl rfl fun i ↦ ?_⟩
    simp [accepted, ht]

theorem rebound_bindNamed (h : s.statement? t = some (.remote r)) (t' : Nat) (name : String)
    (v : Value) : ∃ r', (bindNamed E t' name v s).2.statement? t = some (.remote r') ∧
      Rebound E t s (.bindNamed t' name v) r r' := by
  by_cases ht : t' = t
  · subst ht
    have hbind := bindNamed_remote (E := E) h name v
    refine ⟨r, by rw [hbind]; exact h, .of_bound_eq rfl rfl fun i ↦ ?_⟩
    simp [accepted, hbind, Except.isOk, Except.toBool]
  · refine ⟨r, ?_, .of_bound_eq rfl rfl fun i ↦ by simp [accepted, ht]⟩
    unfold bindNamed
    split
    · exact (statement?_bind_of_ne ht _ v).trans h
    · exact h

theorem rebound_answer (h : s.statement? t = some (.remote r)) (t' : Nat)
    (answer : List Value → Option Message × Result Answer) :
    ∃ r', (perform E s (.answer t' answer)).statement? t = some (.remote r') ∧
      Rebound E t s (.answer t' answer) r r' := by
  by_cases ht : t' = t
  · subst ht
    refine ⟨{ r with prepared := ⟨r.prepared.parameters, answer⟩ }, ?_, .inr ⟨answer, rfl, rfl⟩,
      fun i ↦ by simp [accepted]⟩
    simp only [perform, h]
    exact statement?_setStatement_self h _
  · refine ⟨r, ?_, .of_bound_eq rfl rfl fun i ↦ rfl⟩
    simp only [perform]
    split
    · exact (statement?_setStatement_of_ne ht _).trans h
    · exact h

theorem rebound_perform (h : s.statement? t = some (.remote r)) (op : Operation σ) :
    ∃ r', (perform E s op).statement? t = some (.remote r') ∧ Rebound E t s op r r' := by
  -- most operations give this statement no value and leave it as it is
  have hquiet : (perform E s op).statement? t = some (.remote r) →
      (∀ index, accepted E t index s op = none) →
      ∃ r', (perform E s op).statement? t = some (.remote r') ∧ Rebound E t s op r r' :=
    fun hsame hnone ↦ ⟨r, hsame, .of_bound_eq rfl rfl hnone⟩
  cases op with
  | connect url => exact hquiet ((statement?_congr (create_frame url s).1 t).trans h) fun _ ↦ rfl
  | batch id sql =>
    exact hquiet ((statement?_congr (execute_frame id sql s).1 t).trans h) fun _ ↦ rfl
  | prepare id sql => exact hquiet (statement?_prepare h id sql) fun _ ↦ rfl
  | bind t' index v => exact rebound_bind h t' index v
  | bindNamed t' name v => exact rebound_bindNamed h t' name v
  | execute t' =>
    by_cases ht : t' = t
    · subst ht
      exact ⟨_, (run_remote h).2.1, .of_bound_eq rfl rfl fun _ ↦ rfl⟩
    · exact hquiet ((statement?_run_of_ne ht).trans h) fun _ ↦ rfl
  | advance id => exact hquiet (statement?_advance h id) fun _ ↦ rfl
  | dropConnection id =>
    refine hquiet ?_ fun _ ↦ rfl
    rw [perform, dropConnection, statement?_congr (settleConnection_frame E id _).1]
    exact h
  | dropStatement t' => exact hquiet (statement?_dropStatement h t') fun _ ↦ rfl
  | dropCursor id => exact hquiet (statement?_dropCursor h id) fun _ ↦ rfl
  | buffer b => exact hquiet h fun _ ↦ rfl
  | script c => exact hquiet h fun _ ↦ rfl
  | answer t' answer => exact rebound_answer h t' answer
  | elsewhere change servers => exact hquiet h fun _ ↦ rfl

/-- After any operations a statement serves the same wire, and each parameter holds the value that
was accepted last, or what it held at first. -/
theorem bound_performAll {w : Wire} (h : s.statement? t = some (.remote r))
    (hserves : w.Serves r.prepared) {ops : List (Operation σ)}
    (hanswers : ∀ run, .answer t run ∈ ops → w.Serves ⟨w.parameters, run⟩) :
    ∃ r', (performAll E s ops).statement? t = some (.remote r') ∧ w.Serves r'.prepared ∧
      ∀ i, r'.bound[i]? =
        (r.bound[i]?).map fun old ↦ (lastAccepted E t (i + 1) s ops).getD old := by
  induction ops generalizing s r with
  | nil => exact ⟨r, h, hserves, fun i ↦ by simp [lastAccepted]⟩
  | cons op ops ih =>
    obtain ⟨r₁, h₁, hstep⟩ := rebound_perform (E := E) h op
    have hserves₁ : w.Serves r₁.prepared := by
      rcases hstep.prepared with hsame | ⟨run, rfl, hanswer⟩
      · rw [hsame]
        exact hserves
      · rw [hanswer, hserves.parameters_eq]
        exact hanswers run List.mem_cons_self
    obtain ⟨r', h', hserves', hbound⟩ :=
      ih h₁ hserves₁ fun run hrun ↦ hanswers run (List.mem_cons_of_mem _ hrun)
    refine ⟨r', h', hserves', fun i ↦ ?_⟩
    -- a value that is accepted later hides the one of this step
    rw [hbound, hstep.bound, Option.map_map, lastAccepted]
    congr 1
    funext old
    simp

theorem prepare_remote {conn : Nat} {sql : String} {c : RemoteConnection Message} {s₀ : Session σ}
    (hconn : s.connection? conn = some (.remote c)) (h : prepare E conn sql s = (.ok t, s₀)) :
    ∃ p, c.prepare sql = .ok p ∧ s₀.statement? t = some (.remote (.ofPrepared p)) := by
  simp only [prepare, hconn] at h
  split at h
  · cases h
  · rename_i p hp
    cases h
    exact ⟨p, hp, by simp [addStatement, statement?]⟩

theorem run_sent {w : Wire} {given : Nat → Option Value} (h : s.statement? t = some (.remote r))
    (hserves : w.Serves r.prepared) (hbound : r.bound = w.values given)
    (hcarries : w.Carries given) (hrefuses : ¬ s.Refuses t) :
    ∃ m, (run E t s).2.received = s.received ++ [m] ∧ w.Brings given m := by
  obtain ⟨m, hm, hbrings⟩ := hserves.run_sent hcarries fun hr ↦ hrefuses ⟨r, h, hr⟩
  rw [← hbound] at hm
  exact ⟨m, by simp [(run_remote (E := E) h).1, hm], hbrings⟩

theorem run_withheld {w : Wire} {given : Nat → Option Value}
    (h : s.statement? t = some (.remote r)) (hserves : w.Serves r.prepared)
    (hbound : r.bound = w.values given) (hwithheld : ¬ w.Carries given ∨ s.Refuses t) :
    (run E t s).2.received = s.received ∧
    ∃ code message, (run E t s).1 = .error (.native .execute code message) := by
  obtain ⟨code, message, hrun⟩ : ∃ code message,
      r.prepared.run r.bound = (none, .error (.native .execute code message)) := by
    rcases hwithheld with hcarries | ⟨r', hr', hrefuses⟩
    · rw [hbound]
      exact hserves.run_withheld hcarries
    · obtain rfl : r' = r := by
        rw [h] at hr'
        cases hr'
        rfl
      exact hrefuses.run r'.bound
  obtain ⟨hreceived, -, herror⟩ := run_remote (E := E) h
  exact ⟨by simp [hreceived, hrun], code, message, herror _ (by rw [hrun])⟩

/-- The parameters of a statement of a remote database over any history: each holds the value that
was accepted for it last, and an execution sends exactly what stands for these, null where nothing
was accepted. Nothing is sent if one of them cannot be sent or the execution is given up before.
Neither an execution nor a binding that is refused changes what the parameters hold. -/
theorem parameters_sent (engine : σ) (servers : Servers) {before : List (Operation σ)}
    {conn : Nat} {sql : String} {c : RemoteConnection Message} {s₀ : Session σ}
    (hconn : (performAll E { engine, servers } before).connection? conn = some (.remote c))
    (hprepare : prepare E conn sql (performAll E { engine, servers } before) = (.ok t, s₀)) :
    ∃ known w, knownIn servers before known ∧ known.wire? c.driver sql = some w ∧
      ∀ ops : List (Operation σ), (∀ run, .answer t run ∈ ops → w.Serves ⟨w.parameters, run⟩) →
        let s := performAll E s₀ ops
        let last (i : Nat) := lastAccepted E t (i + 1) s₀ ops
        s.bound? t = some (w.values last) ∧
        (w.Carries last → ¬ s.Refuses t →
          ∃ m, (run E t s).2.received = s.received ++ [m] ∧ w.Brings last m) ∧
        (¬ w.Carries last ∨ s.Refuses t → (run E t s).2.received = s.received ∧
          ∃ code message, (run E t s).1 = .error (.native .execute code message)) ∧
        (run E t s).2.bound? t = s.bound? t ∧
        (∀ index v, if 1 ≤ index ∧ index ≤ w.parameters then (bind E t index v s).1 = .ok ()
          else ∃ e, bind E t index v s = (.error e, s)) ∧
        ∀ name v, bindNamed E t name v s = (.error (unknownParameter name), s) := by
  have hwithin := within_knownIn (E := E) engine servers before
  obtain ⟨known, hknown, hreaches⟩ := hwithin.reached conn c hconn
  obtain ⟨p, hp, hstatement⟩ := prepare_remote hconn hprepare
  obtain ⟨w, hwire, hserves⟩ := hreaches sql p hp
  refine ⟨known, w, hknown, hwire, fun ops hanswers ↦ ?_⟩
  intro s last
  obtain ⟨r, hr, hserves', hslots⟩ := bound_performAll (E := E) hstatement hserves hanswers
  have hbound : r.bound = w.values last := by
    refine List.ext_getElem? fun i ↦ ?_
    rw [hslots i]
    by_cases hi : i < w.parameters <;>
      simp [RemoteStatement.ofPrepared, Parameters.unbound, hserves.parameters_eq, hi, last,
        Wire.values]
  have hlength : r.bound.length = w.parameters := by rw [hbound, Wire.length_values]
  refine ⟨?_, run_sent hr hserves' hbound, run_withheld hr hserves' hbound, ?_, fun index v ↦ ?_,
    bindNamed_remote hr⟩
  · simp only [bound?, s, hr, hbound]
  · simp only [bound?, (run_remote (E := E) hr).2.1, s, hr]
  · split
    · rename_i hi
      rw [← hlength] at hi
      exact congrArg Prod.fst (bind_remote_in_range hr hi v)
    · rename_i hi
      rw [← hlength] at hi
      exact bind_remote_out_of_range hr hi v

/-- Servers whose statements take two parameters, an integer and a text where they have types. The
second statement of one of them is refused when it is prepared again. -/
def twoParameters : Servers where
  postgres := { statements := [("q", { parameters := [23, 25] })] }
  mysql := { statements := [("q", { parameters := 2 }),
    ("gone", { parameters := 2, failure := some (.reprepare, ⟨"1146", "no such table"⟩) })] }
  odbc := { statements := [("q", { parameters := 2 })] }

def connectedTo (url : String) : Session Sql.World :=
  performAll Sql.engine { engine := {}, servers := twoParameters } [.connect url]

def preparedOn (url sql : String) : Session Sql.World := (prepare Sql.engine 0 sql (connectedTo url)).2

def boundTwice : List (Operation Sql.World) :=
  [.bind 0 1 (.int 7), .bind 0 1 (.int 8), .bind 0 3 .null]

def boundOn (url sql : String) : Session Sql.World :=
  performAll Sql.engine (preparedOn url sql) boundTwice

theorem brings_two {w : Wire} {v : Value} {a : Sent} (given : Nat → Option Value)
    (hparameters : w.parameters = 2) (hfirst : given 0 = some v) (hsecond : given 1 = none)
    (ha : w.Form 0 v a) :
    w.Carries given ∧ ∀ m, w.Brings given m → m.parameters? = some [a, w.null] := by
  have hslots : ∀ i sent, [a, w.null][i]? = some sent → w.Slot i (given i) sent := by
    intro i sent hi
    match i, hi with
    | 0, rfl =>
      rw [hfirst]
      exact .bound ha
    | 1, rfl =>
      rw [hsecond]
      exact .unbound
  refine ⟨fun i hi ↦ ?_, fun m hm ↦ hm.parameters?_eq hparameters.symm hslots⟩
  rw [hparameters] at hi
  exact ⟨_, hslots i _ (List.getElem?_eq_getElem hi)⟩

theorem parameters_sent_boundTwice :
    (∃ m, (run Sql.engine 0 (boundOn "pg:" "q")).2.received = [m] ∧
      m.parameters? = some [.postgres (some [0, 0, 0, 8]), .postgres none]) ∧
    (∃ m, (run Sql.engine 0 (boundOn "mysql://db" "q")).2.received = [m] ∧
      m.parameters? = some [.mysql (.int 8), .mysql .null]) ∧
    (∃ m, (run Sql.engine 0 (boundOn "odbc:DSN=db" "q")).2.received =
        [.odbc (.connect "DSN=db"), m] ∧
      m.parameters? = some [.odbc (.int 8), .odbc .null]) ∧
    (run Sql.engine 0 (boundOn "mysql://db" "gone")).2.received = [] ∧
    ∃ code message,
      (run Sql.engine 0 (boundOn "mysql://db" "gone")).1 = .error (.native .execute code message) := by
  -- what the general statement says of these bindings, whatever server they are for
  have hall : ∀ (url driver sql : String) (w : Wire),
      ((connectedTo url).connection? 0).map (·.driver) = some driver ∧ driver ≠ "sqlite" ∧
        (prepare Sql.engine 0 sql (connectedTo url)).1 = .ok 0 ∧
        twoParameters.wire? driver sql = some w →
      let s := boundOn url sql
      let last := fun i ↦ lastAccepted Sql.engine 0 (i + 1) (preparedOn url sql) boundTwice
      (w.Carries last → ¬ s.Refuses 0 →
        ∃ m, (run Sql.engine 0 s).2.received = s.received ++ [m] ∧ w.Brings last m) ∧
      (¬ w.Carries last ∨ s.Refuses 0 → (run Sql.engine 0 s).2.received = s.received ∧
        ∃ code message, (run Sql.engine 0 s).1 = .error (.native .execute code message)) := by
    rintro url driver sql w ⟨hdriver, hremote, hprepare, hwire⟩
    obtain ⟨conn, hconn, rfl⟩ := Option.map_eq_some_iff.mp hdriver
    cases conn with
    | embedded database => exact absurd rfl hremote
    | remote c =>
      have hprepared : prepare Sql.engine 0 sql (connectedTo url) = (.ok 0, preparedOn url sql) :=
        Prod.ext hprepare rfl
      obtain ⟨known, w', hknown, hwire', hops⟩ := parameters_sent _ twoParameters hconn hprepared
      obtain rfl : known = twoParameters := by simpa [knownIn] using hknown
      obtain rfl : w' = w := Option.some.inj (hwire'.symm.trans hwire)
      obtain ⟨-, hsent, hwithheld, -⟩ := hops boundTwice (by simp [boundTwice])
      rw [← boundOn] at hsent hwithheld
      exact ⟨hsent, hwithheld⟩
  have hsent : ∀ (url driver sql : String) (w : Wire) (before : List Message) (a : Sent),
      ((connectedTo url).connection? 0).map (·.driver) = some driver ∧ driver ≠ "sqlite" ∧
        (prepare Sql.engine 0 sql (connectedTo url)).1 = .ok 0 ∧
        twoParameters.wire? driver sql = some w →
      w.parameters = 2 ∧
        lastAccepted Sql.engine 0 1 (preparedOn url sql) boundTwice = some (.int 8) ∧
        lastAccepted Sql.engine 0 2 (preparedOn url sql) boundTwice = none ∧
        (boundOn url sql).received = before ∧
        (run Sql.engine 0 (boundOn url sql)).2.received ≠ before →
      w.Form 0 (.int 8) a →
      ∃ m, (run Sql.engine 0 (boundOn url sql)).2.received = before ++ [m] ∧
        m.parameters? = some [a, w.null] := by
    rintro url driver sql w before a hready ⟨hparameters, hfirst, hsecond, hbefore, hafter⟩ ha
    obtain ⟨hsent, hwithheld⟩ := hall url driver sql w hready
    obtain ⟨hcarries, hbrings⟩ :=
      brings_two (fun i ↦ lastAccepted Sql.engine 0 (i + 1) (preparedOn url sql) boundTwice)
        hparameters hfirst hsecond ha
    rw [hbefore] at hsent hwithheld
    obtain ⟨m, hreceived, hm⟩ :=
      hsent hcarries fun hrefuses ↦ hafter (hwithheld (.inr hrefuses)).1
    exact ⟨m, hreceived, hbrings m hm⟩
  refine ⟨?_, ?_, ?_, ?_⟩
  · exact hsent "pg:" "postgresql" "q" (.postgres [23, 25]) [] _ (by decide +kernel)
      (by decide +kernel) (.postgres rfl (Postgres.form_iff.mpr (by decide +kernel)))
  · exact hsent "mysql://db" "mariadb" "q" (.mysql 2) [] _ (by decide +kernel)
      (by decide +kernel) (.mysql (.int rfl))
  · exact hsent "odbc:DSN=db" "odbc" "q" (.odbc 2) [.odbc (.connect "DSN=db")] _
      (by decide +kernel) (by decide +kernel) (.odbc (.int 8))
  · have hwithheld := (hall "mysql://db" "mariadb" "gone" (.mysql 2) (by decide +kernel)).2
    have hbefore : (boundOn "mysql://db" "gone").received = [] := by decide +kernel
    have hrefuses : (boundOn "mysql://db" "gone").Refuses 0 := ⟨_, rfl, .mysql rfl⟩
    rw [hbefore] at hwithheld
    exact hwithheld (.inr hrefuses)

end SqlGateway.Session
