import SqlGateway.Proofs.Remote.Wire
import SqlGateway.Proofs.Session.History

namespace SqlGateway.Session

variable {σ : Type} {E : Sqlite.Engine σ} {s s' : Session σ}

def outward (s : Session σ) : List Connection × Servers := (s.connections.map (·.item), s.servers)

theorem connection?_eq (s : Session σ) (id : Nat) : s.connection? id = s.outward.1[id]? := by
  simp [connection?, outward]

theorem outward_bind (t index : Nat) (v : Value) (s : Session σ) :
    (bind E t index v s).2.outward = s.outward := by
  unfold bind
  split
  · rfl
  · split <;> rfl
  · rfl

theorem outward_run (t : Nat) (s : Session σ) : (run E t s).2.outward = s.outward := by
  unfold run
  split
  · rfl
  · simp only
    split <;> rfl
  · simp only
    split <;> rfl

theorem outward_prepare (id : Nat) (sql : String) (s : Session σ) :
    (prepare E id sql s).2.outward = s.outward := by
  unfold prepare
  split
  · rfl
  · split <;> rfl
  · split <;> rfl

theorem outward_execute (id : Nat) (sql : String) (s : Session σ) :
    (execute E id sql s).2.outward = s.outward := by
  unfold execute
  split <;> rfl

theorem outward_advance (id : Nat) (s : Session σ) : (advance E id s).2.outward = s.outward := by
  unfold advance
  split
  · rfl
  · split <;> rfl
  · rfl
  · rfl
  · rfl

theorem outward_settleConnection (id : Nat) (s : Session σ) :
    (settleConnection E id s).outward = s.outward := by
  unfold settleConnection
  split
  · split <;> rfl
  · rfl

theorem outward_settleStatement (t : Nat) (s : Session σ) :
    (settleStatement E t s).outward = s.outward := by
  unfold settleStatement
  split
  · rfl
  · split
    · rfl
    · rename_i slot _ _
      cases slot.item with
      | embedded n => exact outward_settleConnection slot.connection _
      | remote r => exact outward_settleConnection slot.connection s

theorem outward_dropConnection (id : Nat) (s : Session σ) :
    (dropConnection E id s).outward = s.outward := by
  refine (outward_settleConnection id _).trans (Prod.ext (List.ext_getElem? fun j ↦ ?_) rfl)
  simp only [outward, List.getElem?_map, List.getElem?_modify]
  cases s.connections[j]? with
  | none => rfl
  | some slot => by_cases h : id = j <;> simp [h]

theorem outward_dropCursor (id : Nat) (s : Session σ) :
    (dropCursor E id s).outward = s.outward := by
  unfold dropCursor
  split
  · split
    · exact outward_settleStatement _ _
    · rfl
  · exact outward_settleStatement _ _
  · rfl

/-- Every server that the session knows or that a connection of it reaches is among these. -/
structure Within (all : Servers → Prop) (s : Session σ) : Prop where
  servers : all s.servers
  reached : ∀ id c, s.connection? id = some (.remote c) → ∃ known, all known ∧ c.Reaches known

variable {all : Servers → Prop}

theorem Within.congr (h : Within all s) (hout : s'.outward = s.outward) : Within all s' where
  servers := by
    have hservers : s'.servers = s.servers := congrArg Prod.snd hout
    rw [hservers]
    exact h.servers
  reached id c hc := h.reached id c (by rw [connection?_eq, ← hout, ← connection?_eq, hc])

theorem Within.addConnection (h : Within all s) {conn : Connection}
    (hnew : ∀ c, conn = .remote c → c.Reaches s.servers) :
    Within all (s.addConnection conn).2 := by
  refine ⟨h.servers, fun id c hc ↦ ?_⟩
  simp only [Session.addConnection, connection?] at hc
  rcases Nat.lt_trichotomy id s.connections.length with hid | rfl | hid
  · rw [List.getElem?_append_left hid] at hc
    exact h.reached id c hc
  · simp only [List.getElem?_concat_length, Option.map_some, Option.some.injEq] at hc
    exact ⟨s.servers, h.servers, hnew c hc⟩
  · rw [List.getElem?_eq_none (by simpa using Nat.succ_le_of_lt hid)] at hc
    cases hc

theorem Within.openRemote (h : Within all s) {r : Result (RemoteConnection Message)}
    (hr : ∀ c, r = .ok c → c.Reaches s.servers) : Within all (openRemote r s).2 := by
  cases r with
  | error e => exact h
  | ok c =>
    refine h.addConnection fun c' hc' ↦ ?_
    cases hc'
    exact hr c rfl

theorem Within.openEmbedded (h : Within all s) (target : String) :
    Within all (openEmbedded E target s).2 := by
  unfold Session.openEmbedded
  split
  · exact h.congr rfl
  · rename_i database engine _
    have hengine : Within all { s with engine } := h.congr rfl
    exact hengine.addConnection fun c hc ↦ by cases hc

theorem Within.connect (h : Within all s) (url : String) :
    Within all ((catalog E).create url s).2 := by
  rcases Catalog.create_cases (drivers E) url s with hsame | ⟨d, hd, scheme, target, hopened⟩
  · rw [catalog, catalogOf, hsame]
    exact h
  · rw [catalog, catalogOf, hopened]
    simp only [drivers, List.mem_cons, List.not_mem_nil, or_false] at hd
    rcases hd with rfl | rfl | rfl | rfl
    · exact h.openEmbedded target
    · simp only [postgresql]
      exact h.openRemote fun c hc ↦ Servers.reaches_postgres hc
    · simp only [mariadb]
      exact h.openRemote fun c hc ↦ Servers.reaches_mysql hc
    · simp only [odbc]
      have hreceive : Within all (s.receive ((s.servers.odbc.connect target).1.map .odbc)) :=
        h.congr rfl
      exact hreceive.openRemote fun c hc ↦ Servers.reaches_odbc hc

theorem Within.perform (h : Within all s) {op : Operation σ}
    (hop : ∀ change servers, op = .elsewhere change servers → all servers) :
    Within all (perform E s op) := by
  cases op with
  | connect url => exact h.connect url
  | batch id sql => exact h.congr (outward_execute id sql s)
  | prepare id sql => exact h.congr (outward_prepare id sql s)
  | bind t index v => exact h.congr (outward_bind t index v s)
  | bindNamed t name v =>
    refine h.congr (?_ : (bindNamed E t name v s).2.outward = s.outward)
    unfold bindNamed
    split
    · exact outward_bind ..
    · rfl
  | execute t => exact h.congr (outward_run t s)
  | advance id => exact h.congr (outward_advance id s)
  | dropConnection id => exact h.congr (outward_dropConnection id s)
  | dropStatement t => exact h.congr (outward_settleStatement t _)
  | dropCursor id => exact h.congr (outward_dropCursor id s)
  | buffer b => exact h.congr rfl
  | script c => exact h.congr rfl
  | answer t run =>
    refine h.congr ?_
    simp only [Session.perform]
    split <;> rfl
  | elsewhere change servers => exact ⟨hop change servers rfl, h.reached⟩

theorem Within.performAll (h : Within all s) {ops : List (Operation σ)}
    (hops : ∀ change servers, .elsewhere change servers ∈ ops → all servers) :
    Within all (performAll E s ops) := by
  induction ops generalizing s with
  | nil => exact h
  | cons op ops ih =>
    refine ih (h.perform fun change servers hop ↦ hops change servers (by simp [hop])) ?_
    exact fun change servers hop ↦ hops change servers (List.mem_cons_of_mem _ hop)

def knownIn (servers : Servers) (ops : List (Operation σ)) (known : Servers) : Prop :=
  known = servers ∨ ∃ change, .elsewhere change known ∈ ops

theorem within_knownIn (engine : σ) (servers : Servers) (ops : List (Operation σ)) :
    Within (knownIn servers ops) (performAll E { engine, servers } ops) := by
  have hstart : Within (knownIn servers ops) ({ engine, servers } : Session σ) :=
    ⟨.inl rfl, fun id c hc ↦ by simp [connection?] at hc⟩
  exact hstart.performAll fun change known hop ↦ .inr ⟨change, hop⟩

end SqlGateway.Session
