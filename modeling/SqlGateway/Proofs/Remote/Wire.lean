import SqlGateway.Proofs.Remote.Forms
import SqlGateway.Proofs.Success
import SqlGateway.Session.Basic

namespace SqlGateway

/-- One parameter as a server receives it. -/
inductive Sent where
  | postgres (cell : Option Blob)
  | mysql (cell : MySql.Cell)
  | odbc (parameter : Odbc.Parameter)
deriving DecidableEq, Repr

def Message.parameters? : Message → Option (List Sent)
  | .postgres ps => some (ps.map .postgres)
  | .mysql ps => some (ps.map .mysql)
  | .odbc (.execute ps) => some (ps.map .odbc)
  | .odbc (.connect _) => none

/-- How the parameters of a statement travel. PostgreSQL expects a type of each, the others only
know how many there are. -/
inductive Wire where
  | postgres (types : List Nat)
  | mysql (count : Nat)
  | odbc (count : Nat)
deriving DecidableEq, Repr

namespace Wire

def parameters : Wire → Nat
  | postgres types => types.length
  | mysql count | odbc count => count

def null : Wire → Sent
  | postgres _ => .postgres none
  | mysql _ => .mysql .null
  | odbc _ => .odbc .null

/-- What stands for a value in place `i`. -/
inductive Form (i : Nat) : Wire → Value → Sent → Prop where
  | postgres {types : List Nat} {type : Nat} {v : Value} {cell : Option Blob}
      (htype : types[i]? = some type) (h : Postgres.Form type v cell) :
      Form i (.postgres types) v (.postgres cell)
  | mysql {count : Nat} {v : Value} {cell : MySql.Cell} (h : MySql.Form v cell) :
      Form i (.mysql count) v (.mysql cell)
  | odbc {count : Nat} {v : Value} {p : Odbc.Parameter} (h : Odbc.Form v p) :
      Form i (.odbc count) v (.odbc p)

/-- What stands for the value that place `i` was given, null if it was given none. -/
inductive Slot (w : Wire) (i : Nat) : Option Value → Sent → Prop where
  | unbound : Slot w i none w.null
  | bound {v : Value} {sent : Sent} (h : w.Form i v sent) : Slot w i (some v) sent

def values (w : Wire) (given : Nat → Option Value) : List Value :=
  (List.range w.parameters).map fun i ↦ (given i).getD .absent

/-- Everything that the places were given can be sent. -/
def Carries (w : Wire) (given : Nat → Option Value) : Prop :=
  ∀ i < w.parameters, ∃ sent, w.Slot i (given i) sent

/-- The message has exactly one parameter for each place. -/
def Brings (w : Wire) (given : Nat → Option Value) (m : Message) : Prop :=
  ∃ ps, m.parameters? = some ps ∧ ps.length = w.parameters ∧
    ∀ i sent, ps[i]? = some sent → w.Slot i (given i) sent

/-- The driver runs a statement over this wire, whatever the server makes of it. -/
inductive Serves : Wire → Prepared Message → Prop
  | postgres (s : Postgres.Script) :
    Serves (.postgres s.parameters)
      ((⟨s.parameters.length, s.run⟩ : Prepared (List (Option Blob))).map .postgres)
  | mysql (s : MySql.Script) :
    Serves (.mysql s.parameters) ((⟨s.parameters, s.run⟩ : Prepared (List MySql.Cell)).map .mysql)
  | odbc (s : Odbc.Script) :
    Serves (.odbc s.parameters) ((⟨s.parameters, s.run⟩ : Prepared Odbc.Message).map .odbc)

end Wire

/-- Executions are given up before anything is sent: the client has lost the server, or the server
refuses the text when it is prepared again. -/
inductive Prepared.Refuses : Prepared Message → Prop
  | postgres {s : Postgres.Script} {r : Postgres.Rejection} (h : s.failure = some (.send, r)) :
    Refuses ((⟨s.parameters.length, s.run⟩ : Prepared (List (Option Blob))).map .postgres)
  | mysql {s : MySql.Script} {r : MySql.Rejection} (h : s.failure = some (.reprepare, r)) :
    Refuses ((⟨s.parameters, s.run⟩ : Prepared (List MySql.Cell)).map .mysql)

/-- How the parameters of a text travel to the server that a driver reaches, if it has the text. -/
def Servers.wire? (servers : Servers) (driver sql : String) : Option Wire :=
  match driver with
  | "postgresql" => (servers.postgres.statements.lookup sql).map fun s ↦ .postgres s.parameters
  | "mariadb" => (servers.mysql.statements.lookup sql).map fun s ↦ .mysql s.parameters
  | "odbc" => (servers.odbc.statements.lookup sql).map fun s ↦ .odbc s.parameters
  | _ => none

def RemoteConnection.Reaches (c : RemoteConnection Message) (servers : Servers) : Prop :=
  ∀ sql p, c.prepare sql = .ok p → ∃ w, servers.wire? c.driver sql = some w ∧ w.Serves p

namespace Postgres

theorem encodeFrom_ok {n : Nat} {types : List Nat} {vs : List Value} {ps : List (Option Blob)}
    (h : encodeFrom n types vs = .ok ps) (hlen : vs.length = types.length) :
    ps.length = vs.length ∧ ∀ (i type : Nat) (v : Value), types[i]? = some type →
      vs[i]? = some v → ∃ cell, encode type v = .ok cell ∧ ps[i]? = some cell := by
  induction types generalizing n vs ps with
  | nil =>
    obtain rfl := List.eq_nil_of_length_eq_zero hlen
    simp only [encodeFrom, Except.ok.injEq] at h
    subst h
    exact ⟨rfl, fun i type v htype ↦ by simp at htype⟩
  | cons type types ih =>
    match vs, hlen with
    | v :: vs, hlen =>
      cases hcell : encode type v with
      | error e => simp [encodeFrom, hcell] at h
      | ok cell =>
        simp only [encodeFrom, hcell] at h
        obtain ⟨rest, hrest, rfl⟩ := map_eq_ok_iff.mp h
        obtain ⟨hlength, hcells⟩ := ih hrest (Nat.succ.inj hlen)
        refine ⟨by simpa using hlength, fun i type' v' htype hv ↦ ?_⟩
        cases i with
        | zero =>
          cases htype
          cases hv
          exact ⟨cell, hcell, rfl⟩
        | succ i => exact hcells i type' v' htype hv

theorem encodeFrom_error {n : Nat} {types : List Nat} {vs : List Value} {e : Error}
    (h : encodeFrom n types vs = .error e) : ∃ message, e = .native .execute "XX000" message := by
  induction n, types, vs using encodeFrom.induct with
  | case1 n type types v vs e' he =>
    simp only [encodeFrom, he, Except.error.injEq] at h
    exact ⟨_, h.symm⟩
  | case2 n type types v vs cell hcell ih =>
    cases hrest : encodeFrom (n + 1) types vs with
    | error e' =>
      simp only [encodeFrom, hcell, hrest, Except.map, Except.error.injEq] at h
      exact ih (h ▸ hrest)
    | ok rest => simp [encodeFrom, hcell, hrest, Except.map] at h
  | case3 n types vs hshape => simp [encodeFrom] at h

theorem exists_encodeFrom {types : List Nat} {vs : List Value} (n : Nat)
    (h : ∀ (i type : Nat) (v : Value), types[i]? = some type → vs[i]? = some v →
      ∃ cell, encode type v = .ok cell) : ∃ ps, encodeFrom n types vs = .ok ps := by
  induction n, types, vs using encodeFrom.induct with
  | case1 n type types v vs e' he =>
    obtain ⟨cell, hcell⟩ := h 0 type v rfl rfl
    rw [he] at hcell
    cases hcell
  | case2 n type types v vs cell hcell ih =>
    obtain ⟨rest, hrest⟩ := ih fun i type' v' htype hv ↦ h (i + 1) type' v' htype hv
    exact ⟨cell :: rest, by simp [encodeFrom, hcell, hrest, Except.map]⟩
  | case3 n types vs hshape => exact ⟨[], by simp [encodeFrom]⟩

end Postgres

theorem Prepared.Refuses.run {p : Prepared Message} (h : p.Refuses) (vs : List Value) :
    ∃ code message, p.run vs = (none, .error (.native .execute code message)) := by
  cases h with
  | @postgres s r h =>
    cases hall : Postgres.encodeAll s.parameters vs with
    | ok cells =>
      exact ⟨r.code, r.message, by simp [map, Postgres.Script.run, hall, h, Postgres.failed]⟩
    | error e =>
      obtain ⟨message, rfl⟩ := Postgres.encodeFrom_error hall
      exact ⟨"XX000", message, by simp [map, Postgres.Script.run, hall]⟩
  | @mysql s r h => exact ⟨r.code, r.message, by simp [map, MySql.Script.run, h, MySql.failed]⟩

namespace Wire

variable {w : Wire} {p : Prepared Message} {given : Nat → Option Value} {i : Nat} {sent : Sent}

theorem Form.eq_null (h : w.Form i .absent sent) : sent = w.null := by
  cases h with
  | postgres htype h =>
    cases h with
    | null => rfl
    | octets hv => cases hv
  | mysql h =>
    cases h
    rfl
  | odbc h =>
    cases h
    rfl

theorem form_null (h : i < w.parameters) : w.Form i .absent w.null := by
  cases w with
  | postgres types => exact .postgres (List.getElem?_eq_getElem h) (.null rfl)
  | mysql count => exact .mysql .absent
  | odbc count => exact .odbc .absent

theorem slot_iff (h : i < w.parameters) (v : Option Value) :
    w.Slot i v sent ↔ w.Form i (v.getD .absent) sent := by
  cases v with
  | none =>
    constructor
    · rintro ⟨⟩
      exact form_null h
    · intro hform
      obtain rfl := hform.eq_null
      exact .unbound
  | some v =>
    constructor
    · rintro (_ | hform)
      exact hform
    · exact .bound

theorem getElem?_values (h : i < w.parameters) :
    (w.values given)[i]? = some ((given i).getD .absent) := by
  simp [values, h]

@[simp]
theorem length_values : (w.values given).length = w.parameters := by simp [values]

theorem Form.unique {sent' : Sent} {v : Value} (h : w.Form i v sent) (h' : w.Form i v sent') :
    sent = sent' := by
  cases h with
  | postgres htype h =>
    cases h' with
    | postgres htype' h' =>
      obtain rfl := Option.some.inj (htype.symm.trans htype')
      have hsame := (Postgres.form_iff.mp h).symm.trans (Postgres.form_iff.mp h')
      exact congrArg _ (Except.ok.inj hsame)
  | mysql h =>
    cases h' with
    | mysql h' => exact congrArg _ (h.eq_encode.trans h'.eq_encode.symm)
  | odbc h =>
    cases h' with
    | odbc h' => exact congrArg _ (h.eq_ofValue.trans h'.eq_ofValue.symm)

/-- A message that brings what was given is determined by it. -/
theorem Brings.parameters?_eq {m : Message} {ps : List Sent} (h : w.Brings given m)
    (hlength : ps.length = w.parameters)
    (hslots : ∀ i sent, ps[i]? = some sent → w.Slot i (given i) sent) :
    m.parameters? = some ps := by
  obtain ⟨ps', hm, hlength', hslots'⟩ := h
  rw [hm]
  refine congrArg some (List.ext_getElem (hlength'.trans hlength.symm) fun i hi hi' ↦ ?_)
  have hslot := hslots' i _ (List.getElem?_eq_getElem hi)
  have hslot' := hslots i _ (List.getElem?_eq_getElem hi')
  rw [slot_iff (hlength ▸ hi')] at hslot hslot'
  exact hslot.unique hslot'

theorem Serves.parameters_eq (h : w.Serves p) : p.parameters = w.parameters := by
  cases h <;> rfl

theorem slot_encodeAll {types : List Nat} {cells : List (Option Blob)}
    (h : Postgres.encodeAll types ((postgres types).values given) = .ok cells) :
    cells.length = types.length ∧
    ∀ i cell, cells[i]? = some cell → (postgres types).Slot i (given i) (.postgres cell) := by
  obtain ⟨hvalues, hcells⟩ := Postgres.encodeFrom_ok h length_values
  have hlength : cells.length = types.length := hvalues.trans length_values
  refine ⟨hlength, fun i cell hcell ↦ ?_⟩
  have hi : i < types.length := hlength ▸ (List.getElem?_eq_some_iff.mp hcell).1
  have htype : types[i]? = some types[i] := List.getElem?_eq_getElem hi
  obtain ⟨cell', hencode, hcell'⟩ := hcells i _ _ htype (getElem?_values hi)
  obtain rfl : cell' = cell := Option.some.inj (hcell'.symm.trans hcell)
  exact (slot_iff hi _).mpr (.postgres htype (Postgres.form_iff.mpr hencode))

theorem exists_encodeAll {types : List Nat} (h : (postgres types).Carries given) :
    ∃ cells, Postgres.encodeAll types ((postgres types).values given) = .ok cells := by
  refine Postgres.exists_encodeFrom 0 fun i type v htype hv ↦ ?_
  have hi : i < types.length := (List.getElem?_eq_some_iff.mp htype).1
  obtain rfl := Option.some.inj ((getElem?_values hi).symm.trans hv)
  obtain ⟨sent, hslot⟩ := h i hi
  cases (slot_iff hi _).mp hslot with
  | postgres htype' hform =>
    obtain rfl := Option.some.inj (htype'.symm.trans htype)
    exact ⟨_, Postgres.form_iff.mp hform⟩

theorem carries_mysql (count : Nat) (given : Nat → Option Value) :
    (mysql count).Carries given :=
  fun _ hi ↦ ⟨_, (slot_iff hi _).mpr (.mysql (MySql.form_encode _))⟩

theorem carries_odbc (count : Nat) (given : Nat → Option Value) : (odbc count).Carries given :=
  fun _ hi ↦ ⟨_, (slot_iff hi _).mpr (.odbc (Odbc.form_ofValue _))⟩

theorem brings_map {α : Type} {m : Message} {f : Value → α} {g : α → Sent}
    (hm : m.parameters? = some (((w.values given).map f).map g))
    (hform : ∀ i v, w.Form i v (g (f v))) : w.Brings given m := by
  refine ⟨_, hm, by simp, fun i sent hsent ↦ ?_⟩
  have hi : i < w.parameters := by simpa using (List.getElem?_eq_some_iff.mp hsent).1
  obtain rfl : g (f ((given i).getD .absent)) = sent := by
    simpa [getElem?_values hi] using hsent
  exact (slot_iff hi _).mpr (hform i _)

theorem Serves.run_sent (h : w.Serves p) (hcarries : w.Carries given) (hrefuses : ¬ p.Refuses) :
    ∃ m, (p.run (w.values given)).1 = some m ∧ w.Brings given m := by
  cases h with
  | postgres s =>
    obtain ⟨cells, hall⟩ := exists_encodeAll hcarries
    obtain ⟨hlength, hslots⟩ := slot_encodeAll hall
    refine ⟨.postgres cells, ?_, cells.map .postgres, rfl, by rwa [List.length_map], ?_⟩
    · simp only [Prepared.map, Postgres.Script.run, hall]
      split
      · rename_i r hfailure
        exact absurd (.postgres hfailure) hrefuses
      · rfl
      · rfl
      · rfl
    · intro i sent hsent
      obtain ⟨cell, hcell, rfl⟩ := by simpa using hsent
      exact hslots i cell hcell
  | mysql s =>
    refine ⟨.mysql ((values _ given).map .encode), ?_, brings_map rfl fun i v ↦
      .mysql (MySql.form_encode v)⟩
    simp only [Prepared.map, MySql.Script.run]
    split
    · rename_i r hfailure
      exact absurd (.mysql hfailure) hrefuses
    · rfl
    · rfl
    · rfl
  | odbc s =>
    exact ⟨.odbc (.execute ((values _ given).map .ofValue)), rfl, brings_map rfl fun i v ↦
      .odbc (Odbc.form_ofValue v)⟩

theorem Serves.run_withheld (h : w.Serves p) (hcarries : ¬ w.Carries given) :
    ∃ code message,
      p.run (w.values given) = (none, .error (.native .execute code message)) := by
  cases h with
  | postgres s =>
    cases hall : Postgres.encodeAll s.parameters ((Wire.postgres s.parameters).values given) with
    | ok cells =>
      obtain ⟨hlength, hslots⟩ := slot_encodeAll hall
      refine absurd (fun i hi ↦ ?_) hcarries
      have hcell := List.getElem?_eq_getElem (hlength ▸ hi : i < cells.length)
      exact ⟨_, hslots i _ hcell⟩
    | error e =>
      obtain ⟨message, rfl⟩ := Postgres.encodeFrom_error hall
      exact ⟨"XX000", message, by simp [Prepared.map, Postgres.Script.run, hall]⟩
  | mysql s => exact absurd (carries_mysql _ given) hcarries
  | odbc s => exact absurd (carries_odbc _ given) hcarries

end Wire

theorem Postgres.Server.prepare_ok {server : Postgres.Server} {sql : String}
    {p : Prepared (List (Option Blob))} (h : server.prepare sql = .ok p) :
    ∃ s, server.statements.lookup sql = some s ∧ p = ⟨s.parameters.length, s.run⟩ := by
  unfold prepare at h
  split at h
  · cases h
  · rename_i s hs
    split at h
    · cases h
    · cases h
      exact ⟨s, hs, rfl⟩

theorem Postgres.Server.connect_ok {server : Postgres.Server}
    {c : RemoteConnection (List (Option Blob))} (h : server.connect = .ok c) :
    c.driver = "postgresql" ∧ c.prepare = server.prepare := by
  unfold connect at h
  split at h
  · cases h
  · cases h
    exact ⟨rfl, rfl⟩

theorem MySql.Server.prepare_ok {server : MySql.Server} {sql : String}
    {p : Prepared (List MySql.Cell)} (h : server.prepare sql = .ok p) :
    ∃ s, server.statements.lookup sql = some s ∧ p = ⟨s.parameters, s.run⟩ := by
  unfold prepare at h
  split at h
  · cases h
  · rename_i s hs
    split at h
    · cases h
    · cases h
      exact ⟨s, hs, rfl⟩

theorem MySql.Server.connect_ok {server : MySql.Server} {target : String}
    {c : RemoteConnection (List MySql.Cell)} (h : server.connect target = .ok c) :
    c.driver = "mariadb" ∧ c.prepare = server.prepare := by
  unfold connect at h
  split at h
  · cases h
  · split at h
    · cases h
    · cases h
      exact ⟨rfl, rfl⟩

theorem Odbc.Source.prepare_ok {source : Odbc.Source} {sql : String} {p : Prepared Odbc.Message}
    (h : source.prepare sql = .ok p) :
    ∃ s, source.statements.lookup sql = some s ∧ p = ⟨s.parameters, s.run⟩ := by
  unfold prepare at h
  split at h
  · cases h
  · rename_i s hs
    split at h
    · cases h
    · cases h
      exact ⟨s, hs, rfl⟩

theorem Odbc.Source.connect_ok {source : Odbc.Source} {target : String}
    {c : RemoteConnection Odbc.Message} (h : (source.connect target).2 = .ok c) :
    c.driver = "odbc" ∧ c.prepare = source.prepare := by
  simp only [connect] at h
  split at h
  · cases h
  · simp only at h
    split at h
    · cases h
    · cases h
      exact ⟨rfl, rfl⟩

namespace Servers

variable {servers : Servers} {c : RemoteConnection Message}

theorem reaches_map {ω : Type} {f : ω → Message} {r : Result (RemoteConnection ω)}
    (h : r.map (·.map f) = .ok c)
    (hprepare : ∀ c₀, r = .ok c₀ → ∀ sql p, c₀.prepare sql = .ok p →
      ∃ w, servers.wire? c₀.driver sql = some w ∧ w.Serves (p.map f)) : c.Reaches servers := by
  intro sql p hp
  obtain ⟨c₀, hc₀, rfl⟩ := map_eq_ok_iff.mp h
  obtain ⟨p₀, hp₀, rfl⟩ := map_eq_ok_iff.mp hp
  exact hprepare c₀ hc₀ sql p₀ hp₀

theorem reaches_postgres (h : servers.postgres.connect.map (·.map .postgres) = .ok c) :
    c.Reaches servers := by
  refine reaches_map h fun c₀ hc₀ sql p hp ↦ ?_
  obtain ⟨hdriver, hprepare⟩ := Postgres.Server.connect_ok hc₀
  rw [hprepare] at hp
  obtain ⟨s, hs, rfl⟩ := Postgres.Server.prepare_ok hp
  exact ⟨.postgres s.parameters, by simp [wire?, hdriver, hs], .postgres s⟩

theorem reaches_mysql {target : String}
    (h : (servers.mysql.connect target).map (·.map .mysql) = .ok c) : c.Reaches servers := by
  refine reaches_map h fun c₀ hc₀ sql p hp ↦ ?_
  obtain ⟨hdriver, hprepare⟩ := MySql.Server.connect_ok hc₀
  rw [hprepare] at hp
  obtain ⟨s, hs, rfl⟩ := MySql.Server.prepare_ok hp
  exact ⟨.mysql s.parameters, by simp [wire?, hdriver, hs], .mysql s⟩

theorem reaches_odbc {target : String}
    (h : (servers.odbc.connect target).2.map (·.map .odbc) = .ok c) : c.Reaches servers := by
  refine reaches_map h fun c₀ hc₀ sql p hp ↦ ?_
  obtain ⟨hdriver, hprepare⟩ := Odbc.Source.connect_ok hc₀
  rw [hprepare] at hp
  obtain ⟨s, hs, rfl⟩ := Odbc.Source.prepare_ok hp
  exact ⟨.odbc s.parameters, by simp [wire?, hdriver, hs], .odbc s⟩

end Servers
end SqlGateway
