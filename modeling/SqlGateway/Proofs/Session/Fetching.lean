import SqlGateway.Proofs.Session.Nulls
import SqlGateway.Sql.World

namespace SqlGateway

namespace Odbc

variable {fields : List Field} {f : Field} {cells : List Cell} {cell : Cell} {j : Nat}

theorem decode_eq_null_iff (type : DataType) :
    decode type.valueType cell = .ok .null ↔ cell = none := by
  constructor
  · intro hnull
    cases cell with
    | none => rfl
    | some octets =>
      cases type with
      | char | varchar | longVarchar | wideChar | wideVarchar => cases hnull
      | unknown | date | time | timestamp | other => cases hnull
      | _ =>
        obtain ⟨_, -, hvalue⟩ := map_eq_ok_iff.mp hnull
        cases hvalue
  · rintro rfl
    rfl

theorem value_eq_null_iff (hlength : cells.length = fields.length) (hfield : fields[j]? = some f)
    (hcell : cells[j]? = some cell) :
    (liveRow (columnsOf fields) cells).value j = .ok .null ↔ cell = none := by
  have hvalue := value_liveRow hfield hcell
  rw [rowOf_of_length hlength] at hvalue
  rw [hvalue]
  exact decode_eq_null_iff f.type

theorem map_rowOf {rows : Block} {count : Nat} (h : ∀ cells ∈ rows, cells.length = count) :
    rows.map (rowOf count) = rows := by
  have hsame : ∀ cells ∈ rows, rowOf count cells = id cells :=
    fun cells hcells ↦ rowOf_of_length (h cells hcells)
  rw [List.map_congr_left hsame, List.map_id]

theorem answer_opened (result : Option ResultSet) (rowCount : Option UInt64) :
    answer (.ok ⟨result, .ok rowCount⟩) = (drain result).map fun (columns, rows) ↦
      ⟨columns, rows.map (liveRow columns), ⟨rowCount.getD 0, 0⟩⟩ := by
  change (do
    let (columns, rows) ← drain result
    return (⟨columns, rows.map (liveRow columns), ⟨rowCount.getD 0, 0⟩⟩ : Answer)) = _
  cases drain result <;> rfl

end Odbc

namespace Session

open Odbc (Block Field Fits Reports ResultSet FetchFault columnsOf blockRows drain)

variable {σ : Type} {E : Sqlite.Engine σ} {s : Session σ} {t : Nat} {r : RemoteStatement Message}
  {result : ResultSet} {rowCount : Option UInt64} {fields : List Field} {limits : List Nat}
  {blocks : List Block}

/-- The next execution of a statement opens this result over an ODBC client. -/
structure Opens (s : Session σ) (t : Nat) (r : RemoteStatement Message) (result : ResultSet)
    (rowCount : Option UInt64) : Prop where
  statement_eq : s.statement? t = some (.remote r)
  client : ∃ n client, r.prepared.run = ((Odbc.prepared n client).map .odbc).run ∧
    client (r.bound.map Odbc.Parameter.ofValue) = .ok ⟨some result, .ok rowCount⟩

theorem Opens.answer_eq (h : Opens s t r result rowCount) :
    (r.prepared.run r.bound).2 = (drain (some result)).map fun (columns, rows) ↦
      ⟨columns, rows.map (Odbc.liveRow columns), ⟨rowCount.getD 0, 0⟩⟩ := by
  obtain ⟨n, client, hrun, hclient⟩ := h.client
  have hanswer : (r.prepared.run r.bound).2 =
      Odbc.answer (client (r.bound.map Odbc.Parameter.ofValue)) := by
    rw [hrun]
    rfl
  rw [hanswer, hclient, Odbc.answer_opened]

/-- Blocks arrive as they were asked for: not more rows than the buffers have slots for, each with
a cell for every column. -/
def InShape (fields : List Field) (arrivals : List (Except FetchFault Block)) : Prop :=
  ∀ block, .ok block ∈ arrivals → block.length ≤ blockRows ∧
    ∀ cells ∈ block, cells.length = fields.length

theorem ok_mem_arrivals {block : Block} {later : List (Except FetchFault Block)}
    (harrivals : result.arrivals = blocks.map .ok ++ later) (hmem : block ∈ blocks) :
    .ok block ∈ result.arrivals := by
  rw [harrivals]
  exact List.mem_append_left _ (List.mem_map_of_mem hmem)

theorem run_delivered (hopens : Opens s t r result rowCount) (hshows : result.Shows fields limits)
    (hfields : fields ≠ []) (hcount : fields.length ≤ 65535)
    (hshape : InShape fields result.arrivals) (harrivals : result.arrivals = blocks.map .ok)
    (hfits : ∀ block ∈ blocks, Fits limits block) :
    drain (some result) = .ok (columnsOf fields, blocks.flatten) ∧
    (∀ cells ∈ blocks.flatten, cells.length = fields.length) ∧
    (run E t s).1 = .ok s.cursors.length ∧
    (run E t s).2.cursor? s.cursors.length = some (.fetched t
      { columns := columnsOf fields
        rows := blocks.flatten.map (Odbc.liveRow (columnsOf fields))
        stats := ⟨rowCount.getD 0, 0⟩
        generation := (run E t s).2.generation t }) := by
  have hblocks : ∀ block ∈ blocks, block.length ≤ blockRows ∧
      ∀ cells ∈ block, cells.length = fields.length :=
    fun block hmem ↦ hshape block (ok_mem_arrivals (harrivals.trans (List.append_nil _).symm) hmem)
  have hwidth : ∀ cells ∈ blocks.flatten, cells.length = fields.length := by
    intro cells hcells
    obtain ⟨block, hblock, hmem⟩ := List.mem_flatten.mp hcells
    exact (hblocks block hblock).2 cells hmem
  have hdrain := Odbc.drain_blocks hshows hfields hcount hfits
    (fun block hmem ↦ (hblocks block hmem).1) harrivals
  rw [Odbc.map_rowOf hwidth] at hdrain
  have hanswer := hopens.answer_eq
  rw [hdrain] at hanswer
  have hok : (run E t s).1 = .ok s.cursors.length := by
    simp only [run, hopens.statement_eq, RemoteStatement.execute, hanswer, Except.map]
    rfl
  have hrun : run E t s = (.ok s.cursors.length, (run E t s).2) := Prod.ext hok rfl
  exact ⟨hdrain, hwidth, hok, cursor?_run_remote hopens.statement_eq hanswer hrun⟩

theorem run_broken {arrival : Except FetchFault Block} {fault : FetchFault}
    (hopens : Opens s t r result rowCount) (hshows : result.Shows fields limits)
    (hfields : fields ≠ []) (hcount : fields.length ≤ 65535)
    (hshape : InShape fields result.arrivals) (harrival : arrival ∈ result.arrivals)
    (hbroken : Reports limits arrival fault) :
    ∃ broken ∈ result.arrivals, ∃ fault' code message, Reports limits broken fault' ∧
      fault'.error = .native .fetch code message ∧
      drain (some result) = .error fault'.error ∧ (run E t s).1 = .error fault'.error ∧
      (run E t s).2.cursors = s.cursors ∧
      (run E t s).2.statement? t = some (.remote { r with generation := r.generation + 1 }) := by
  obtain ⟨blocks, broken, later, fault₁, harrivals, hfits, hbroken₁⟩ :=
    Odbc.exists_first_broken harrival hbroken
  have hsize : ∀ block ∈ blocks, block.length ≤ blockRows :=
    fun block hmem ↦ (hshape block (ok_mem_arrivals harrivals hmem)).1
  obtain ⟨fault', hreports, hdrain⟩ :=
    Odbc.drain_broken hshows hfields hcount hfits hsize harrivals hbroken₁
  obtain ⟨code, message, herror⟩ := fault'.error_eq
  have hanswer := hopens.answer_eq
  rw [hdrain] at hanswer
  obtain ⟨-, hstatement, hfailed⟩ := run_remote (E := E) hopens.statement_eq
  have hrun := hfailed _ hanswer
  have hmem : broken ∈ result.arrivals := by
    rw [harrivals]
    exact List.mem_append_right _ List.mem_cons_self
  refine ⟨broken, hmem, fault', code, message, hreports, herror, hdrain, hrun, ?_, hstatement⟩
  rcases run_cases (E := E) t s with ⟨-, -, hcursors⟩ | ⟨-, hok, -⟩
  · exact hcursors
  · rw [hrun] at hok
    cases hok

theorem toNat_generation_le (engine : σ) (servers : Servers) (ops : List (Operation σ)) :
    ((performAll E { engine, servers } ops).generation t).toNat ≤
      touches E t { engine, servers } ops := by
  have hstart : ({ engine, servers } : Session σ).generation t = 0 := rfl
  rw [generation_performAll, hstart, UInt64.zero_add, UInt64.toNat_ofNat']
  exact Nat.mod_le _ _

theorem lost_run {c : Nat} {g : UInt64} (h : InOrder t s) (hs : (s.statement? t).isSome)
    (hroom : (s.generation t).toNat + 1 < UInt64.size) (hticket : s.ticket? c = some (t, g)) :
    (run E t s).2.ticket? c = some (t, g) ∧ g ≠ (run E t s).2.generation t := by
  refine ⟨ticket?_performAll (E := E) hticket [.execute t], ?_⟩
  have htouched : touched E s (.execute t) = some t := by simp [touched, hs]
  have hgeneration := toNat_generation_perform (E := E) (t := t) (s := s) (.execute t)
    (by rwa [if_pos htouched])
  rw [if_pos htouched] at hgeneration
  rw [ticket?_eq] at hticket
  obtain ⟨label, hlabel, hlabel'⟩ := Option.bind_eq_some_iff.mp hticket
  have hle := h.bounded label (List.mem_of_getElem? hlabel) g hlabel'
  rintro rfl
  have hsame : (perform E s (.execute t)).generation t = (run E t s).2.generation t := rfl
  rw [hsame] at hgeneration
  omega

/-- In every history of a session, up to as many executions and bindings of a statement as a
generation can count, an execution over an ODBC client reads its result block by block. If all
blocks arrive and fit, there is a cursor over exactly their rows, in order, whose values are null
exactly where there is no data. If anywhere the client reports a fault or a cell does not fit, the
execution fails to fetch: there is no new cursor, the statement keeps what is bound to it, and all
its earlier cursors have lost their turn. -/
theorem blocks_fetched (engine : σ) (servers : Servers) {before : List (Operation σ)}
    (hroom : touches E t { engine, servers } before + 1 < UInt64.size)
    (hopens : Opens (performAll E { engine, servers } before) t r result rowCount)
    (hshows : result.Shows fields limits) (hfields : fields ≠ []) (hcount : fields.length ≤ 65535)
    (hshape : InShape fields result.arrivals) :
    let s := performAll E { engine, servers } before
    let s' := (run E t s).2
    (∀ blocks : List Block, result.arrivals = blocks.map .ok → (∀ block ∈ blocks, Fits limits block) →
      drain (some result) = .ok (columnsOf fields, blocks.flatten) ∧
      (run E t s).1 = .ok s.cursors.length ∧
      s'.cursor? s.cursors.length = some (.fetched t
        { columns := columnsOf fields
          rows := blocks.flatten.map (Odbc.liveRow (columnsOf fields))
          stats := ⟨rowCount.getD 0, 0⟩
          generation := s'.generation t }) ∧
      ∀ cells ∈ blocks.flatten, cells.length = fields.length ∧ ∀ (j : Nat) cell,
        cells[j]? = some cell →
          ((Odbc.liveRow (columnsOf fields) cells).value j = .ok .null ↔ cell = none)) ∧
    (∀ arrival ∈ result.arrivals, ∀ fault, Reports limits arrival fault →
      (∃ broken ∈ result.arrivals, ∃ fault' code message, Reports limits broken fault' ∧
        fault'.error = .native .fetch code message ∧
        drain (some result) = .error fault'.error ∧ (run E t s).1 = .error fault'.error) ∧
      s'.cursors = s.cursors ∧
      s'.statement? t = some (.remote { r with generation := r.generation + 1 }) ∧
      ∀ c g, s.ticket? c = some (t, g) →
        hasRow c s' = false ∧ current E c s' = .error .invalidIterator ∧
        advance E c s' = (.error .invalidIterator, s')) := by
  intro s s'
  constructor
  · intro blocks harrivals hfits
    obtain ⟨hdrain, hwidth, hok, hcursor⟩ :=
      run_delivered (E := E) hopens hshows hfields hcount hshape harrivals hfits
    refine ⟨hdrain, hok, hcursor, fun cells hcells ↦ ?_⟩
    have hlength := hwidth cells hcells
    refine ⟨hlength, fun j cell hcell ↦ ?_⟩
    have hj : j < fields.length := hlength ▸ (List.getElem?_eq_some_iff.mp hcell).1
    exact Odbc.value_eq_null_iff hlength (List.getElem?_eq_getElem hj) hcell
  · intro arrival harrival fault hbroken
    obtain ⟨broken, hmem, fault', code, message, hreports, herror, hdrain, hrun, hcursors,
      hstatement⟩ := run_broken (E := E) hopens hshows hfields hcount hshape harrival hbroken
    refine ⟨⟨broken, hmem, fault', code, message, hreports, herror, hdrain, hrun⟩, hcursors,
      hstatement, fun c g hticket ↦ ?_⟩
    -- The execution failed, but it has begun a generation that no earlier cursor belongs to.
    have horder : InOrder t s := inOrder_history engine servers (by omega)
    have hgeneration : (s.generation t).toNat ≤ touches E t { engine, servers } before :=
      toNat_generation_le engine servers before
    have hsome : (s.statement? t).isSome := by
      rw [hopens.statement_eq]
      rfl
    obtain ⟨hticket', hlost⟩ := lost_run (E := E) horder hsome (by omega) hticket
    exact ⟨hasRow_of_lost hticket' hlost, current_of_lost hticket' hlost,
      advance_of_lost hticket' hlost⟩

def narrow (arrivals : List (Except FetchFault Block)) : ResultSet where
  columnCount := .ok 1
  field _ := .ok ⟨"n", .varchar 2⟩
  limits _ := .ok [2]
  arrivals

def inTwoBlocks : ResultSet := narrow [.ok [[some [49]], [some []]], .ok [[none]]]

def brokenBehind : ResultSet := narrow [.ok [[some [49]]], .ok [[some [49, 50, 51]]]]

def openedAs (result : ResultSet) : List Value → Option Message × Result SqlGateway.Answer :=
  ((Odbc.prepared 0 fun _ ↦ .ok ⟨some result, .ok none⟩).map Message.odbc).run

def narrowServers : Servers where
  odbc := { statements := [("q", {})] }

def reopened (result : ResultSet) : List (Operation Sql.World) :=
  [.connect "odbc:x", .prepare 0 "q", .answer 0 (openedAs inTwoBlocks), .execute 0,
    .answer 0 (openedAs result)]

theorem touches_reopened (result : ResultSet) :
    touches Sql.engine 0 { engine := {}, servers := narrowServers } (reopened result) + 1 <
      UInt64.size := by
  have htouches :
      touches Sql.engine 0 { engine := {}, servers := narrowServers } (reopened result) = 1 := rfl
  rw [htouches]
  decide

theorem opens_reopened (result : ResultSet) :
    Opens (performAll Sql.engine { engine := {}, servers := narrowServers } (reopened result)) 0
      ⟨⟨0, openedAs result⟩, [], 1⟩ result none where
  statement_eq := rfl
  client := ⟨0, fun _ ↦ .ok ⟨some result, .ok none⟩, rfl, rfl⟩

theorem shows_narrow (arrivals : List (Except FetchFault Block)) :
    (narrow arrivals).Shows [⟨"n", .varchar 2⟩] [2] where
  count_eq := rfl
  field_eq i f h := by
    obtain rfl := List.mem_singleton.mp (List.mem_of_getElem? h)
    rfl
  limits_eq := rfl
  length_eq := rfl

theorem blocks_fetched_narrow :
    drain (some inTwoBlocks) =
      .ok (columnsOf [⟨"n", .varchar 2⟩], [[some [49]], [some []], [none]]) ∧
    let s := performAll Sql.engine { engine := {}, servers := narrowServers }
      (reopened brokenBehind)
    hasRow 0 s = true ∧
    (∃ code message, (run Sql.engine 0 s).1 = .error (.native .fetch code message)) ∧
    hasRow 0 (run Sql.engine 0 s).2 = false := by
  have hfields : [⟨"n", .varchar 2⟩] ≠ ([] : List Field) := List.cons_ne_nil _ _
  constructor
  · have hshape : InShape [⟨"n", .varchar 2⟩] inTwoBlocks.arrivals := by
      simp [InShape, inTwoBlocks, narrow, blockRows]
    obtain ⟨hwhole, -⟩ := blocks_fetched _ narrowServers (touches_reopened inTwoBlocks)
      (opens_reopened inTwoBlocks) (shows_narrow _) hfields (by decide) hshape
    refine (hwhole [[[some [49]], [some []]], [[none]]] rfl fun block hmem ↦ ?_).1
    rw [← Odbc.RowSet.limits_ofLimits [2]]
    apply Odbc.RowSet.fits_of_tooLarge?
    rcases List.mem_pair.mp hmem with rfl | rfl <;> rfl
  · intro s
    have hshape : InShape [⟨"n", .varchar 2⟩] brokenBehind.arrivals := by
      simp [InShape, brokenBehind, narrow, blockRows]
    obtain ⟨-, hbroken⟩ := blocks_fetched _ narrowServers (touches_reopened brokenBehind)
      (opens_reopened brokenBehind) (shows_narrow _) hfields (by decide) hshape
    have hsize : 2 < ([49, 50, 51] : Blob).length := by decide
    have hlarge : Reports [2] (.ok [[some [49, 50, 51]]]) (.tooLarge (some 3) 0) :=
      .tooLarge List.mem_cons_self rfl rfl hsize
    obtain ⟨⟨-, -, fault, code, message, -, herror, -, hrun⟩, -, -, hlost⟩ :=
      hbroken _ (List.mem_cons_of_mem _ List.mem_cons_self) _ hlarge
    rw [herror] at hrun
    exact ⟨rfl, ⟨code, message, hrun⟩, (hlost 0 1 rfl).1⟩

end Session
end SqlGateway
