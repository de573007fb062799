import SqlGateway.Proofs.Odbc.Drained
import SqlGateway.Session.Basic

namespace SqlGateway

/-- A cell as the database holds it, with what the driver knows of the column. -/
inductive Stored where
  | postgres (oid : Nat) (cell : Option Blob)
  | mysql (field : MySql.Field) (cell : MySql.Cell)
  | odbc (type : Odbc.DataType) (cell : Odbc.Cell)
  | sqlite (datum : Sql.Datum)

namespace Stored

def isNull : Stored → Bool
  | postgres _ cell => cell.isNone
  | mysql _ cell => cell = .null
  | odbc _ cell => cell.isNone
  | sqlite d => d = .null

def isUnsupported : Stored → Bool
  | postgres oid _ => (Postgres.Kind.ofOid oid).valueType = .unsupported
  | _ => false

/-- What is read whatever the octets of the cell are, if anything. -/
def empty? (c : Stored) : Option Value :=
  if c.isUnsupported then some .absent else if c.isNull then some .null else none

def value (column : Nat) : Stored → Result Value
  | postgres oid cell => Postgres.decode oid column cell
  | mysql field cell => cell.decode field.valueType
  | odbc type cell => Odbc.decode type.valueType cell
  | sqlite d => .ok ((Sqlite.StorageClass.ofDatum d).read d)

theorem value_empty {c : Stored} {v : Value} (h : c.empty? = some v) (column : Nat) :
    c.value column = .ok v := by
  cases c with
  | postgres oid cell =>
    simp only [empty?, isUnsupported, isNull] at h
    simp only [value]
    unfold Postgres.decode
    cases hkind : Postgres.Kind.ofOid oid <;> cases cell <;>
      simp_all [Postgres.Kind.valueType]
  | mysql field cell =>
    cases cell <;> simp_all [empty?, isUnsupported, isNull, value, MySql.Cell.decode]
  | odbc type cell =>
    cases cell <;> simp_all [empty?, isUnsupported, isNull, value, Odbc.decode]
  | sqlite d =>
    cases d <;> simp_all [empty?, isUnsupported, isNull, value, Sqlite.StorageClass.ofDatum,
      Sqlite.StorageClass.read]

theorem isEmpty_of_empty? {c : Stored} {v : Value} (h : c.empty? = some v) :
    v.isEmpty ∧ v.isNull = !c.isUnsupported := by
  unfold empty? at h
  split at h
  · rename_i hunsupported
    cases h
    simp [hunsupported, Value.isEmpty, Value.isNull, Value.isAbsent]
  · rename_i hsupported
    split at h
    · cases h
      simp [hsupported, Value.isEmpty, Value.isNull]
    · cases h

end Stored

/-- The typed readings of a value that carries no data. -/
structure Value.ReadsEmpty (v : Value) : Prop where
  text : v.toText = ""
  blob : v.toBlob = []
  bool : v.toBool = false
  int : v.toInt = .ok 0
  int64 : v.toInt64 = .ok 0
  double : v.toDouble = .ok Double.zero
  optional : ∀ {α : Type} (read : Value → Result α), v.optional read = .ok none

theorem Value.readsEmpty {v : Value} (h : v.isEmpty) : v.ReadsEmpty := by
  have hoptional {α : Type} (read : Value → Result α) : v.optional read = .ok none := if_pos h
  cases v with
  | absent => exact ⟨rfl, rfl, rfl, rfl, rfl, rfl, hoptional⟩
  | null => exact ⟨rfl, rfl, rfl, rfl, rfl, rfl, hoptional⟩
  | _ => cases h

theorem LiveRow.value_zipIdx {α : Type} {cells : List α} {cell : α} {j : Nat}
    (f : α × Nat → Result Value) (h : cells[j]? = some cell) :
    LiveRow.value (cells.zipIdx.map f) j = f (cell, j) := by
  simp [LiveRow.value, h]

namespace Postgres

variable {script : Script} {bound : List Value} {a : Answer} {fields : List Field}
  {cells : List (Option Blob)} {field : Field} {cell : Option Blob} {j : Nat}

theorem rows_run (h : (script.run bound).2 = .ok a) :
    a.rows = script.rows.map (liveRow script.fields) := by
  unfold Script.run at h
  split at h
  · cases h
  · split at h <;> cases h
    rfl

theorem value_liveRow (hfield : fields[j]? = some field) (hcell : cells[j]? = some cell) :
    (liveRow fields cells).value j = (Stored.postgres field.oid cell).value j := by
  rw [liveRow, LiveRow.value_zipIdx _ hcell]
  simp [hfield, Stored.value]

end Postgres

namespace MySql

variable {script : Script} {bound : List Value} {a : Answer} {fields : List Field}
  {cells : List Cell} {field : Field} {cell : Cell} {j : Nat}

theorem rows_run (h : (script.run bound).2 = .ok a) :
    a.rows = script.rows.map (liveRow script.fields) := by
  unfold Script.run at h
  simp only at h
  split at h <;> cases h
  rfl

theorem value_liveRow (hfield : fields[j]? = some field) (hcell : cells[j]? = some cell) :
    (liveRow fields cells).value j = (Stored.mysql field cell).value j := by
  rw [liveRow, LiveRow.value_zipIdx _ hcell]
  simp [hfield, Stored.value]

end MySql

namespace Odbc

variable {script : Script} {bound : List Value} {a : Answer} {fields : List Field}
  {cells : List Cell} {field : Field} {cell : Cell} {j : Nat}

theorem blocksOf_cut (rows : List (List Cell)) :
    (blocksOf rows).flatten = rows ∧ ∀ block ∈ blocksOf rows, block.length ≤ blockRows := by
  fun_induction blocksOf rows with
  | case1 => simp
  | case2 row rows ih =>
    obtain ⟨hflatten, hsize⟩ := ih
    constructor
    · rw [List.flatten_cons, hflatten, List.cons_append, List.take_append_drop]
    · rw [List.forall_mem_cons]
      refine ⟨?_, hsize⟩
      rw [List.length_cons, List.length_take, blockRows]
      omega

theorem shows_resultSet (script : Script) :
    script.resultSet.Shows script.fields (script.fields.map (Field.limit maxCell)) where
  count_eq := rfl
  field_eq i f hf := by simp [Script.resultSet, hf]
  limits_eq := rfl
  length_eq := List.length_map ..

theorem drain_script {cols : Columns} {rows : Block}
    (h : drain (some script.resultSet) = .ok (cols, rows)) (hfields : script.fields ≠ []) :
    rows = [] ∨ cols = columnsOf script.fields ∧
      rows = script.rows.map (rowOf script.fields.length) := by
  by_cases hcount : script.fields.length ≤ 65535
  · have hshows := shows_resultSet script
    obtain ⟨hflatten, hsize⟩ := blocksOf_cut script.rows
    rw [drain_eq hshows hfields hcount] at h
    obtain ⟨fetched, hfetched, heq⟩ := map_eq_ok_iff.mp h
    cases heq
    refine .inr ⟨rfl, ?_⟩
    have hfits := fits_of_fetchAll (RowSet.limits_ofLimits _) hfetched
    obtain ⟨b, -, hall⟩ := fetchAll_blocks (RowSet.limits_ofLimits _) hshows.length_eq.symm hfits
      hsize (script.fetchFailure?.toList.map fun d ↦ .error (.fault (.diagnostic d))) []
    rw [Script.resultSet, hall, hflatten] at hfetched
    cases hfailure : script.fetchFailure? with
    | none =>
      rw [hfailure] at hfetched
      exact (Except.ok.inj hfetched).symm
    | some d =>
      rw [hfailure] at hfetched
      cases hfetched
  · have hnone : smallCount script.fields.length = 0 := if_neg (by omega)
    have hdrain : drain (some script.resultSet) = .ok ([], []) := by
      change (do
        let columns ← asked (script.resultSet.columns (smallCount script.fields.length))
        if smallCount script.fields.length = 0 then return (columns, [])
        else _) = _
      rw [hnone]
      rfl
    rw [hdrain] at h
    cases h
    exact .inl rfl

theorem rows_run (h : (script.run bound).2 = .ok a) :
    a.rows = [] ∨ a.rows = script.rows.map fun cells ↦
      liveRow (columnsOf script.fields) (rowOf script.fields.length cells) := by
  obtain ⟨execution, hopened, h⟩ := bind_eq_ok_iff.mp h
  obtain ⟨⟨cols, rows⟩, hdrain, h⟩ := bind_eq_ok_iff.mp h
  obtain ⟨affected, -, h⟩ := bind_eq_ok_iff.mp h
  cases h
  rw [mapError_eq_ok_iff] at hopened
  unfold Script.opened at hopened
  split at hopened
  · cases hopened
  · cases hopened
    by_cases hresult : script.noData ∨ script.fields = []
    · rw [if_pos hresult] at hdrain
      cases hdrain
      exact .inl rfl
    · rw [if_neg hresult] at hdrain
      rcases drain_script hdrain fun hfields ↦ hresult (.inr hfields) with rfl | ⟨rfl, rfl⟩
      · exact .inl rfl
      · exact .inr (List.map_map ..)

theorem types_columnsOf (fields : List Field) :
    (columnsOf fields).map (·.type) = fields.map (·.type.valueType) := by
  suffices h : ∀ known : Columns, (fields.foldl addField known).map (·.type) =
      known.map (·.type) ++ fields.map (·.type.valueType) from h []
  induction fields with
  | nil => simp
  | cons f fields ih =>
    intro known
    rw [List.foldl_cons, ih]
    simp [addField, Columns.add]

theorem value_liveRow (hfield : fields[j]? = some field) (hcell : cells[j]? = some cell) :
    (liveRow (columnsOf fields) (rowOf fields.length cells)).value j =
      (Stored.odbc field.type cell).value j := by
  have htype : ((columnsOf fields)[j]?).map (·.type) = some field.type.valueType := by
    rw [← List.getElem?_map, types_columnsOf, List.getElem?_map, hfield, Option.map_some]
  obtain ⟨column, hcolumn, htype⟩ := Option.map_eq_some_iff.mp htype
  have hcopied : (rowOf fields.length cells)[j]? = some cell := by
    rw [rowOf, List.getElem?_map, List.getElem?_range (List.getElem?_eq_some_iff.mp hfield).1,
      Option.map_some, hcell, Option.join_some]
  rw [liveRow, LiveRow.value_zipIdx _ hcopied]
  simp [hcolumn, htype, Stored.value]

end Odbc
end SqlGateway
