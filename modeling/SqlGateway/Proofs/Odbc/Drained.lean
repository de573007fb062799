import Mathlib.Data.List.Basic
import SqlGateway.Odbc.Client
import SqlGateway.Proofs.Success

namespace SqlGateway.Odbc

def RowSet.limits (b : RowSet) : List Nat := b.columns.map (·.limit)

variable {limits : List Nat} {cells : List Cell} {block rows : Block} {blocks : List Block}
  {count i column : Nat} {fault : FetchFault} {arrivals : List (Except FetchFault Block)}

def rowOf (count : Nat) (cells : List Cell) : List Cell :=
  (List.range count).map fun column ↦ (cells[column]?).join

theorem rowOf_of_length (h : cells.length = count) : rowOf count cells = cells := by
  apply List.ext_getElem?
  intro column
  rw [rowOf, List.getElem?_map]
  by_cases hcolumn : column < count
  · rw [List.getElem?_range hcolumn, Option.map_some,
      List.getElem?_eq_getElem (h ▸ hcolumn), Option.join_some]
  · rw [List.getElem?_eq_none (by simpa using hcolumn), List.getElem?_eq_none (by omega)]
    rfl

/-- How the client answers an arrival that ends the fetch: with the fault that it reports, or with
a cell that is larger than the buffer of its column. -/
inductive Reports (limits : List Nat) : Except FetchFault Block → FetchFault → Prop
  | fault (f : FetchFault) : Reports limits (.error f) f
  | tooLarge {block : Block} {cells : List Cell} {column limit : Nat} {octets : Blob}
      (hcells : cells ∈ block) (hlimit : limits[column]? = some limit)
      (hcell : cells[column]? = some (some octets)) (hsize : limit < octets.length) :
      Reports limits (.ok block) (.tooLarge (some octets.length) column)

/-- Every cell of a block fits into the buffer of its column. -/
def Fits (limits : List Nat) (block : Block) : Prop := ∀ fault, ¬ Reports limits (.ok block) fault

theorem Fits.length_le (h : Fits limits block) (hcells : cells ∈ block) {limit : Nat}
    {octets : Blob} (hlimit : limits[column]? = some limit)
    (hcell : cells[column]? = some (some octets)) : octets.length ≤ limit :=
  Nat.not_lt.mp fun hsize ↦ h _ (.tooLarge hcells hlimit hcell hsize)

theorem FetchFault.error_eq (fault : FetchFault) :
    ∃ code message, fault.error = .native .fetch code message := by
  cases fault with
  | fault f => cases f <;> exact ⟨_, _, rfl⟩
  | tooLarge size column => exact ⟨_, _, rfl⟩

namespace ColumnBuffer

variable {b : ColumnBuffer} {column : List Cell}

theorem slots_write (hsize : column.length ≤ blockRows) (hi : i < column.length) :
    (b.write column).slots[i]? = (column[i]?).map (·.map (·.take b.limit)) := by
  have hlength : i < (column.map (·.map (·.take b.limit))).length := by
    rwa [List.length_map]
  rw [write, List.getElem?_take_of_lt (Nat.lt_of_lt_of_le hi hsize),
    List.getElem?_append_left hlength, List.getElem?_map]

theorem tooLarge?_eq_some {size : Nat} (h : b.tooLarge? column = some size) :
    ∃ octets, some octets ∈ column ∧ b.limit < octets.length ∧ size = octets.length := by
  obtain ⟨cell, hmem, hcell⟩ := List.exists_of_findSome?_eq_some h
  cases cell with
  | none => cases hcell
  | some octets =>
    simp only at hcell
    split at hcell
    · rename_i hsize
      cases hcell
      exact ⟨octets, hmem, hsize, rfl⟩
    · cases hcell

theorem length_le_of_tooLarge? (h : b.tooLarge? column = none) {octets : Blob}
    (hmem : some octets ∈ column) : octets.length ≤ b.limit := by
  have hcell := List.findSome?_eq_none_iff.mp h _ hmem
  simp only at hcell
  split at hcell
  · cases hcell
  · omega

end ColumnBuffer

namespace RowSet

variable {b : RowSet}

theorem limits_ofLimits (limits : List Nat) : (ofLimits limits).limits = limits := by
  rw [RowSet.limits, ofLimits, List.map_map]
  exact List.map_id _

theorem limits_write (b : RowSet) (block : Block) : (b.write block).limits = b.limits := by
  apply List.ext_getElem?
  intro column
  simp only [RowSet.limits, write, List.getElem?_map, List.getElem?_mapIdx]
  cases b.columns[column]? <;> rfl

theorem tooLarge?_eq_some (h : b.tooLarge? block = some fault) :
    Reports b.limits (.ok block) fault := by
  obtain ⟨⟨buffer, column⟩, hmem, hbuffer⟩ := List.exists_of_findSome?_eq_some h
  obtain ⟨size, hsize, rfl⟩ := Option.map_eq_some_iff.mp hbuffer
  obtain ⟨octets, hcell, hlarge, rfl⟩ := ColumnBuffer.tooLarge?_eq_some hsize
  obtain ⟨cells, hcells, hjoin⟩ := List.mem_map.mp hcell
  have hlimit : b.limits[column]? = some buffer.limit := by
    rw [RowSet.limits, List.getElem?_map, List.mk_mem_zipIdx_iff_getElem?.mp hmem, Option.map_some]
  exact .tooLarge hcells hlimit (Option.join_eq_some_iff.mp hjoin) hlarge

theorem fits_of_tooLarge? (h : b.tooLarge? block = none) : Fits b.limits block := by
  rintro _ (_ | ⟨hcells, hlimit, hcell, hsize⟩)
  rename_i cells column limit octets
  obtain ⟨buffer, hbuffer, rfl⟩ := Option.map_eq_some_iff.mp
    ((List.getElem?_map ..).symm.trans hlimit)
  have hnone := List.findSome?_eq_none_iff.mp h (buffer, column)
    (List.mk_mem_zipIdx_iff_getElem?.mpr hbuffer)
  have hmem : some octets ∈ block.column column := by
    refine List.mem_map.mpr ⟨cells, hcells, ?_⟩
    rw [hcell]
    rfl
  have hle := ColumnBuffer.length_le_of_tooLarge? (Option.map_eq_none_iff.mp hnone) hmem
  omega

theorem cell_write (hfits : Fits b.limits block) (hsize : block.length ≤ blockRows)
    (hcells : block[i]? = some cells) (hcolumn : column < b.columns.length) :
    (b.write block).cell column i = (cells[column]?).join := by
  obtain ⟨hi, rfl⟩ := List.getElem?_eq_some_iff.mp hcells
  have hlength : (block.column column).length = block.length := List.length_map ..
  have hslot : ((b.write block).columns[column]?).bind (·.slots[i]?) =
      some (((block[i])[column]?).join.map (·.take b.columns[column].limit)) := by
    rw [write, List.getElem?_mapIdx, List.getElem?_eq_getElem hcolumn, Option.map_some,
      Option.bind_some, ColumnBuffer.slots_write (hlength ▸ hsize) (hlength ▸ hi), Block.column,
      List.getElem?_map, hcells]
    rfl
  rw [cell, hslot, Option.join_some]
  cases hcell : ((block[i])[column]?).join with
  | none => rfl
  | some octets =>
    have hlimit : b.limits[column]? = some b.columns[column].limit := by
      rw [RowSet.limits, List.getElem?_map, List.getElem?_eq_getElem hcolumn, Option.map_some]
    have hle := hfits.length_le (List.getElem_mem hi) hlimit (Option.join_eq_some_iff.mp hcell)
    rw [Option.map_some, List.take_of_length_le hle]

/-- What is copied out is the block that was written last, and nothing of the earlier ones. -/
theorem rows_write (hfits : Fits b.limits block) (hsize : block.length ≤ blockRows)
    (hcount : count = b.columns.length) :
    (List.range (b.write block).filled).map ((b.write block).row count) =
      block.map (rowOf count) := by
  apply List.ext_getElem?
  intro i
  have hfilled : (b.write block).filled = block.length := rfl
  rw [hfilled, List.getElem?_map, List.getElem?_map]
  by_cases hi : i < block.length
  · rw [List.getElem?_range hi, List.getElem?_eq_getElem hi, Option.map_some, Option.map_some]
    refine congrArg some (List.map_congr_left fun column hcolumn ↦ ?_)
    exact cell_write hfits hsize (List.getElem?_eq_getElem hi) (hcount ▸ List.mem_range.mp hcolumn)
  · rw [List.getElem?_eq_none (by simpa using hi), List.getElem?_eq_none (by omega)]
    rfl

end RowSet

variable {b : RowSet}

theorem fetch_of_fits (h : Fits b.limits block) : b.fetch block = .ok (b.write block) := by
  rw [RowSet.fetch]
  cases hlarge : b.tooLarge? block with
  | none => rfl
  | some fault => exact absurd (RowSet.tooLarge?_eq_some hlarge) (h fault)

theorem fetchAll_block (hfits : Fits b.limits block) (hsize : block.length ≤ blockRows)
    (hcount : count = b.columns.length) :
    fetchAll count (.ok block :: arrivals) b rows =
      fetchAll count arrivals (b.write block) (rows ++ block.map (rowOf count)) := by
  simp only [fetchAll, fetch_of_fits hfits, RowSet.rows_write hfits hsize hcount]

theorem fetchAll_broken {broken : Except FetchFault Block} (h : Reports b.limits broken fault)
    (count : Nat) (arrivals : List (Except FetchFault Block)) (rows : Block) :
    ∃ fault', Reports b.limits broken fault' ∧
      fetchAll count (broken :: arrivals) b rows = .error fault'.error := by
  cases broken with
  | error f => exact ⟨f, .fault f, rfl⟩
  | ok block =>
    cases hlarge : b.tooLarge? block with
    | none => exact absurd h (RowSet.fits_of_tooLarge? hlarge fault)
    | some fault' =>
      refine ⟨fault', RowSet.tooLarge?_eq_some hlarge, ?_⟩
      simp only [fetchAll, RowSet.fetch, hlarge]

theorem exists_first_broken {arrival : Except FetchFault Block} (h : arrival ∈ arrivals)
    (hbroken : Reports limits arrival fault) :
    ∃ (blocks : List Block) (broken : Except FetchFault Block)
      (later : List (Except FetchFault Block)) (fault : FetchFault),
      arrivals = blocks.map .ok ++ broken :: later ∧ (∀ block ∈ blocks, Fits limits block) ∧
        Reports limits broken fault := by
  induction arrivals with
  | nil => cases h
  | cons first arrivals ih =>
    by_cases hfirst : ∃ fault, Reports limits first fault
    · obtain ⟨fault, hfault⟩ := hfirst
      exact ⟨[], first, arrivals, fault, rfl, by simp, hfault⟩
    · cases first with
      | error f => exact absurd ⟨f, .fault f⟩ hfirst
      | ok block =>
        have hrest : arrival ∈ arrivals := by
          rcases List.mem_cons.mp h with rfl | hmem
          · exact absurd ⟨fault, hbroken⟩ hfirst
          · exact hmem
        obtain ⟨blocks, broken, later, fault', rfl, hfits, hfault⟩ := ih hrest
        refine ⟨block :: blocks, broken, later, fault', rfl, ?_, hfault⟩
        rw [List.forall_mem_cons]
        exact ⟨not_exists.mp hfirst, hfits⟩

/-- Any number of blocks that fit leave all their rows, and buffers for the next one. -/
theorem fetchAll_blocks (hlimits : b.limits = limits) (hcount : count = limits.length)
    (hfits : ∀ block ∈ blocks, Fits limits block)
    (hsize : ∀ block ∈ blocks, block.length ≤ blockRows)
    (arrivals : List (Except FetchFault Block)) (rows : Block) :
    ∃ b', b'.limits = limits ∧ fetchAll count (blocks.map .ok ++ arrivals) b rows =
      fetchAll count arrivals b' (rows ++ blocks.flatten.map (rowOf count)) := by
  -- Of the buffers only their limits matter to the next block, and writing keeps these.
  induction blocks generalizing b rows with
  | nil => exact ⟨b, hlimits, by simp⟩
  | cons block blocks ih =>
    have hcolumns : count = b.columns.length := by
      rw [hcount, ← hlimits, RowSet.limits, List.length_map]
    rw [List.map_cons, List.cons_append,
      fetchAll_block (hlimits ▸ hfits block List.mem_cons_self) (hsize block List.mem_cons_self)
        hcolumns, List.flatten_cons, List.map_append, ← List.append_assoc]
    exact ih ((b.limits_write block).trans hlimits)
      (fun block hmem ↦ hfits block (List.mem_cons_of_mem _ hmem))
      (fun block hmem ↦ hsize block (List.mem_cons_of_mem _ hmem)) _

theorem fits_of_fetchAll {rows' : Block} (hlimits : b.limits = limits)
    (h : fetchAll count (blocks.map .ok ++ arrivals) b rows = .ok rows') :
    ∀ block ∈ blocks, Fits limits block := by
  induction blocks generalizing b rows with
  | nil => simp
  | cons block blocks ih =>
    have hfits : Fits b.limits block := by
      intro fault hfault
      obtain ⟨fault', -, hbroken⟩ := fetchAll_broken hfault count (blocks.map .ok ++ arrivals) rows
      rw [List.map_cons, List.cons_append, hbroken] at h
      cases h
    rw [List.map_cons, List.cons_append] at h
    simp only [fetchAll, fetch_of_fits hfits] at h
    have hrest := ih ((b.limits_write block).trans hlimits) h
    rw [List.forall_mem_cons]
    exact ⟨hlimits ▸ hfits, hrest⟩

structure ResultSet.Shows (r : ResultSet) (fields : List Field) (limits : List Nat) : Prop where
  count_eq : r.columnCount = .ok fields.length
  field_eq : ∀ i f, fields[i]? = some f → r.field (i + 1) = .ok f
  limits_eq : r.limits maxCell = .ok limits
  length_eq : limits.length = fields.length

variable {r : ResultSet} {fields : List Field}

theorem ResultSet.Shows.columns_eq (h : r.Shows fields limits) :
    r.columns fields.length = .ok (columnsOf fields) := by
  have htake : ∀ n ≤ fields.length, r.columns n = .ok (columnsOf (fields.take n)) := by
    intro n hn
    induction n with
    | zero => rfl
    | succ n ih =>
      have hfield := h.field_eq n _ (List.getElem?_eq_getElem hn)
      have hlast : columnsOf (fields.take (n + 1)) =
          addField (columnsOf (fields.take n)) fields[n] := by
        rw [List.take_add_one, List.getElem?_eq_getElem hn, columnsOf, List.foldl_append]
        rfl
      have hbefore := ih (Nat.le_of_lt hn)
      rw [columns] at hbefore
      rw [columns, List.range_succ, List.foldlM_append, hbefore, hlast]
      simp only [List.foldlM_cons, List.foldlM_nil, hfield]
      rfl
  rw [htake _ (Nat.le_refl _), List.take_length]

theorem smallCount_ofNat {n : Nat} (h : n ≤ 65535) : smallCount n = n := by
  rw [smallCount, if_pos (by omega), Int.toNat_natCast]

theorem drain_eq (h : r.Shows fields limits) (hfields : fields ≠ [])
    (hcount : fields.length ≤ 65535) :
    drain (some r) = (fetchAll fields.length r.arrivals (.ofLimits limits) []).map
      fun rows ↦ (columnsOf fields, rows) := by
  have hzero : fields.length ≠ 0 := fun hlength ↦ hfields (List.length_eq_zero_iff.mp hlength)
  rw [drain, h.count_eq]
  change (do
    let columns ← asked (r.columns (smallCount fields.length))
    if smallCount fields.length = 0 then return (columns, [])
    else
      let limits ← asked (r.limits maxCell)
      let rows ← fetchAll (smallCount fields.length) r.arrivals (.ofLimits limits) []
      return (columns, rows)) = _
  rw [smallCount_ofNat hcount, h.columns_eq, h.limits_eq]
  change (if fields.length = 0 then _ else _) = _
  rw [if_neg hzero]
  rfl

theorem drain_blocks (h : r.Shows fields limits) (hfields : fields ≠ [])
    (hcount : fields.length ≤ 65535) (hfits : ∀ block ∈ blocks, Fits limits block)
    (hsize : ∀ block ∈ blocks, block.length ≤ blockRows) (harrivals : r.arrivals = blocks.map .ok) :
    drain (some r) = .ok (columnsOf fields, blocks.flatten.map (rowOf fields.length)) := by
  obtain ⟨b, -, hrows⟩ := fetchAll_blocks (RowSet.limits_ofLimits limits) h.length_eq.symm hfits
    hsize [] []
  rw [drain_eq h hfields hcount, harrivals, ← List.append_nil (blocks.map _), hrows, fetchAll,
    List.nil_append]
  rfl

theorem drain_broken {broken : Except FetchFault Block} (h : r.Shows fields limits)
    (hfields : fields ≠ []) (hcount : fields.length ≤ 65535)
    (hfits : ∀ block ∈ blocks, Fits limits block)
    (hsize : ∀ block ∈ blocks, block.length ≤ blockRows)
    (harrivals : r.arrivals = blocks.map .ok ++ broken :: arrivals)
    (hbroken : Reports limits broken fault) :
    ∃ fault', Reports limits broken fault' ∧ drain (some r) = .error fault'.error := by
  obtain ⟨b, hlimits, hrows⟩ := fetchAll_blocks (RowSet.limits_ofLimits limits)
    h.length_eq.symm hfits hsize (broken :: arrivals) []
  obtain ⟨fault', hreports, herror⟩ := fetchAll_broken (hlimits ▸ hbroken) fields.length arrivals
    ([] ++ blocks.flatten.map (rowOf fields.length))
  refine ⟨fault', hlimits ▸ hreports, ?_⟩
  rw [drain_eq h hfields hcount, harrivals, hrows, herror]
  rfl

end SqlGateway.Odbc
