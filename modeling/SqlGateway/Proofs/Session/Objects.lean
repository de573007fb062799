import SqlGateway.Session.Cursor

namespace SqlGateway

def Cursor.ticket? : Cursor → Option (Nat × UInt64)
  | .fetched t c => some (t, c.generation)
  | .stepping t c => some (t, c.generation)
  | .buffered _ | .faulty _ => none

def Cursor.fixed (c : Cursor) : Option (Nat × UInt64) × Columns × Stats :=
  (c.ticket?, c.columns, c.stats)

namespace Session

variable {σ : Type} {s : Session σ}

def items (s : Session σ) : List Cursor := s.cursors.map (·.item)

def labels (s : Session σ) : List (Option (Nat × UInt64) × Columns × Stats) :=
  s.items.map Cursor.fixed

theorem getElem?_items (s : Session σ) (id : Nat) : s.items[id]? = s.cursor? id := by
  simp [items, cursor?]

theorem getElem?_labels (s : Session σ) (id : Nat) :
    s.labels[id]? = (s.cursor? id).map Cursor.fixed := by
  rw [labels, List.getElem?_map, getElem?_items]

theorem columns_eq (id : Nat) (s : Session σ) :
    columns id s = ((s.labels[id]?).map (·.2.1)).getD [] := by
  rw [getElem?_labels, Option.map_map]
  rfl

theorem stats_eq (id : Nat) (s : Session σ) :
    stats id s = ((s.labels[id]?).map (·.2.2)).getD {} := by
  rw [getElem?_labels, Option.map_map]
  rfl

theorem cursor?_setCursor (id id' : Nat) (c : Cursor) :
    (s.setCursor id c).cursor? id' = (s.cursor? id').map fun old ↦ if id = id' then c else old := by
  simp only [cursor?, setCursor, List.getElem?_modify]
  cases s.cursors[id']? with
  | none => rfl
  | some slot => by_cases h : id = id' <;> simp [h]

theorem cursor?_setCursor_self {id : Nat} {old : Cursor} (h : s.cursor? id = some old)
    (c : Cursor) : (s.setCursor id c).cursor? id = some c := by simp [cursor?_setCursor, h]

theorem cursor?_setCursor_of_ne {id id' : Nat} (h : id ≠ id') (c : Cursor) :
    (s.setCursor id c).cursor? id' = s.cursor? id' := by simp [cursor?_setCursor, h]

theorem labels_setCursor {id : Nat} {old c : Cursor} (h : s.cursor? id = some old)
    (hc : c.fixed = old.fixed) : (s.setCursor id c).labels = s.labels := by
  apply List.ext_getElem? fun j ↦ ?_
  rw [getElem?_labels, getElem?_labels, cursor?_setCursor]
  by_cases hj : id = j
  · subst hj
    simp [h, hc]
  · simp [hj]

theorem setCursor_self {id : Nat} {c : Cursor} (h : s.cursor? id = some c) :
    s.setCursor id c = s := by
  have hl : (s.cursors.modify id fun slot ↦ { slot with item := c }) = s.cursors := by
    apply List.ext_getElem? fun j ↦ ?_
    rw [List.getElem?_modify]
    cases hj : s.cursors[j]? with
    | none => rfl
    | some slot =>
      by_cases hij : id = j
      · subst hij
        simp only [cursor?, hj, Option.map_some, Option.some.injEq] at h
        simp [← h]
      · simp [hij]
  simp only [setCursor, hl]

theorem statement?_setStatement (id id' : Nat) (t : Statement) :
    (s.setStatement id t).statement? id' =
      (s.statement? id').map fun old ↦ if id = id' then t else old := by
  simp only [statement?, setStatement, List.getElem?_modify]
  cases s.statements[id']? with
  | none => rfl
  | some slot => by_cases h : id = id' <;> simp [h]

theorem statement?_setStatement_self {id : Nat} {old : Statement} (h : s.statement? id = some old)
    (t : Statement) : (s.setStatement id t).statement? id = some t := by
  simp [statement?_setStatement, h]

theorem setStatement_self {id : Nat} {t : Statement} (h : s.statement? id = some t) :
    s.setStatement id t = s := by
  have hl : (s.statements.modify id fun slot ↦ { slot with item := t }) = s.statements := by
    apply List.ext_getElem? fun j ↦ ?_
    rw [List.getElem?_modify]
    cases hj : s.statements[j]? with
    | none => rfl
    | some slot =>
      by_cases hij : id = j
      · subst hij
        simp only [statement?, hj, Option.map_some, Option.some.injEq] at h
        simp [← h]
      · simp [hij]
  simp only [setStatement, hl]

theorem generation_setStatement_self {id : Nat} {old : Statement} (h : s.statement? id = some old)
    (t : Statement) : (s.setStatement id t).generation id = t.generation := by
  simp [generation, statement?_setStatement_self h]

theorem generation_setStatement_of_ne {id id' : Nat} (h : id ≠ id') (t : Statement) :
    (s.setStatement id t).generation id' = s.generation id' := by
  simp [generation, statement?_setStatement, h]

@[simp]
theorem generation_setCursor (id id' : Nat) (c : Cursor) :
    (s.setCursor id c).generation id' = s.generation id' := rfl

@[simp]
theorem statement?_setCursor (id id' : Nat) (c : Cursor) :
    (s.setCursor id c).statement? id' = s.statement? id' := rfl

theorem cursor?_addCursor_self (c : Cursor) :
    (s.addCursor c).2.cursor? (s.addCursor c).1 = some c := by simp [addCursor, cursor?]

theorem cursor?_addCursor_of_lt {id : Nat} (h : id < s.cursors.length) (c : Cursor) :
    (s.addCursor c).2.cursor? id = s.cursor? id := by
  simp [addCursor, cursor?, List.getElem?_append_left h]

variable {E : Sqlite.Engine σ} {id t : Nat}

theorem advance_fetched {c : Fetched} (h : s.cursor? id = some (.fetched t c)) :
    advance E id s = ((c.advance (s.generation t)).1,
      s.setCursor id (.fetched t (c.advance (s.generation t)).2)) := by simp [advance, h]

theorem advance_stepping {c : Sqlite.Cursor} {n : Sqlite.Statement}
    (h : s.cursor? id = some (.stepping t c)) (hn : s.statement? t = some (.embedded n)) :
    advance E id s = ((c.advance E n s.engine).1,
      ({ s with engine := (c.advance E n s.engine).2.2.2 }.setStatement t
        (.embedded (c.advance E n s.engine).2.2.1)).setCursor id
        (.stepping t (c.advance E n s.engine).2.1)) := by simp [advance, h, hn]

theorem stepped {c c' : Sqlite.Cursor} {n n' : Sqlite.Statement} {r : Result Bool} {engine : σ}
    (h : s.cursor? id = some (.stepping t c)) (hn : s.statement? t = some (.embedded n))
    (ha : c.advance E n s.engine = (r, c', n', engine)) :
    (advance E id s).1 = r ∧ (advance E id s).2.cursor? id = some (.stepping t c') ∧
      (advance E id s).2.statement? t = some (.embedded n') ∧
      (advance E id s).2.engine = engine := by
  rw [advance_stepping h hn, ha]
  refine ⟨rfl, ?_, ?_, rfl⟩
  · exact cursor?_setCursor_self (s := { s with engine }.setStatement t (.embedded n')) h _
  · exact statement?_setStatement_self (s := { s with engine }) hn _

theorem advance_buffered {b : Buffered} (h : s.cursor? id = some (.buffered b)) :
    advance E id s = (.ok b.advance.1, s.setCursor id (.buffered b.advance.2)) := by
  simp [advance, h]

theorem advance_faulty {c : Faulty} (h : s.cursor? id = some (.faulty c)) :
    advance E id s = (c.advance.1, s.setCursor id (.faulty c.advance.2)) := by simp [advance, h]

theorem labels_advance (id : Nat) (s : Session σ) : (advance E id s).2.labels = s.labels := by
  cases h : s.cursor? id with
  | none => simp [advance, h]
  | some cursor =>
    cases cursor with
    | fetched t c =>
      rw [advance_fetched h]
      refine labels_setCursor h ?_
      unfold Fetched.advance
      split
      · split <;> rfl
      · rfl
    | stepping t c =>
      cases hn : s.statement? t with
      | none => simp [advance, h, hn]
      | some n =>
        cases n with
        | remote n => simp [advance, h, hn]
        | embedded n =>
          rw [advance_stepping h hn]
          have hc : (Cursor.stepping t (c.advance E n s.engine).2.1).fixed =
              (Cursor.stepping t c).fixed := by
            unfold Sqlite.Cursor.advance
            split
            · rfl
            · split
              · rfl
              · split <;> rfl
          refine labels_setCursor ?_ hc
          exact h
    | buffered b =>
      rw [advance_buffered h]
      refine labels_setCursor h ?_
      unfold Buffered.advance
      simp only
      split <;> rfl
    | faulty c =>
      rw [advance_faulty h]
      refine labels_setCursor h ?_
      unfold Faulty.advance
      split
      · rfl
      · simp only
        split <;> rfl

theorem cursor?_advance_of_ne {id id' : Nat} (h : id ≠ id') (s : Session σ) :
    (advance E id s).2.cursor? id' = s.cursor? id' := by
  cases hc : s.cursor? id with
  | none => simp [advance, hc]
  | some cursor =>
    cases cursor with
    | fetched t c => rw [advance_fetched hc, cursor?_setCursor_of_ne h]
    | stepping t c =>
      cases hn : s.statement? t with
      | none => simp [advance, hc, hn]
      | some n =>
        cases n with
        | remote n => simp [advance, hc, hn]
        | embedded n =>
          rw [advance_stepping hc hn, cursor?_setCursor_of_ne h]
          rfl
    | buffered b => rw [advance_buffered hc, cursor?_setCursor_of_ne h]
    | faulty c => rw [advance_faulty hc, cursor?_setCursor_of_ne h]

variable (E)

theorem settleConnection_frame (id : Nat) (s : Session σ) :
    (settleConnection E id s).statements = s.statements ∧
      (settleConnection E id s).cursors = s.cursors := by
  unfold settleConnection
  split
  · split <;> exact ⟨rfl, rfl⟩
  · exact ⟨rfl, rfl⟩

theorem settleStatement_frame (id : Nat) (s : Session σ) :
    (settleStatement E id s).statements = s.statements ∧
      (settleStatement E id s).cursors = s.cursors := by
  unfold settleStatement
  split
  · exact ⟨rfl, rfl⟩
  · split
    · exact ⟨rfl, rfl⟩
    · rename_i slot _ _
      cases slot.item with
      | embedded n =>
        exact settleConnection_frame E slot.connection
          { s with engine := E.finalize n.native s.engine }
      | remote r => exact settleConnection_frame E slot.connection s

end Session
end SqlGateway
