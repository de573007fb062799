import SqlGateway.Proofs.Session.Generations

namespace SqlGateway

/-- How far a cursor has come. -/
def Cursor.token : Cursor → Nat
  | .fetched _ c => c.index
  | .stepping _ c => c.steps
  | .buffered b => b.index
  | .faulty f => f.index

def Cursor.anchor (id : Nat) (c : Cursor) : Anchor :=
  match c.statement? with
  | some t => .statement t
  | none => .buffer id

theorem Fetched.index_advance (live : UInt64) (f : Fetched) :
    f.index ≤ (f.advance live).2.index ∧
    ((f.advance live).1 = .ok true →
      f.index < (f.advance live).2.index ∧ (f.advance live).2.hasRow live = true) := by
  unfold advance
  by_cases hcur : f.isCurrent live = true
  · rw [if_pos hcur]
    by_cases hrow : f.index < f.rows.length
    · simp only [if_pos hrow, Except.ok.injEq, decide_eq_true_eq]
      refine ⟨Nat.le_succ _, fun hnext ↦ ⟨Nat.lt_succ_self _, ?_⟩⟩
      exact Bool.and_eq_true_iff.mpr ⟨hcur, decide_eq_true hnext⟩
    · simp only [if_neg hrow, Except.ok.injEq, decide_eq_true_eq]
      exact ⟨Nat.le_refl _, fun hnext ↦ absurd hnext hrow⟩
  · rw [if_neg hcur]
    exact ⟨Nat.le_refl _, fun h ↦ by cases h⟩

theorem Buffered.index_advance (b : Buffered) :
    b.index ≤ b.advance.2.index ∧
    (b.advance.1 = true → b.index < b.advance.2.index ∧ b.advance.2.hasRow = true) := by
  unfold advance
  by_cases hrow : b.index < b.rows.length
  · simp only [if_pos hrow]
    exact ⟨Nat.le_succ _, fun hnext ↦ ⟨Nat.lt_succ_self _, hnext⟩⟩
  · simp only [if_neg hrow]
    exact ⟨Nat.le_refl _, fun hnext ↦ absurd (of_decide_eq_true hnext) hrow⟩

theorem Faulty.index_advance (f : Faulty) :
    f.index ≤ f.advance.2.index ∧
    (f.advance.1 = .ok true → f.index < f.advance.2.index ∧ f.advance.2.hasRow = true) := by
  unfold advance
  by_cases hbreak : f.breakAt = some (f.index + 1)
  · rw [if_pos hbreak]
    exact ⟨Nat.le_refl _, fun h ↦ by cases h⟩
  · rw [if_neg hbreak]
    by_cases hrow : f.index < f.rows.length
    · simp only [if_pos hrow, Except.ok.injEq]
      exact ⟨Nat.le_succ _, fun hnext ↦ ⟨Nat.lt_succ_self _, hnext⟩⟩
    · simp only [if_neg hrow, Except.ok.injEq]
      exact ⟨Nat.le_refl _, fun hnext ↦ absurd (of_decide_eq_true hnext) hrow⟩

theorem Sqlite.Cursor.steps_advance {σ : Type} {E : Sqlite.Engine σ} (c : Sqlite.Cursor)
    (n : Sqlite.Statement) (w : σ) :
    c.steps ≤ (c.advance E n w).2.1.steps ∧
    ((c.advance E n w).1 = .ok true → c.steps < (c.advance E n w).2.1.steps ∧
      (c.advance E n w).2.1.hasRow (c.advance E n w).2.2.1 = true) := by
  by_cases hcur : c.isCurrent n = true
  · by_cases hrow : n.onRow = true
    · rw [advance_onRow hcur hrow]
      rcases E.step n.native w with ⟨_ | _ | _, w'⟩
      · exact ⟨Nat.le_succ _, fun _ ↦ ⟨Nat.lt_succ_self _, Bool.and_eq_true_iff.mpr ⟨hcur, hrow⟩⟩⟩
      · exact ⟨Nat.le_refl _, fun h ↦ by cases h⟩
      · exact ⟨Nat.le_refl _, fun h ↦ by cases h⟩
    · have hend : c.advance E n w = (.ok false, c, n, w) := by simp [advance, hcur, hrow]
      rw [hend]
      exact ⟨Nat.le_refl _, fun h ↦ by cases h⟩
  · rw [advance_stale (Bool.eq_false_of_not_eq_true hcur)]
    exact ⟨Nat.le_refl _, fun h ↦ by cases h⟩

namespace Session

variable {σ : Type}

/-- An operation, or a change that the user makes to a buffer directly. -/
inductive Event (σ : Type) where
  | operate (op : Operation σ)
  | edit (cursor : Nat) (change : Buffered → Buffered)

def edit (id : Nat) (change : Buffered → Buffered) (s : Session σ) : Session σ :=
  match s.cursor? id with
  | some (.buffered b) => s.setCursor id (.buffered (change b))
  | _ => s

variable (E : Sqlite.Engine σ)

def occur (s : Session σ) : Event σ → Session σ
  | .operate op => perform E s op
  | .edit id change => edit id change s

def occurAll (s : Session σ) (events : List (Event σ)) : Session σ := events.foldl (occur E) s

def used (s : Session σ) : Event σ → Option Nat
  | .operate op => touched E s op
  | .edit .. => none

def uses (t : Nat) : Session σ → List (Event σ) → Nat
  | _, [] => 0
  | s, event :: events => (if used E s event = some t then 1 else 0) + uses t (occur E s event) events

variable {E} {s s' : Session σ} {c d t : Nat}

theorem uses_operate (t : Nat) (s : Session σ) (op : Operation σ) (events : List (Event σ)) :
    uses E t s (.operate op :: events) =
      (if touched E s op = some t then 1 else 0) + uses E t (perform E s op) events := rfl

theorem uses_edit (t : Nat) (s : Session σ) (id : Nat) (change : Buffered → Buffered)
    (events : List (Event σ)) :
    uses E t s (.edit id change :: events) = uses E t (edit id change s) events := Nat.zero_add _

theorem uses_le_length (t : Nat) (s : Session σ) (events : List (Event σ)) :
    uses E t s events ≤ events.length := by
  induction events generalizing s with
  | nil => exact Nat.le_refl 0
  | cons event events ih =>
    have hrest := ih (occur E s event)
    rw [uses, List.length_cons]
    split <;> omega

theorem edit_cases (id : Nat) (change : Buffered → Buffered) (s : Session σ) :
    edit id change s = s ∨ ∃ b, s.cursor? id = some (.buffered b) ∧
      edit id change s = s.setCursor id (.buffered (change b)) := by
  unfold edit
  split
  · rename_i b hb
    exact .inr ⟨b, hb, rfl⟩
  · exact .inl rfl

theorem tickets_edit (id : Nat) (change : Buffered → Buffered) (s : Session σ) :
    (edit id change s).items.map Cursor.ticket? = s.items.map Cursor.ticket? := by
  rcases edit_cases id change s with h | ⟨b, hb, h⟩
  · rw [h]
  · rw [h]
    apply List.ext_getElem?
    intro j
    rw [List.getElem?_map, List.getElem?_map, getElem?_items, getElem?_items, cursor?_setCursor]
    by_cases hj : id = j
    · subst hj
      simp [hb, Cursor.ticket?]
    · simp [hj]

theorem generation_edit (id : Nat) (change : Buffered → Buffered) (s : Session σ) (u : Nat) :
    (edit id change s).generation u = s.generation u := by
  rcases edit_cases id change s with h | ⟨b, -, h⟩ <;> rw [h]
  rw [generation_setCursor]

theorem InOrder.congr (h : InOrder t s)
    (htickets : s'.items.map Cursor.ticket? = s.items.map Cursor.ticket?)
    (hg : s'.generation t = s.generation t) : InOrder t s' := by
  have hlabels (s : Session σ) : s.labels.map Prod.fst = s.items.map Cursor.ticket? := by
    rw [labels, List.map_map]
    rfl
  rw [← hlabels, ← hlabels] at htickets
  let Earlier (k k' : Option (Nat × UInt64)) : Prop :=
    ∀ g g' : UInt64, k = some (t, g) → k' = some (t, g') → g.toNat < g'.toNat
  constructor
  · have hordered : (s.labels.map Prod.fst).Pairwise Earlier := List.pairwise_map.mpr h.ordered
    rw [← htickets] at hordered
    exact List.pairwise_map.mp hordered
  · intro l hl g hticket
    have hmem := List.mem_map_of_mem (f := Prod.fst) hl
    rw [htickets] at hmem
    obtain ⟨l', hl', heq⟩ := List.mem_map.mp hmem
    rw [hg]
    exact h.bounded l' hl' g (heq.trans hticket)

theorem inOrder_occurAll (h : InOrder t s) (events : List (Event σ))
    (hroom : (s.generation t).toNat + uses E t s events < UInt64.size) :
    InOrder t (occurAll E s events) := by
  induction events generalizing s with
  | nil => exact h
  | cons event events ih =>
    cases event with
    | operate op =>
      rw [uses_operate] at hroom
      have hstep :
          (s.generation t).toNat + (if touched E s op = some t then 1 else 0) < UInt64.size := by
        omega
      apply ih (inOrder_perform h op hstep)
      rw [toNat_generation_perform op hstep]
      omega
    | edit id change =>
      rw [uses_edit] at hroom
      apply ih (h.congr (tickets_edit id change s) (generation_edit id change s t))
      rw [generation_edit]
      exact hroom

theorem hasRow_none (h : s.cursor? c = none) : hasRow c s = false := by simp only [hasRow, h]

theorem position_of_hasRow {cursor : Cursor} (h : hasRow c s = true)
    (hc : s.cursor? c = some cursor) : position c s = .at (cursor.anchor c) cursor.token := by
  rw [position, if_pos h, hc]
  cases cursor <;> rfl

theorem position_of_not_hasRow (h : hasRow c s = false) : position c s = .atEnd := by
  rw [position, h]
  rfl

theorem exists_cursor_of_hasRow (h : hasRow c s = true) : ∃ cursor, s.cursor? c = some cursor := by
  cases hc : s.cursor? c with
  | none =>
    rw [hasRow_none hc] at h
    cases h
  | some cursor => exact ⟨cursor, rfl⟩

theorem position_eq_atEnd_iff : position c s = .atEnd ↔ hasRow c s = false := by
  constructor
  · intro h
    by_contra hne
    have hrow := Bool.eq_true_of_not_eq_false hne
    obtain ⟨cursor, hc⟩ := exists_cursor_of_hasRow hrow
    rw [position_of_hasRow hrow hc] at h
    cases h
  · exact position_of_not_hasRow

theorem ticket?_of_hasRow {cursor : Cursor} (h : hasRow c s = true)
    (hc : s.cursor? c = some cursor) (ht : cursor.statement? = some t) :
    s.ticket? c = some (t, s.generation t) := by
  obtain ⟨g, hticket⟩ : ∃ g, s.ticket? c = some (t, g) := by
    rw [ticket?, hc]
    cases cursor <;> cases ht <;> exact ⟨_, rfl⟩
  by_cases hg : g = s.generation t
  · rw [hticket, hg]
  · rw [hasRow_of_lost hticket hg] at h
    cases h

theorem position_eq_iff (h : ∀ t, InOrder t s) :
    position c s = position d s ↔ (hasRow c s = false ∧ hasRow d s = false) ∨ c = d := by
  constructor
  · intro heq
    cases hc : hasRow c s with
    | false =>
      rw [position_of_not_hasRow hc] at heq
      exact .inl ⟨rfl, position_eq_atEnd_iff.mp heq.symm⟩
    | true =>
      have hd : hasRow d s = true := by
        by_contra hne
        rw [position_of_not_hasRow (Bool.eq_false_of_not_eq_true hne), position_eq_atEnd_iff, hc]
          at heq
        cases heq
      obtain ⟨cursor, hcursor⟩ := exists_cursor_of_hasRow hc
      obtain ⟨cursor', hcursor'⟩ := exists_cursor_of_hasRow hd
      rw [position_of_hasRow hc hcursor, position_of_hasRow hd hcursor'] at heq
      have hanchor : cursor.anchor c = cursor'.anchor d := (Position.at.inj heq).1
      right
      cases ht : cursor.statement? with
      | none =>
        cases ht' : cursor'.statement? with
        | none => 
          simp only [Cursor.anchor, ht, ht'] at hanchor
          exact Anchor.buffer.inj hanchor
        | some t' => simp [Cursor.anchor, ht, ht'] at hanchor
      | some t =>
        cases ht' : cursor'.statement? with
        | none => simp [Cursor.anchor, ht, ht'] at hanchor
        | some t' =>
          simp only [Cursor.anchor, ht, ht'] at hanchor
          obtain rfl : t = t' := Anchor.statement.inj hanchor
          exact (h t).unique (ticket?_of_hasRow hc hcursor ht) (ticket?_of_hasRow hd hcursor' ht')
  · rintro (⟨hc, hd⟩ | rfl)
    · rw [position_of_not_hasRow hc, position_of_not_hasRow hd]
    · rfl

theorem hasRow_stepping {f : Sqlite.Cursor} {n : Sqlite.Statement}
    (h : s.cursor? c = some (.stepping t f)) (hn : s.statement? t = some (.embedded n)) :
    hasRow c s = f.hasRow n := by simp only [hasRow, h, hn]

theorem token_advance {cursor : Cursor} (h : s.cursor? c = some cursor) :
    ∃ cursor', (advance E c s).2.cursor? c = some cursor' ∧
      cursor'.statement? = cursor.statement? ∧ cursor.token ≤ cursor'.token ∧
      ((advance E c s).1 = .ok true →
        cursor.token < cursor'.token ∧ hasRow c (advance E c s).2 = true) := by
  cases cursor with
  | fetched t f =>
    rw [advance_fetched h]
    obtain ⟨hle, hlt⟩ := f.index_advance (s.generation t)
    have hc := cursor?_setCursor_self h (.fetched t (f.advance (s.generation t)).2)
    refine ⟨_, hc, rfl, hle, fun hok ↦ ⟨(hlt hok).1, ?_⟩⟩
    rw [hasRow, hc]
    exact (hlt hok).2
  | buffered b =>
    rw [advance_buffered h]
    obtain ⟨hle, hlt⟩ := b.index_advance
    have hc := cursor?_setCursor_self h (.buffered b.advance.2)
    refine ⟨_, hc, rfl, hle, fun hok ↦ ⟨(hlt (Except.ok.inj hok)).1, ?_⟩⟩
    rw [hasRow, hc]
    exact (hlt (Except.ok.inj hok)).2
  | faulty f =>
    rw [advance_faulty h]
    obtain ⟨hle, hlt⟩ := f.index_advance
    have hc := cursor?_setCursor_self h (.faulty f.advance.2)
    refine ⟨_, hc, rfl, hle, fun hok ↦ ⟨(hlt hok).1, ?_⟩⟩
    rw [hasRow, hc]
    exact (hlt hok).2
  | stepping t f =>
    by_cases hn : ∃ n, s.statement? t = some (.embedded n)
    · obtain ⟨n, hn⟩ := hn
      obtain ⟨hle, hlt⟩ := f.steps_advance (E := E) n s.engine
      obtain ⟨hr, hc, ht, -⟩ := stepped (E := E) h hn rfl
      refine ⟨_, hc, rfl, hle, fun hok ↦ ?_⟩
      rw [hr] at hok
      exact ⟨(hlt hok).1, (hasRow_stepping hc ht).trans (hlt hok).2⟩
    · have hadvance : advance E c s = (.error .invalidIterator, s) := by
        cases hs : s.statement? t with
        | none => simp [advance, h, hs]
        | some statement =>
          cases statement with
          | remote r => simp [advance, h, hs]
          | embedded n => exact absurd ⟨n, hs⟩ hn
      rw [hadvance]
      exact ⟨_, h, rfl, Nat.le_refl _, fun hok ↦ by cases hok⟩

/-- A cursor of a statement never goes back, whatever happens. -/
theorem token_occur {cursor : Cursor} (h : s.cursor? c = some cursor)
    (ht : cursor.statement? = some t) (event : Event σ) :
    ∃ cursor', (occur E s event).cursor? c = some cursor' ∧ cursor'.statement? = some t ∧
      cursor.token ≤ cursor'.token := by
  cases event with
  | operate op =>
    by_cases hop : op.advances c = true
    · cases op with
      | advance id =>
        obtain rfl : id = c := by simpa [Operation.advances] using hop
        obtain ⟨cursor', hc, hkept, hle, -⟩ := token_advance (E := E) h
        exact ⟨cursor', hc, hkept.trans ht, hle⟩
      | _ => cases hop
    · have hc := cursor?_perform (E := E) h (Bool.eq_false_of_not_eq_true hop)
      exact ⟨cursor, hc, ht, Nat.le_refl _⟩
  | edit id change =>
    refine ⟨cursor, ?_, ht, Nat.le_refl _⟩
    rw [occur]
    rcases edit_cases id change s with hsame | ⟨b, hb, hset⟩
    · rw [hsame, h]
    · have hne : id ≠ c := by
        rintro rfl
        rw [hb] at h
        cases h
        cases ht
      rw [hset, cursor?_setCursor_of_ne hne, h]

theorem token_occurAll {cursor : Cursor} (h : s.cursor? c = some cursor)
    (ht : cursor.statement? = some t) (events : List (Event σ)) :
    ∃ cursor', (occurAll E s events).cursor? c = some cursor' ∧ cursor'.statement? = some t ∧
      cursor.token ≤ cursor'.token := by
  induction events generalizing s cursor with
  | nil => exact ⟨cursor, h, ht, Nat.le_refl _⟩
  | cons event events ih =>
    obtain ⟨next, hnext, htnext, hle⟩ := token_occur (E := E) h ht event
    obtain ⟨last, hlast, htlast, hle'⟩ := ih hnext htnext
    exact ⟨last, hlast, htlast, Nat.le_trans hle hle'⟩

theorem position_ne_of_token_lt {cursor cursor' : Cursor} (h : s.cursor? c = some cursor)
    (h' : s'.cursor? c = some cursor') (hlt : cursor.token < cursor'.token)
    (hrow : hasRow c s' = true) : position c s' ≠ position c s := by
  rw [position_of_hasRow hrow h']
  intro heq
  cases hc : hasRow c s with
  | false =>
    rw [position_of_not_hasRow hc] at heq
    cases heq
  | true =>
    rw [position_of_hasRow hc h] at heq
    have htoken := (Position.at.inj heq).2
    omega

/-- In every history of a session with fewer than 2⁶⁴ executions and bindings of each statement: a
position is the end if there is no row, and otherwise it belongs to one cursor only. A cursor of a
driver that moves on to a row has another position than before, and never has the earlier one
again. -/
theorem positions_kept (engine : σ) (servers : Servers) {events : List (Event σ)}
    (hroom : ∀ t, uses E t { engine, servers } events < UInt64.size) :
    let s := occurAll E { engine, servers } events
    (∀ c, position c s = .atEnd ↔ hasRow c s = false) ∧
    (∀ c d, position c s = position d s ↔ (hasRow c s = false ∧ hasRow d s = false) ∨ c = d) ∧
    ∀ c t s', (s.cursor? c).bind Cursor.statement? = some t → advance E c s = (.ok true, s') →
      position c s ≠ position c s' ∧
      ∀ later, position c (occurAll E s' later) ≠ .atEnd →
        position c (occurAll E s' later) ≠ position c s := by
  intro s
  have horder (t : Nat) : InOrder t s := by
    apply inOrder_occurAll (inOrder_start engine servers t)
    have hstart : ({ engine, servers } : Session σ).generation t = 0 := rfl
    rw [hstart, UInt64.toNat_zero, Nat.zero_add]
    exact hroom t
  refine ⟨fun c ↦ position_eq_atEnd_iff, fun c d ↦ position_eq_iff horder, ?_⟩
  intro c t s' hstatement hadvance
  obtain ⟨cursor, hcursor, ht⟩ := Option.bind_eq_some_iff.mp hstatement
  obtain ⟨next, hnext, hkept, -, hmoved⟩ := token_advance (E := E) hcursor
  rw [hadvance] at hnext hmoved
  obtain ⟨hlt, hrow⟩ := hmoved rfl
  refine ⟨(position_ne_of_token_lt hcursor hnext hlt hrow).symm, fun later hlater ↦ ?_⟩
  obtain ⟨last, hlast, -, hle⟩ := token_occurAll (E := E) hnext (hkept.trans ht) later
  apply position_ne_of_token_lt hcursor hlast (Nat.lt_of_lt_of_le hlt hle)
  exact Bool.eq_true_of_not_eq_false fun h ↦ hlater (position_eq_atEnd_iff.mpr h)

def twoRowsBeside : List (Event Sql.World) :=
  executed.map .operate ++ [.operate (.buffer {}), .edit 1 (·.addRow [])]

theorem positions_kept_twoRows :
    let s := occurAll Sql.engine { engine := {}, servers := twoRows } twoRowsBeside
    let s' := (advance Sql.engine 0 s).2
    (∀ t, uses Sql.engine t { engine := {}, servers := twoRows } twoRowsBeside < UInt64.size) ∧
    advance Sql.engine 0 s = (.ok true, s') ∧ position 0 s = .at (.statement 0) 0 ∧
    position 0 s ≠ position 1 s ∧ position 0 s ≠ position 0 s' := by
  intro s s'
  have hroom (t : Nat) :
      uses Sql.engine t { engine := {}, servers := twoRows } twoRowsBeside < UInt64.size :=
    Nat.lt_of_le_of_lt (uses_le_length ..) (by decide)
  have hadvance : advance Sql.engine 0 s = (.ok true, s') := Prod.ext rfl rfl
  obtain ⟨-, hsame, hlater⟩ := positions_kept _ twoRows hroom
  refine ⟨hroom, hadvance, rfl, fun h ↦ ?_, (hlater 0 0 s' rfl hadvance).1⟩
  rcases (hsame 0 1).mp h with ⟨hrow, -⟩ | hne
  · cases hrow
  · cases hne

end Session
end SqlGateway
