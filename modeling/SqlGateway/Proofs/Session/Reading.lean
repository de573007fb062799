import SqlGateway.Proofs.Rows.Protocols
import SqlGateway.Proofs.Rows.Sources
import SqlGateway.Proofs.Session.Objects
import SqlGateway.Proofs.Sqlite.Stepping

namespace SqlGateway.Session

variable {σ : Type} {E : Sqlite.Engine σ} {id t : Nat} {s : Session σ} {rows : List LiveRow}
  {e : Option Error}

theorem behind_held {κ : Type} {source : Feed κ} (hold : κ → Cursor) {c : κ}
    (hadvance : ∀ c s', s'.generation = s.generation → s'.cursor? id = some (hold c) →
      advance E id s' = ((source.advance c).1, s'.setCursor id (hold (source.advance c).2)))
    (hcurrent : ∀ c s', s'.generation = s.generation → s'.cursor? id = some (hold c) →
      current E id s' = source.current c)
    (h : s.cursor? id = some (hold c)) (hb : source.Behind c rows e) :
    (feed E id).Behind s rows e := by
  refine hb.of_simulation
    (fun c s' ↦ s'.cursor? id = some (hold c) ∧ s'.generation = s.generation) ?_ ?_ ⟨h, rfl⟩
  · rintro c s' ⟨h, hg⟩
    have ha := hadvance c s' hg h
    refine ⟨congrArg Prod.fst ha, ?_⟩
    have hs : ((feed E id).advance s').2 = _ := congrArg Prod.snd ha
    rw [hs]
    exact ⟨cursor?_setCursor_self h _, hg⟩
  · rintro c s' ⟨h, hg⟩
    exact hcurrent c s' hg h

theorem behind_fetched {c : Fetched} (h : s.cursor? id = some (.fetched t c))
    (hc : c.isCurrent (s.generation t) = true) :
    (feed E id).Behind s (c.rows.drop (c.index + 1)) none := by
  refine behind_held (.fetched t) ?_ ?_ h (Fetched.behind hc)
  · intro c s' hg h
    rw [advance_fetched h, hg]
    rfl
  · intro c s' hg h
    simp [current, h, hg, Fetched.feed]

theorem behind_buffered {b : Buffered} (h : s.cursor? id = some (.buffered b)) :
    (feed E id).Behind s ((b.rows.drop (b.index + 1)).map Row.live) none := by
  refine behind_held .buffered ?_ ?_ h (Buffered.behind b)
  · intro b s' _ h
    exact advance_buffered h
  · intro b s' _ h
    simp [current, h, Buffered.feed]

theorem behind_faulty {c : Faulty} (h : s.cursor? id = some (.faulty c))
    (hb : Faulty.feed.Behind c rows e) : (feed E id).Behind s rows e := by
  refine behind_held .faulty ?_ ?_ h hb
  · intro c s' _ h
    exact advance_faulty h
  · intro c s' _ h
    simp [current, h, Faulty.feed]

theorem behind_stepping {native : Nat} {cols : Columns} {engine : σ}
    (hsteps : E.Steps native cols engine rows e) {c : Sqlite.Cursor} {n : Sqlite.Statement}
    (h : s.cursor? id = some (.stepping t c)) (hn : s.statement? t = some (.embedded n))
    (hc : c.isCurrent n = true) (hr : n.onRow = true) (hnative : n.native = native)
    (hcols : c.columns = cols) (hengine : s.engine = engine) : (feed E id).Behind s rows e := by
  induction hsteps generalizing s c n with
  | done hstep =>
    have hend : ((feed E id).advance s).1 = .ok false := by
      simp [feed, advance_stepping h hn, Sqlite.Cursor.advance_onRow hc hr, hnative, hengine, hstep]
    exact .exhausted (Prod.ext hend rfl)
  | @failed _ _ f hstep =>
    have hend : ((feed E id).advance s).1 = .error (f.at .fetch) := by
      simp [feed, advance_stepping h hn, Sqlite.Cursor.advance_onRow hc hr, hnative, hengine, hstep]
    exact .broken (Prod.ext hend rfl)
  | @row engine engine' rows e hstep _ ih =>
    let c' : Sqlite.Cursor :=
      { c with classes := Sqlite.capture E n c.columns.length engine', steps := c.steps + 1 }
    have ha : c.advance E n s.engine = (.ok true, c', n, engine') := by
      simp [Sqlite.Cursor.advance_onRow hc hr, hnative, hengine, hstep, c']
    obtain ⟨hmore, hc', hn', he'⟩ := stepped h hn ha
    refine .row (Prod.ext hmore rfl) ?_ (ih hc' hn' hc hr hnative hcols he')
    have hcur := Sqlite.Cursor.current_captured (E := E) (c := c') (s := engine') hc hr rfl
    have hshow : (feed E id).current ((feed E id).advance s).2 = c'.current E n engine' := by
      simp [feed, current, hc', hn', he']
    rw [hshow, hcur, hnative]
    simp only [c', hcols]

/-- A cursor whose turn it is still has all its rows ahead. The rows of an execution or a buffer are
those that it holds, those of a source that breaks end at the break, and those of a native statement
are the one it stands on and the ones that it will step to. -/
def Unread (E : Sqlite.Engine σ) (id : Nat) (s : Session σ) (rows : List LiveRow)
    (e : Option Error) : Prop :=
  match s.cursor? id with
  | some (.fetched t c) =>
    c.isCurrent (s.generation t) = true ∧ c.index = 0 ∧ rows = c.rows ∧ e = none
  | some (.stepping t c) => ∃ n, s.statement? t = some (.embedded n) ∧ c.isCurrent n = true ∧
      c.steps = 0 ∧
      if n.onRow then
        ∃ first rest, c.current E n s.engine = .ok first ∧ rows = first :: rest ∧
          E.Steps n.native c.columns s.engine rest e
      else rows = [] ∧ e = none
  | some (.buffered b) => b.index = 0 ∧ rows = b.rows.map Row.live ∧ e = none
  | some (.faulty c) => c.index = 0 ∧ rows = c.script.1.map Row.live ∧ e = c.script.2
  | none => False

theorem Unread.ahead (h : s.Unread E id rows e) : (feed E id).Ahead s rows e := by
  unfold Unread at h
  cases hc : s.cursor? id with
  | none => simp [hc] at h
  | some cursor =>
    cases cursor with
    | fetched t c =>
      simp only [hc] at h
      obtain ⟨hcur, hi, rfl, rfl⟩ := h
      cases hrows : c.rows with
      | nil => exact .nothing (by simp [feed, hasRow, hc, Fetched.hasRow, hrows])
      | cons row rest =>
        have hb := behind_fetched (E := E) hc hcur
        rw [hi, hrows] at hb
        refine .row ?_ ?_ hb
        · simp [feed, hasRow, hc, Fetched.hasRow, hcur, hi, hrows]
        · simp [feed, current, hc, Fetched.current, hcur, hi, hrows]
    | stepping t c =>
      simp only [hc] at h
      obtain ⟨n, hn, hcur, -, h⟩ := h
      by_cases hr : n.onRow = true
      · simp only [hr, if_true] at h
        obtain ⟨first, rest, hfirst, rfl, hsteps⟩ := h
        refine .row ?_ ?_ (behind_stepping hsteps hc hn hcur hr rfl rfl rfl)
        · simp [feed, hasRow, hc, hn, Sqlite.Cursor.hasRow, hcur, hr]
        · simp [feed, current, hc, hn, hfirst]
      · simp only [hr] at h
        obtain ⟨rfl, rfl⟩ := h
        exact .nothing (by simp [feed, hasRow, hc, hn, Sqlite.Cursor.hasRow, hr])
    | buffered b =>
      simp only [hc] at h
      obtain ⟨hi, rfl, rfl⟩ := h
      cases hrows : b.rows with
      | nil => exact .nothing (by simp [feed, hasRow, hc, Buffered.hasRow, hrows])
      | cons row rest =>
        have hb := behind_buffered (E := E) hc
        rw [hi, hrows] at hb
        refine .row ?_ ?_ hb
        · simp [feed, hasRow, hc, Buffered.hasRow, hi, hrows]
        · simp [feed, current, hc, Buffered.current, hi, hrows, Except.map]
    | faulty c =>
      simp only [hc] at h
      obtain ⟨hi, rfl, rfl⟩ := h
      generalize hrows : c.script.1.map Row.live = rows
      generalize hend : c.script.2 = e
      have ha := Faulty.ahead hi
      rw [hrows, hend] at ha
      cases ha with
      | nothing hr => exact .nothing (by simpa [feed, hasRow, hc, Faulty.feed] using hr)
      | row hr hcur hb =>
        exact .row (by simpa [feed, hasRow, hc, Faulty.feed] using hr)
          (by simpa [feed, current, hc, Faulty.feed] using hcur) (behind_faulty hc hb)

end SqlGateway.Session
