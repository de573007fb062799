import SqlGateway.Command.Run
import SqlGateway.Proofs.Session.Readers

namespace SqlGateway.Command

open Feed

variable {σ : Type}

namespace Printed

variable (p : Printer) (limit : Option ℕ)

def shown (values : List Row) : List Row :=
  match limit with
  | some n => values.take n
  | none => values

/-- What printing answers if a failure lies behind the values. It is met only where the limit lets
printing go on behind the last of them. -/
def answer (values : List Row) : Option Error → Result ℕ
  | none => .ok (shown limit values).length
  | some e =>
    if limit.any (· ≤ values.length) then .ok (shown limit values).length else .error e

/-- A callback that prints a row and asks for more below the limit. -/
def printing (out : Printed) (row : Row) : Verdict × Printed :=
  ((out.addRow p row).verdict limit, out.addRow p row)

theorem count_foldl_addRow (values : List Row) (out : Printed) :
    (values.foldl (fun out row ↦ out.addRow p row) out).count = out.count + values.length := by
  induction values generalizing out with
  | nil => rfl
  | cons row values ih =>
    rw [List.foldl_cons, ih, List.length_cons]
    simp only [addRow]
    omega

theorem ofRows_eq (values : List Row) :
    ofRows p limit values =
      (shown limit values).foldl (fun out row ↦ out.addRow p row) { text := p.header } := by
  cases limit <;> rfl

theorem count_ofRows (values : List Row) :
    (ofRows p limit values).count = (shown limit values).length := by
  rw [ofRows_eq, count_foldl_addRow, Nat.zero_add]

variable {limit}

theorem visitRows_printing (rows : List LiveRow) (e : Option Error) (out : Printed)
    (hroom : ∀ n, limit = some n → out.count < n) :
    let values := (readable rows e).1
    let left := limit.map (· - out.count)
    visitRows (handing (printing p limit)) out rows e =
      (if left.any (· ≤ values.length) then .stopped else .ofFailure (readable rows e).2,
        (shown left values).foldl (fun out row ↦ out.addRow p row) out) := by
  induction rows generalizing out with
  | nil =>
    cases limit with
    | none => cases e <;> rfl
    | some n =>
      have hlt := hroom n rfl
      have hleft : n - out.count ≠ 0 := by omega
      cases e <;> simp [visitRows, readable, shown, hleft, Ending.ofFailure]
  | cons row rows ih =>
    cases hd : row.detach with
    | error failure =>
      cases limit with
      | none => simp [visitRows, handing, readable, hd, shown, Ending.ofFailure]
      | some n =>
        have hlt := hroom n rfl
        have hleft : n - out.count ≠ 0 := by omega
        simp [visitRows, handing, readable, hd, shown, hleft, Ending.ofFailure]
    | ok values =>
      cases limit with
      | none =>
        have hrest := ih (out.addRow p values) (by simp)
        simp only [Option.map_none, Option.any_none] at hrest
        simpa [visitRows, handing, printing, verdict, readable, hd, shown] using hrest
      | some n =>
        have hlt := hroom n rfl
        -- the row that reaches the limit is shown, and printing stops on it
        by_cases hlast : n = out.count + 1
        · subst hlast
          simp [visitRows, handing, printing, verdict, addRow, readable, hd, shown]
        · have hrest := ih (out.addRow p values) fun m hm ↦ by
            obtain rfl := Option.some.inj hm
            simp only [addRow]
            omega
          have hleft : n - out.count = n - (out.count + 1) + 1 := by omega
          simp only [Option.map_some, Option.any_some, addRow] at hrest
          simp [visitRows, handing, printing, verdict, addRow, readable, hd, shown, hlast, hleft,
            hrest]

theorem advances_printing (rows : List LiveRow) (out : Printed) {n : ℕ} (hn : out.count < n) :
    advances (handing (printing p (some n))) out rows ≤ n - out.count - 1 := by
  induction rows generalizing out with
  | nil => exact Nat.zero_le _
  | cons row rows ih =>
    cases hd : row.detach with
    | error failure => simp [advances, handing, hd]
    | ok values =>
      by_cases hlast : n = out.count + 1
      · simp [advances, handing, hd, printing, verdict, addRow, hlast]
      · have hrest := ih (out.addRow p values) (by simp only [addRow]; omega)
        have hmore : handing (printing p (some n)) out row = (.more, out.addRow p values) := by
          simp [handing, hd, printing, verdict, addRow, hlast]
        simp only [advances, hmore]
        simp only [addRow] at hrest ⊢
        omega

variable (limit)

def moves (rows : List LiveRow) : ℕ :=
  if limit = some 0 then 0
  else advances (handing (printing p limit)) { text := p.header } rows

theorem moves_le (rows : List LiveRow) {n : ℕ} (hn : limit = some n) :
    moves p limit rows ≤ n - 1 := by
  subst hn
  unfold moves
  split
  · exact Nat.zero_le _
  · rename_i hpos
    have hn : 0 < n := Nat.pos_of_ne_zero fun h ↦ hpos (congrArg some h)
    simpa using advances_printing p rows { text := p.header } hn

variable {f : Feed σ} {s : σ} {rows : List LiveRow} {e : Option Error}

theorem byCursor_eq (hzero : limit ≠ some 0) :
    byCursor f p limit s =
      match f.walk (handing (printing p limit)) { text := p.header } s with
      | (.failed e, out, s) => (.error e, out.text, s)
      | (_, out, s) => (.ok out.count, out.text, s) := by
  rw [byCursor, if_neg hzero]
  rfl

theorem byCallback_eq (hzero : limit ≠ some 0) :
    byCallback f p limit s =
      match f.forEach (printing p limit) { text := p.header } s with
      | (.error e, out, s) => (.error e, out.text, s)
      | (.ok _, out, s) => (.ok out.count, out.text, s) := by
  rw [byCallback, if_neg hzero]
  rfl

theorem byCursor_ahead (h : f.Ahead s rows e) :
    byCursor f p limit s =
      (answer limit (readable rows e).1 (readable rows e).2,
        (ofRows p limit (readable rows e).1).text, f.forward^[moves p limit rows] s) := by
  by_cases hzero : limit = some 0
  · subst hzero
    cases hf : (readable rows e).2 <;> simp [byCursor, ofRows, answer, shown, moves]
  · have hroom : ∀ n, limit = some n → ({ text := p.header } : Printed).count < n :=
      fun n hn ↦ Nat.pos_of_ne_zero fun h ↦ hzero (by rw [hn, h])
    have hvisit := visitRows_printing p rows e _ hroom
    have hleft : limit.map (· - ({ text := p.header } : Printed).count) = limit := by
      cases limit <;> rfl
    simp only [hleft] at hvisit
    have hcount := count_ofRows p limit (readable rows e).1
    rw [byCursor_eq p limit hzero, walk_eq _ h, hvisit, ← ofRows_eq]
    simp only [moves, if_neg hzero]
    by_cases hreached : limit.any (· ≤ (readable rows e).1.length) = true
    · cases hf : (readable rows e).2 <;> simp [answer, hreached, hcount]
    · cases hf : (readable rows e).2 <;> simp [answer, hreached, hcount, Ending.ofFailure]

theorem byCallback_eq_byCursor (h : f.Ahead s rows e) :
    byCallback f p limit s = byCursor f p limit s := by
  by_cases hzero : limit = some 0
  · simp [byCallback, byCursor, hzero]
  · obtain ⟨calls, hcalls⟩ := forEach_handing (printing p limit) h { text := p.header }
    rw [byCallback_eq p limit hzero, byCursor_eq p limit hzero, hcalls]
    rcases f.walk (handing (printing p limit)) { text := p.header } s with ⟨ending, out, s'⟩
    cases ending <;> rfl

end Printed

variable {E : Sqlite.Engine σ} {t c : ℕ} {s s₁ : Session σ} {rows : List LiveRow}
  {e : Option Error}

theorem printRows_error {failure : Error} (h : Session.run E t s = (.error failure, s₁))
    (mode : Mode) (limit : Option ℕ) (style : OutputStyle) :
    printRows E t mode limit style s = (.error failure, "", s₁) := by
  cases mode <;> simp [printRows, Session.runBuffered, h]

theorem printRows_cursor (h : Session.run E t s = (.ok c, s₁)) (limit : Option ℕ)
    (style : OutputStyle) :
    printRows E t .cursor limit style s =
      let out := Printed.byCursor (Session.feed E c) ⟨style, (Session.columns c s₁).names⟩ limit s₁
      (out.1, out.2.1, Session.dropCursor E c out.2.2) := by
  simp [printRows, h]

theorem printRows_callback (h : Session.run E t s = (.ok c, s₁)) (limit : Option ℕ)
    (style : OutputStyle) :
    printRows E t .callback limit style s =
      let out := Printed.byCallback (Session.feed E c) ⟨style, (Session.columns c s₁).names⟩ limit
        s₁
      (out.1, out.2.1, Session.dropCursor E c out.2.2) := by
  simp [printRows, h]

theorem printRows_buffered (h : Session.run E t s = (.ok c, s₁)) (hrows : s₁.Unread E c rows e)
    (limit : Option ℕ) (style : OutputStyle) :
    let out := printRows E t .buffered limit style s
    (out.1, out.2.1) =
      match (readable rows e).2 with
      | none =>
        let out := Printed.ofRows ⟨style, (Session.columns c s₁).names⟩ limit (readable rows e).1
        (.ok out.count, out.text)
      | some failure => (.error failure, "") := by
  have hbuffer : (Session.runBuffered E t s).1 =
      Session.bufferOf (Session.columns c s₁) (Session.stats c s₁) (readable rows e).1
        (readable rows e).2 := by
    simp only [Session.runBuffered, h]
    exact Session.toBuffered_unread hrows
  rcases hr : Session.runBuffered E t s with ⟨r, s₂⟩
  rw [hr] at hbuffer
  cases hf : (readable rows e).2 with
  | none =>
    simp only [hf, Session.bufferOf] at hbuffer
    simp [printRows, hr, hbuffer]
  | some failure =>
    simp only [hf, Session.bufferOf] at hbuffer
    simp [printRows, hr, hbuffer]

/-- Whatever the limit and the style, a query prints the same text and answers the same through a
cursor and through a callback: the readable rows up to the limit, and the failure behind them if the
limit is beyond. With a limit, both move on fewer times than it says. Read as a whole, the result is
printed alike if all its rows are readable, and otherwise the first failure is all there is. -/
theorem modes_agree (E : Sqlite.Engine σ) (t : ℕ) (limit : Option ℕ) (style : OutputStyle)
    (s : Session σ) :
    (∀ failure s₁, Session.run E t s = (.error failure, s₁) →
      ∀ mode, printRows E t mode limit style s = (.error failure, "", s₁)) ∧
    ∀ c s₁ rows e, Session.run E t s = (.ok c, s₁) → s₁.Unread E c rows e →
      let values := (readable rows e).1
      let failure := (readable rows e).2
      let p : Printer := ⟨style, (Session.columns c s₁).names⟩
      let answer := Printed.answer limit values failure
      let text := (Printed.ofRows p limit values).text
      (∃ calls s₂, (∀ m, limit = some m → calls ≤ m - 1) ∧
        Printed.byCursor (Session.feed E c).metered p limit (s₁, 0) =
          (answer, text, s₂, calls) ∧
        Printed.byCallback (Session.feed E c).metered p limit (s₁, 0) =
          (answer, text, s₂, calls) ∧
        printRows E t .cursor limit style s = (answer, text, Session.dropCursor E c s₂) ∧
        printRows E t .callback limit style s = (answer, text, Session.dropCursor E c s₂)) ∧
      let buffered := printRows E t .buffered limit style s
      (buffered.1, buffered.2.1) =
        match failure with
        | none => (answer, text)
        | some failure => (.error failure, "") := by
  refine ⟨fun failure s₁ h mode ↦ printRows_error h mode limit style, ?_⟩
  intro c s₁ rows e hrun hrows values failure p answer text
  have hcursor := Printed.byCursor_ahead p limit hrows.ahead
  have hcallback := Printed.byCallback_eq_byCursor p limit hrows.ahead
  have hmetered := hrows.ahead.metered 0
  refine ⟨⟨Printed.moves p limit rows, (Session.feed E c).forward^[Printed.moves p limit rows] s₁,
    fun m hm ↦ Printed.moves_le p limit rows hm, ?_, ?_, ?_, ?_⟩, ?_⟩
  · rw [Printed.byCursor_ahead p limit hmetered, iterate_forward_metered, Nat.zero_add]
  · rw [Printed.byCallback_eq_byCursor p limit hmetered, Printed.byCursor_ahead p limit hmetered,
      iterate_forward_metered, Nat.zero_add]
  · rw [printRows_cursor hrun, hcursor]
  · rw [printRows_callback hrun, hcallback, hcursor]
  · have hbuffered := printRows_buffered hrun hrows limit style
    intro buffered
    rw [hbuffered]
    change (match failure with | none => _ | some failure => _) = _
    cases hf : failure with
    | none =>
      have hanswer : answer = .ok (Printed.shown limit values).length := by
        simp [answer, Printed.answer, hf]
      rw [hanswer, ← Printed.count_ofRows p limit values]
    | some failure => rfl

theorem modes_agree_damaged :
    let s₁ := (Session.run Sql.engine 0 Session.damagedPrepared).2
    let print := fun mode ↦ printRows Sql.engine 0 mode (some 1) {} Session.damagedPrepared
    Session.run Sql.engine 0 Session.damagedPrepared = (.ok 0, s₁) ∧
    s₁.Unread Sql.engine 0 Session.damagedRows none ∧
    (print .cursor).1 = .ok 1 ∧ (print .cursor).2.1 = "n\n1\n" ∧
    print .callback = print .cursor ∧
    (print .buffered).1 = .error (Postgres.undecodable 0) ∧ (print .buffered).2.1 = "" := by
  intro s₁ print
  have hrun : Session.run Sql.engine 0 Session.damagedPrepared = (.ok 0, s₁) := Prod.ext rfl rfl
  have hrows : s₁.Unread Sql.engine 0 Session.damagedRows none :=
    ⟨rfl, rfl, Session.damagedRows_eq, rfl⟩
  obtain ⟨⟨calls, s₂, -, -, -, hcursor, hcallback⟩, hbuffered⟩ :=
    (modes_agree Sql.engine 0 (some 1) {} Session.damagedPrepared).2 0 s₁ _ none hrun hrows
  have htext : (Printed.ofRows ⟨{}, (Session.columns 0 s₁).names⟩ (some 1) [[.int 1]]).text =
      "n\n1\n" := by decide +kernel
  exact ⟨hrun, hrows, congrArg (·.1) hcursor, (congrArg (·.2.1) hcursor).trans htext,
    hcallback.trans hcursor.symm, congrArg Prod.fst hbuffered, congrArg Prod.snd hbuffered⟩

end SqlGateway.Command
