import SqlGateway.Proofs.Rows.Walk
import SqlGateway.Rows.Buffered
import SqlGateway.Rows.Fetched

namespace SqlGateway

namespace Fetched

variable {live : UInt64} {c : Fetched}

theorem advance_stale (h : c.isCurrent live = false) :
    c.advance live = (.error .invalidIterator, c) := by simp [advance, h]

theorem current_stale (h : c.isCurrent live = false) :
    c.current live = .error .invalidIterator := by simp [current, h]

theorem hasRow_stale (h : c.isCurrent live = false) : c.hasRow live = false := by simp [hasRow, h]

theorem advance_of_lt (h : c.isCurrent live = true) (hi : c.index < c.rows.length) :
    c.advance live =
      (.ok (decide (c.index + 1 < c.rows.length)), { c with index := c.index + 1 }) := by
  simp [advance, h, hi]

theorem behind (h : c.isCurrent live = true) :
    (feed live).Behind c (c.rows.drop (c.index + 1)) none := by
  by_cases hi : c.index < c.rows.length
  · refine Feed.Behind.of_places (s := { c with index := c.rows.length })
      (fun i ↦ { c with index := c.index + i }) (fun i hlt ↦ ?_) ?_
    · have hlt' : c.index + (i + 1) < c.rows.length := by
        rw [List.length_drop] at hlt
        omega
      have hc : ({ c with index := c.index + (i + 1) } : Fetched).isCurrent live = true := h
      constructor
      · have ha := advance_of_lt (c := { c with index := c.index + i }) h (by simp only; omega)
        simpa [feed, Nat.add_assoc, hlt'] using ha
      · simp [feed, current, hc, hlt', Nat.add_assoc, Nat.add_comm 1]
    · have hlast : c.index + (c.rows.length - (c.index + 1)) + 1 = c.rows.length := by omega
      have ha := advance_of_lt (c := { c with index := c.index + (c.rows.length - (c.index + 1)) })
        h (by simp only; omega)
      simpa [feed, hlast, Feed.pastLast] using ha
  · rw [List.drop_eq_nil_of_le (by omega)]
    have hend : (feed live).advance c = (.ok false, c) := by simp [feed, advance, h, hi]
    exact .exhausted hend

end Fetched

namespace Buffered

/-- A buffer answers as a cursor whose statement is never executed again. -/
theorem behind (b : Buffered) : feed.Behind b ((b.rows.drop (b.index + 1)).map Row.live) none := by
  let twin (b : Buffered) : Fetched := ⟨b.columns, b.rows.map Row.live, b.stats, 0, b.index⟩
  have htwin : (twin b).isCurrent 0 = true := by simp [twin, Fetched.isCurrent]
  have hb := Fetched.behind htwin
  rw [List.map_drop]
  refine hb.of_simulation (fun c b ↦ c = twin b) ?_ ?_ rfl
  · rintro _ b rfl
    by_cases hi : b.index < b.rows.length <;>
      simp [Fetched.feed, Fetched.advance, Fetched.isCurrent, feed, advance, hasRow, twin, hi]
  · rintro _ b rfl
    cases hr : b.rows[b.index]? <;>
      simp [Fetched.feed, Fetched.current, Fetched.isCurrent, feed, current, twin, hr, Except.map]

end Buffered

namespace Faulty

variable {c : Faulty}

def script (c : Faulty) : List Row × Option Error :=
  match c.breakAt with
  | none => (c.rows, none)
  | some b => if 0 < b ∧ b ≤ c.rows.length then (c.rows.take b, some c.failure) else (c.rows, none)

theorem advance_of_lt (hb : c.breakAt ≠ some (c.index + 1)) (hi : c.index < c.rows.length) :
    c.advance = (.ok (decide (c.index + 1 < c.rows.length)), { c with index := c.index + 1 }) := by
  simp [advance, hb, hi, hasRow]

theorem script_of_break {b : ℕ} (hb : c.breakAt = some b) (hpos : 0 < b) (hle : b ≤ c.rows.length) :
    c.script = (c.rows.take b, some c.failure) := by simp [script, hb, hpos, hle]

theorem script_of_no_break (h : ∀ b, c.breakAt = some b → ¬ (0 < b ∧ b ≤ c.rows.length)) :
    c.script = (c.rows, none) := by
  cases hb : c.breakAt with
  | none => simp [script, hb]
  | some b => simp only [script, hb, if_neg (h b hb)]

theorem behind_places {n : ℕ} {e : Option Error} {s : Faulty} (hi : c.index < n)
    (hn : n ≤ c.rows.length) (hb : ∀ b, c.breakAt = some b → b ≤ c.index ∨ n ≤ b)
    (hlast : ({ c with index := n - 1 } : Faulty).advance = (Feed.pastLast e, s)) :
    feed.Behind c (((c.rows.take n).drop (c.index + 1)).map Row.live) e := by
  refine Feed.Behind.of_places (s := s) (fun i ↦ { c with index := c.index + i })
    (fun i hlt ↦ ?_) ?_
  · have hlt' : c.index + (i + 1) < n := by
      simp only [List.length_map, List.length_drop, List.length_take] at hlt
      omega
    have hnb : c.breakAt ≠ some (c.index + i + 1) := by
      intro h
      have := hb _ h
      omega
    constructor
    · have ha := advance_of_lt (c := { c with index := c.index + i }) hnb (by simp only; omega)
      have hrow : c.index + (i + 1) < c.rows.length := by omega
      simpa [feed, Nat.add_assoc, hrow] using ha
    · have hrow : c.index + (i + 1) < c.rows.length := by omega
      simp [feed, current, hrow, Nat.add_assoc, Nat.add_comm 1]
  · have hlen : c.index + (((c.rows.take n).drop (c.index + 1)).map Row.live).length = n - 1 := by
      simp only [List.length_map, List.length_drop, List.length_take]
      omega
    simpa only [feed, hlen] using hlast

theorem script_places (hpos : 0 < c.rows.length) (hc : c.index = 0) :
    ∃ n, 0 < n ∧ n ≤ c.rows.length ∧ c.script.1 = c.rows.take n ∧
      (∀ b, c.breakAt = some b → b ≤ c.index ∨ n ≤ b) ∧
      ∃ s, ({ c with index := n - 1 } : Faulty).advance = (Feed.pastLast c.script.2, s) := by
  by_cases hbreak : ∃ b, c.breakAt = some b ∧ 0 < b ∧ b ≤ c.rows.length
  · obtain ⟨b, hb, hbpos, hble⟩ := hbreak
    have hs := script_of_break hb hbpos hble
    refine ⟨b, hbpos, hble, by rw [hs], fun b' hb' ↦ ?_, { c with index := b - 1 }, ?_⟩
    · rw [hb] at hb'
      cases hb'
      exact .inr (Nat.le_refl _)
    · have hsub : b - 1 + 1 = b := by omega
      simp [advance, hb, hsub, hs, Feed.pastLast]
  · have hno : ∀ b, c.breakAt = some b → ¬ (0 < b ∧ b ≤ c.rows.length) :=
      fun b hb h ↦ hbreak ⟨b, hb, h⟩
    have hs := script_of_no_break hno
    refine ⟨c.rows.length, hpos, Nat.le_refl _, by simp [hs], fun b hb ↦ ?_,
      { c with index := c.rows.length }, ?_⟩
    · have := hno b hb
      omega
    · have hsub : c.rows.length - 1 + 1 = c.rows.length := by omega
      have hnb : c.breakAt ≠ some (c.rows.length - 1 + 1) :=
        fun hb ↦ hno _ hb ⟨by omega, by omega⟩
      have ha := advance_of_lt (c := { c with index := c.rows.length - 1 }) hnb
        (by simp only; omega)
      simpa [hsub, hs, Feed.pastLast] using ha

theorem ahead (hc : c.index = 0) : feed.Ahead c (c.script.1.map Row.live) c.script.2 := by
  by_cases hrows : c.rows = []
  · have hs : c.script = ([], none) := by
      rw [script_of_no_break, hrows]
      intro b _ h
      rw [hrows, List.length_nil] at h
      omega
    rw [hs]
    exact .nothing (by simp [feed, hasRow, hrows])
  · have hpos : 0 < c.rows.length := List.length_pos_iff.mpr hrows
    obtain ⟨n, hn, hle, hs, hb, s, hlast⟩ := script_places hpos hc
    have hfirst : c.rows.take n = c.rows[0] :: (c.rows.take n).drop (c.index + 1) := by
      have hlen : 0 < (c.rows.take n).length := by
        rw [List.length_take]
        omega
      have h := List.drop_eq_getElem_cons hlen
      simpa [hc] using h
    rw [hs, hfirst, List.map_cons]
    refine .row ?_ ?_ (behind_places (by omega) hle hb hlast)
    · simp [feed, hasRow, hc, hpos]
    · simp [feed, current, hc, hpos]

end Faulty
end SqlGateway
