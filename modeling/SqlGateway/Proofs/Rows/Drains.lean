import SqlGateway.Proofs.Rows.Sources
import SqlGateway.Proofs.Rows.Stopped

namespace SqlGateway

theorem Feed.enoughAt_of_goesOn {κ : Type} {callback : κ → Row → Verdict × κ} {k : κ}
    {rows : List Row} (h : GoesOn callback k rows) :
    EnoughAt callback k (rows.length + 1) rows := by
  induction rows generalizing k with
  | nil => trivial
  | cons row rows ih =>
    obtain ⟨hmore, hrest⟩ := h
    exact ⟨hmore, ih hrest⟩

namespace Buffered

open Feed

variable {b : Buffered}

theorem hasRow_eq_false_iff : b.hasRow = false ↔ b.rows.length ≤ b.index := by
  rw [hasRow, decide_eq_false_iff_not, Nat.not_lt]

theorem current_of_lt (h : b.index < b.rows.length) : b.current = .ok b.rows[b.index] := by
  rw [current, List.getElem?_eq_getElem h]

theorem current_of_le (h : b.rows.length ≤ b.index) : b.current = .error .invalidIterator := by
  rw [current, List.getElem?_eq_none h]

theorem advance_of_le (h : b.rows.length ≤ b.index) : b.advance = (false, b) := by
  have hnot : ¬ b.index < b.rows.length := Nat.not_lt.mpr h
  simp only [advance, if_neg hnot, hasRow_eq_false_iff.mpr h]

theorem iterate_forward (h : b.index ≤ b.rows.length) (m : ℕ) :
    feed.forward^[m] b = { b with index := min (b.index + m) b.rows.length } := by
  induction m with
  | zero => rw [Function.iterate_zero_apply, Nat.add_zero, Nat.min_eq_left h]
  | succ m ih =>
    rw [Function.iterate_succ_apply', ih]
    have hadvance (c : Buffered) : feed.forward c =
        { c with index := if c.index < c.rows.length then c.index + 1 else c.index } := by
      by_cases hc : c.index < c.rows.length <;> simp [forward, feed, advance, hc]
    rw [hadvance]
    congr 1
    simp only
    split <;> omega

theorem ahead (b : Buffered) : feed.Ahead b ((b.rows.drop b.index).map Row.live) none := by
  by_cases h : b.index < b.rows.length
  · have hcurrent : feed.current b = .ok b.rows[b.index].live := by
      simp only [feed, current_of_lt h, Except.map]
    rw [List.drop_eq_getElem_cons h]
    exact .row (decide_eq_true h) hcurrent b.behind
  · rw [List.drop_eq_nil_of_le (Nat.le_of_not_lt h)]
    exact .nothing (decide_eq_false h)

/-- These rows are read from the buffer, in this order: by a loop, of which a limit cuts off what is
behind it, by a callback, or all at once. -/
structure Drains (b : Buffered) (rows : List Row) : Prop where
  loop : feed.take none b = (.exhausted, rows.map Row.live, { b with index := b.rows.length })
  part : ∀ m, feed.take (some m) b =
    (if m ≤ rows.length then .stopped else .exhausted, (rows.take m).map Row.live,
      { b with index := if m ≤ rows.length then b.index + (m - 1) else b.rows.length })
  each : ∀ {κ : Type} (callback : κ → Row → Verdict × κ) (k : κ),
    Shown callback k rows none (feed.forEach callback k b).1 (feed.forEach callback k b).2.1
  whole : feed.collect b = (.ok rows, { b with index := b.rows.length })

variable (h : b.index ≤ b.rows.length)

include h

theorem iterate_forward_length :
    feed.forward^[(b.rows.drop b.index).length] b = { b with index := b.rows.length } := by
  rw [iterate_forward h, List.length_drop, Nat.add_sub_cancel' h, Nat.min_self]

theorem take_all : feed.take none b =
    (.exhausted, (b.rows.drop b.index).map Row.live, { b with index := b.rows.length }) := by
  have htake := take_enoughAt b.ahead (Option.some_ne_none _).symm (enoughAt_taking_none _ [])
  rw [if_pos (Nat.le_refl _), List.take_of_length_le (Nat.le_succ _), Nat.min_self,
    List.length_map, iterate_forward_length h] at htake
  exact htake

theorem take_part (m : ℕ) : feed.take (some m) b =
    (if m ≤ (b.rows.drop b.index).length then .stopped else .exhausted,
      ((b.rows.drop b.index).take m).map Row.live,
      { b with index := if m ≤ (b.rows.drop b.index).length then b.index + (m - 1)
          else b.rows.length }) := by
  cases m with
  | zero => simp [take]
  | succ m =>
    rw [take_ahead b.ahead, iterate_forward h, List.length_map, ← List.map_take, List.length_drop]
    by_cases hm : m + 1 ≤ b.rows.length - b.index
    · have hmin : min (b.index + min m (b.rows.length - b.index)) b.rows.length = b.index + m := by
        omega
      rw [if_neg (by omega), if_pos hm, if_pos hm, hmin, Nat.add_sub_cancel]
    · have hmin : min (b.index + min m (b.rows.length - b.index)) b.rows.length =
          b.rows.length := by
        omega
      rw [if_pos (by omega), if_neg hm, if_neg hm, hmin]

theorem collect_all :
    feed.collect b = (.ok (b.rows.drop b.index), { b with index := b.rows.length }) := by
  have henough := enoughAt_of_goesOn (goesOn_keeping (b.rows.drop b.index) [])
  rw [collect_eq, forEach_enoughAt b.ahead henough, List.take_of_length_le (Nat.le_succ _),
    Nat.min_self, iterate_forward_length h, afterCalls_keeping, List.append_nil]
  simp only [List.reverse_reverse]

theorem drains : b.Drains (b.rows.drop b.index) where
  loop := take_all h
  part := take_part h
  each callback k := by
    obtain ⟨m, hm⟩ := forEach_ahead callback b.ahead k
    rw [hm, readable_live]
    exact shown_showRows callback k _ _
  whole := collect_all h

end Buffered
end SqlGateway
