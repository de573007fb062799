import Mathlib.Logic.Function.Iterate
import SqlGateway.Rows.Feed

namespace SqlGateway.Feed

variable {σ τ κ : Type}

/-- Rows behind the one that a source stands on, and the failure to move on that ends them, if
there is one. -/
inductive Behind (f : Feed σ) : σ → List LiveRow → Option Error → Prop
  | exhausted {s s' : σ} : f.advance s = (.ok false, s') → Behind f s [] none
  | broken {s s' : σ} {e : Error} : f.advance s = (.error e, s') → Behind f s [] (some e)
  | row {s s' : σ} {row : LiveRow} {rows : List LiveRow} {e : Option Error} :
      f.advance s = (.ok true, s') → f.current s' = .ok row → Behind f s' rows e →
      Behind f s (row :: rows) e

/-- Rows from the one that a source stands on. -/
inductive Ahead (f : Feed σ) : σ → List LiveRow → Option Error → Prop
  | nothing {s : σ} : f.hasRow s = false → Ahead f s [] none
  | row {s : σ} {row : LiveRow} {rows : List LiveRow} {e : Option Error} :
      f.hasRow s = true → f.current s = .ok row → Behind f s rows e → Ahead f s (row :: rows) e

def pastLast : Option Error → Result Bool
  | none => .ok false
  | some e => .error e

theorem Behind.last {f : Feed σ} {s s' : σ} {e : Option Error}
    (h : f.advance s = (pastLast e, s')) : f.Behind s [] e := by
  cases e with
  | none => exact .exhausted h
  | some e => exact .broken h

/-- A source that moves through numbered places has the rows of these places behind it. -/
theorem Behind.of_places {f : Feed σ} {rows : List LiveRow} {e : Option Error} {s : σ}
    (place : ℕ → σ)
    (hmove : ∀ i (h : i < rows.length),
      f.advance (place i) = (.ok true, place (i + 1)) ∧ f.current (place (i + 1)) = .ok rows[i])
    (hlast : f.advance (place rows.length) = (pastLast e, s)) : f.Behind (place 0) rows e := by
  induction rows generalizing place with
  | nil => exact .last hlast
  | cons row rows ih =>
    obtain ⟨ha, hc⟩ := hmove 0 (by simp)
    refine .row ha hc (ih (fun i ↦ place (i + 1)) (fun i h ↦ ?_) hlast)
    exact hmove (i + 1) (by simpa using h)

theorem Behind.of_simulation {f : Feed σ} {g : Feed τ} (R : σ → τ → Prop)
    (hadvance : ∀ a b, R a b →
      (g.advance b).1 = (f.advance a).1 ∧ R (f.advance a).2 (g.advance b).2)
    (hcurrent : ∀ a b, R a b → g.current b = f.current a)
    {a : σ} {rows : List LiveRow} {e : Option Error} (h : f.Behind a rows e) {b : τ} (hR : R a b) :
    g.Behind b rows e := by
  induction h generalizing b with
  | exhausted ha =>
    obtain ⟨hr, -⟩ := hadvance _ b hR
    rw [ha] at hr
    exact .exhausted (Prod.ext hr rfl)
  | broken ha =>
    obtain ⟨hr, -⟩ := hadvance _ b hR
    rw [ha] at hr
    exact .broken (Prod.ext hr rfl)
  | row ha hc _ ih =>
    obtain ⟨hr, hR'⟩ := hadvance _ b hR
    rw [ha] at hr hR'
    exact .row (Prod.ext hr rfl) ((hcurrent _ _ hR').trans hc) (ih hR')

def visitRows (visit : κ → LiveRow → Verdict × κ) : κ → List LiveRow → Option Error → Ending × κ
  | k, [], none => (.exhausted, k)
  | k, [], some e => (.failed e, k)
  | k, row :: rows, e =>
    match visit k row with
    | (.more, k) => visitRows visit k rows e
    | (.enough, k) => (.stopped, k)
    | (.fail e, k) => (.failed e, k)

/-- How often a visitor that is shown these rows makes a walk move on from one of them. -/
def advances (visit : κ → LiveRow → Verdict × κ) : κ → List LiveRow → ℕ
  | _, [] => 0
  | k, row :: rows =>
    match visit k row with
    | (.more, k) => advances visit k rows + 1
    | _ => 0

def forward (f : Feed σ) (s : σ) : σ := (f.advance s).2

theorem walkFrom_eq (f : Feed σ) (visit : κ → LiveRow → Verdict × κ) (started : Bool) (k : κ)
    (s : σ) :
    f.walkFrom visit started k s =
      match f.turn visit (started, k, s) with
      | .inl (started, k, s) => f.walkFrom visit started k s
      | .inr ended => ended := by
  have : Nonempty (Ending × κ × σ) := ⟨.exhausted, k, s⟩
  have hunfold : f.walkFrom visit started k s = repeatM.body (m := Id) (f.turn visit)
      (fun state ↦ f.walkFrom visit state.1 state.2.1 state.2.2) (started, k, s) :=
    repeatM_eq_of_monadTail _
  rw [hunfold]
  cases hturn : f.turn visit (started, k, s) with
  | inl state => simp only [repeatM.body, hturn, bind]
  | inr ended => simp only [repeatM.body, hturn, bind, pure]

variable {f : Feed σ} {s : σ} {rows : List LiveRow} {e : Option Error}

theorem walkFrom_behind (visit : κ → LiveRow → Verdict × κ) (h : f.Behind s rows e) (k : κ) :
    f.walkFrom visit true k s =
      ((visitRows visit k rows e).1, (visitRows visit k rows e).2,
        f.forward^[advances visit k rows + 1] s) := by
  induction h generalizing k with
  | exhausted ha =>
    rw [walkFrom_eq]
    simp [turn, next, ha, visitRows, advances, forward]
  | broken ha =>
    rw [walkFrom_eq]
    simp [turn, next, ha, visitRows, advances, forward]
  | @row s s' row rows e ha hc hb ih =>
    have hs : f.forward s = s' := congrArg Prod.snd ha
    have hn : f.next true s = (.ok (some row), s') := by simp [next, ha, hc, Except.map]
    rw [walkFrom_eq, turn, hn]
    cases hv : visit k row with
    | mk verdict k' =>
      cases verdict with
      | more =>
        simp only [visitRows, advances, hv]
        rw [Function.iterate_succ_apply, hs]
        exact ih k'
      | enough => simp [visitRows, advances, hv, hs]
      | fail x => simp [visitRows, advances, hv, hs]

theorem walk_nothing (visit : κ → LiveRow → Verdict × κ) (h : f.hasRow s = false) (k : κ) :
    f.walk visit k s = (.exhausted, k, s) := by
  rw [walk, walkFrom_eq]
  simp [turn, next, h]

/-- A walk shows its visitor the rows ahead, and moves the source on as often as the visitor asks
for more. -/
theorem walk_eq (visit : κ → LiveRow → Verdict × κ) (h : f.Ahead s rows e) (k : κ) :
    f.walk visit k s =
      ((visitRows visit k rows e).1, (visitRows visit k rows e).2,
        f.forward^[advances visit k rows] s) := by
  cases h with
  | nothing hr => exact walk_nothing visit hr k
  | @row row rows _ hr hc hb =>
    have hn : f.next false s = (.ok (some row), s) := by simp [next, hr, hc, Except.map]
    rw [walk, walkFrom_eq, turn, hn]
    cases hv : visit k row with
    | mk verdict k' =>
      cases verdict with
      | more =>
        simp only [visitRows, advances, hv]
        exact walkFrom_behind visit hb k'
      | enough => simp [visitRows, advances, hv]
      | fail x => simp [visitRows, advances, hv]

theorem walk_ahead (visit : κ → LiveRow → Verdict × κ) (h : f.Ahead s rows e) (k : κ) :
    ∃ m, f.walk visit k s =
      ((visitRows visit k rows e).1, (visitRows visit k rows e).2, f.forward^[m] s) :=
  ⟨_, walk_eq visit h k⟩

theorem Behind.current_forward (h : f.Behind s rows e) {i : ℕ} {row : LiveRow}
    (hi : rows[i]? = some row) : f.current (f.forward^[i + 1] s) = .ok row := by
  induction h generalizing i with
  | exhausted ha => cases hi
  | broken ha => cases hi
  | @row s s' first rows e ha hc _ ih =>
    have hs : f.forward s = s' := congrArg Prod.snd ha
    rw [Function.iterate_succ_apply, hs]
    cases i with
    | zero =>
      cases hi
      exact hc
    | succ i => exact ih hi

theorem Ahead.current_forward (h : f.Ahead s rows e) {i : ℕ} {row : LiveRow}
    (hi : rows[i]? = some row) : f.current (f.forward^[i] s) = .ok row := by
  cases h with
  | nothing hr => cases hi
  | row hr hc hb =>
    cases i with
    | zero =>
      cases hi
      exact hc
    | succ i => exact hb.current_forward hi

/-- What every advance keeps, a walk keeps. -/
theorem iterate_forward_keeps {α : Type} (view : σ → α)
    (h : ∀ s, view (f.advance s).2 = view s) (m : ℕ) (s : σ) : view (f.forward^[m] s) = view s := by
  induction m generalizing s with
  | zero => rfl
  | succ m ih => rw [Function.iterate_succ_apply, ih]; exact h s

def metered (f : Feed σ) : Feed (σ × ℕ) where
  hasRow s := f.hasRow s.1
  current s := f.current s.1
  advance s := ((f.advance s.1).1, (f.advance s.1).2, s.2 + 1)

theorem Ahead.metered (h : f.Ahead s rows e) (n : ℕ) : f.metered.Ahead (s, n) rows e := by
  cases h with
  | nothing hr => exact .nothing hr
  | row hr hc hb =>
    refine .row hr hc (hb.of_simulation (fun s p ↦ p.1 = s) ?_ ?_ rfl)
    · rintro _ p rfl
      exact ⟨rfl, rfl⟩
    · rintro _ p rfl
      rfl

theorem iterate_forward_metered (m : ℕ) (s : σ) (n : ℕ) :
    f.metered.forward^[m] (s, n) = (f.forward^[m] s, n + m) := by
  induction m generalizing s n with
  | zero => rfl
  | succ m ih =>
    have hstep : f.metered.forward (s, n) = (f.forward s, n + 1) := rfl
    rw [Function.iterate_succ_apply, hstep, ih, Function.iterate_succ_apply, Nat.add_assoc,
      Nat.add_comm 1]

end SqlGateway.Feed
