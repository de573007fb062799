import Mathlib.Algebra.Ring.Nat
import Mathlib.Logic.Function.Iterate
import SqlGateway.Proofs.Sqlite.Batch

namespace SqlGateway.Sqlite

variable {σ : Type} {E : Engine σ} {db n k : Nat} {f : Failure} {s s₁ s' : σ}
  {text rest : List Char}

inductive Engine.Breaks (E : Engine σ) (n : Nat) (f : Failure) : σ → Nat → σ → Prop
  | failed {s s' : σ} : E.step n s = (.failed f, s') → Breaks E n f s 0 s'
  | row {s s' s'' : σ} {k : Nat} :
      E.step n s = (.row, s') → Breaks E n f s' k s'' → Breaks E n f s (k + 1) s''

theorem Engine.Breaks.complete (h : E.Breaks n f s k s') : E.complete n s = (.failed f, s') := by
  induction h with
  | failed hstep => rw [complete_eq, hstep]
  | row hstep _ ih =>
    rw [complete_eq, hstep]
    exact ih

def Engine.stepped (E : Engine σ) (n k : Nat) (s : σ) : σ := (fun s ↦ (E.step n s).2)^[k] s

def Engine.Endless (E : Engine σ) (n : Nat) (s : σ) : Prop :=
  ∀ k, (E.step n (E.stepped n k s)).1 = .row

theorem Engine.completes_or_breaks (h : (E.step n (E.stepped n k s)).1 ≠ .row) :
    (∃ later s', E.Completes n s later s') ∨ ∃ f k s', E.Breaks n f s k s' := by
  induction k generalizing s with
  | zero =>
    rcases hstep : E.step n s with ⟨outcome, s'⟩
    cases outcome with
    | row => exact absurd (congrArg Prod.fst hstep) h
    | done => exact .inl ⟨_, _, .done hstep⟩
    | failed f => exact .inr ⟨_, _, _, .failed hstep⟩
  | succ k ih =>
    rcases hstep : E.step n s with ⟨outcome, s'⟩
    cases outcome with
    | done => exact .inl ⟨_, _, .done hstep⟩
    | failed f => exact .inr ⟨_, _, _, .failed hstep⟩
    | row =>
      have hnext : E.stepped n (k + 1) s = E.stepped n k s' := by
        rw [Engine.stepped, Function.iterate_succ_apply, hstep, Engine.stepped]
      rw [hnext] at h
      rcases ih h with ⟨later, s'', hrun⟩ | ⟨f, k, s'', hrun⟩
      · exact .inl ⟨_, _, .row hstep hrun⟩
      · exact .inr ⟨_, _, _, .row hstep hrun⟩

theorem Engine.completes_or_breaks_or_endless (E : Engine σ) (n : Nat) (s : σ) :
    (∃ later s', E.Completes n s later s') ∨ (∃ f k s', E.Breaks n f s k s') ∨ E.Endless n s := by
  by_cases h : E.Endless n s
  · exact .inr (.inr h)
  · obtain ⟨k, hk⟩ := not_forall.mp h
    exact (completes_or_breaks hk).imp_right .inl

/-- What one request to compile uses up of a text, and the run of the statement in it, if it holds
one. -/
structure Turn (σ : Type) where
  piece : List Char
  ran : Option (Ran σ)

/-- A text is worked off up to a rest of it, and all its statements before that are stepped to their
ends. -/
inductive Engine.Passes (E : Engine σ) (db : Nat) :
    List Char → σ → List (Turn σ) → List Char → σ → Prop
  | stay {text : List Char} {s : σ} : Passes E db text s [] text s
  | blank {piece left rest : List Char} {s s₁ s₂ : σ} {turns : List (Turn σ)} :
      piece ≠ [] → E.prepare db (piece ++ left) s = (.ok (none, left), s₁) →
      Passes E db left s₁ turns rest s₂ →
      Passes E db (piece ++ left) s (⟨piece, none⟩ :: turns) rest s₂
  | statement {piece left rest : List Char} {n : Nat} {s s₁ s₂ s₃ : σ} {later : List σ}
      {turns : List (Turn σ)} :
      piece ≠ [] → E.prepare db (piece ++ left) s = (.ok (some n, left), s₁) →
      E.Completes n s₁ later s₂ → Passes E db left (E.finalize n s₂) turns rest s₃ →
      Passes E db (piece ++ left) s (⟨piece, some ⟨n, s₁, later, s₂⟩⟩ :: turns) rest s₃

/-- How the work on a text ends: with the end of the text, or with a statement that cannot be
compiled or that fails behind some rows. -/
inductive TextEnding where
  | finished
  | unprepared (f : Failure)
  | broken (native rows : Nat) (f : Failure)

inductive Engine.Ends (E : Engine σ) (db : Nat) : List Char → σ → TextEnding → σ → Prop
  | finished {s : σ} : Ends E db [] s .finished s
  | unprepared {rest : List Char} {s s' : σ} {f : Failure} :
      rest ≠ [] → E.prepare db rest s = (.error f, s') → Ends E db rest s (.unprepared f) s'
  | broken {piece left : List Char} {n k : Nat} {s s₁ s₂ : σ} {f : Failure} :
      piece ≠ [] → E.prepare db (piece ++ left) s = (.ok (some n, left), s₁) →
      E.Breaks n f s₁ k s₂ → Ends E db (piece ++ left) s (.broken n k f) (E.finalize n s₂)

def Engine.RunsOn (E : Engine σ) (db : Nat) (rest : List Char) (s : σ) : Prop :=
  ∃ n left s', E.prepare db rest s = (.ok (some n, left), s') ∧ E.Endless n s'

/-- Every request to compile a part of the text uses up some of it. -/
def Engine.Advances (E : Engine σ) (db : Nat) (text : List Char) : Prop :=
  ∀ part s statement left s', part <:+ text → part ≠ [] →
    E.prepare db part s = (.ok (statement, left), s') → ∃ piece, piece ≠ [] ∧ part = piece ++ left

def written (turns : List (Turn σ)) : List Char := turns.flatMap Turn.piece

def runs (turns : List (Turn σ)) : List (Ran σ) := turns.filterMap Turn.ran

def total (E : Engine σ) (db : Nat) (turns : List (Turn σ)) : Stats :=
  ((runs turns).map (Ran.stats E db)).foldl Stats.followedBy {}

def TextEnding.result (stats : Stats) : TextEnding → Result Stats
  | finished => .ok stats
  | unprepared f => .error (f.at .prepare)
  | broken _ _ f => .error (f.at .execute)

variable {turns : List (Turn σ)} {ending : TextEnding}

theorem Engine.Passes.text_eq (h : E.Passes db text s turns rest s₁) :
    text = written turns ++ rest := by
  induction h with
  | stay => rfl
  | blank _ _ _ ih => rw [written, List.flatMap_cons, List.append_assoc, ← written, ← ih]
  | statement _ _ _ _ ih => rw [written, List.flatMap_cons, List.append_assoc, ← written, ← ih]

theorem length_lt_of_piece {piece : List Char} (h : piece ≠ []) (left : List Char) :
    left.length < (piece ++ left).length := by
  have hpos := List.length_pos_iff.mpr h
  rw [List.length_append]
  omega

theorem Engine.Advances.exists_passes (h : E.Advances db text) (s : σ) :
    ∃ turns rest s₁, E.Passes db text s turns rest s₁ ∧
      ((∃ ending s', E.Ends db rest s₁ ending s') ∨ E.RunsOn db rest s₁) := by
  -- What a request leaves is shorter than the text it was given, not one character shorter.
  induction hlength : text.length using Nat.strongRecOn generalizing text s with
  | ind length ih =>
    by_cases htext : text = []
    · subst htext
      exact ⟨_, _, _, .stay, .inl ⟨_, _, .finished⟩⟩
    rcases hprepare : E.prepare db text s with ⟨_ | ⟨statement, left⟩, s'⟩
    · exact ⟨_, _, _, .stay, .inl ⟨_, _, .unprepared htext hprepare⟩⟩
    obtain ⟨piece, hpiece, rfl⟩ := h text s statement left s' List.suffix_rfl htext hprepare
    have hshort : left.length < length := hlength ▸ length_lt_of_piece hpiece left
    have hleft : E.Advances db left := by
      intro part s statement left' s' hpart
      exact h part s statement left' s' (hpart.trans (List.suffix_append piece left))
    cases statement with
    | none =>
      obtain ⟨turns, rest, s₁, hpasses, hend⟩ := ih _ hshort hleft s' rfl
      exact ⟨_, rest, s₁, .blank hpiece hprepare hpasses, hend⟩
    | some n =>
      rcases E.completes_or_breaks_or_endless n s' with
        ⟨later, s'', hrun⟩ | ⟨f, k, s'', hrun⟩ | hrun
      · obtain ⟨turns, rest, s₁, hpasses, hend⟩ := ih _ hshort hleft (E.finalize n s'') rfl
        exact ⟨_, rest, s₁, .statement hpiece hprepare hrun hpasses, hend⟩
      · exact ⟨_, _, _, .stay, .inl ⟨_, _, .broken hpiece hprepare hrun⟩⟩
      · exact ⟨_, _, _, .stay, .inr ⟨n, left, s', hprepare, hrun⟩⟩

theorem Engine.Passes.executeText (h : E.Passes db text s turns rest s₁) (stats : Stats) :
    E.executeText db text stats s =
      E.executeText db rest (((runs turns).map (Ran.stats E db)).foldl Stats.followedBy stats)
        s₁ := by
  induction h generalizing stats with
  | stay => rfl
  | @blank _ left _ _ _ _ _ hpiece hprepare _ ih =>
    have hlt := length_lt_of_piece hpiece left
    rw [Engine.executeText, if_neg (ne_nil_of_length_lt hlt), hprepare]
    simp only [hlt, if_true]
    exact ih stats
  | @statement _ left _ _ _ _ _ _ _ _ hpiece hprepare hrun _ ih =>
    have hlt := length_lt_of_piece hpiece left
    rw [Engine.executeText, if_neg (ne_nil_of_length_lt hlt), hprepare]
    simp only [hlt, if_true, hrun.complete]
    exact ih _

theorem Engine.Ends.executeText (h : E.Ends db rest s ending s') (stats : Stats) :
    E.executeText db rest stats s = (ending.result stats, s') := by
  cases h with
  | finished =>
    rw [Engine.executeText, if_pos rfl]
    rfl
  | unprepared hrest hprepare =>
    rw [Engine.executeText, if_neg hrest, hprepare]
    rfl
  | @broken _ left _ _ _ _ _ _ hpiece hprepare hrun =>
    have hlt := length_lt_of_piece hpiece left
    rw [Engine.executeText, if_neg (ne_nil_of_length_lt hlt), hprepare]
    simp only [hlt, if_true, hrun.complete]
    rfl

theorem Engine.Ends.execute {sql : String} (hend : E.Ends db rest s₁ ending s')
    (hpasses : E.Passes db sql.toList s turns rest s₁) (hnul : ¬ sql.toList.any isNul) :
    E.execute db sql s = (ending.result (total E db turns), s') := by
  rw [Engine.execute, if_neg hnul, hpasses.executeText, hend.executeText]
  rfl

def Ran.changes (E : Engine σ) (db : Nat) (r : Ran σ) : Nat :=
  if (E.counters db r.finish).total = (E.counters db r.start).total then 0
  else (E.counters db r.finish).changes

theorem affectedRows_stats (E : Engine σ) (db : Nat) (r : Ran σ) :
    (r.stats E db).affectedRows = UInt64.ofNat (r.changes E db) := by
  rw [Ran.stats, Engine.statsSince, Ran.changes]
  simp only
  split <;> rfl

theorem affectedRows_foldl (E : Engine σ) (db : Nat) (rs : List (Ran σ)) (stats : Stats) :
    ((rs.map (Ran.stats E db)).foldl Stats.followedBy stats).affectedRows =
      stats.affectedRows + UInt64.ofNat (rs.map (Ran.changes E db)).sum := by
  induction rs generalizing stats with
  | nil => simp
  | cons r rs ih =>
    rw [List.map_cons, List.map_cons, List.foldl_cons, ih, List.sum_cons, UInt64.ofNat_add,
      Stats.followedBy, affectedRows_stats, UInt64.add_assoc]

end SqlGateway.Sqlite
