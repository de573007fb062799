import SqlGateway.Proofs.Yaml.Place
import SqlGateway.Yaml.Token.Lexer

namespace SqlGateway.Yaml.Lexer

/-- A run from the one lexer gives what a run from the other one does. -/
def Reads (s s' : Lexer) : Prop :=
  ∀ fuel, s.rest.length ≤ fuel → ∃ fuel', s'.rest.length ≤ fuel' ∧ run fuel s = run fuel' s'

namespace Reads

variable {s s' s'' : Lexer}

theorem refl (s : Lexer) : Reads s s := fun fuel hfuel ↦ ⟨fuel, hfuel, rfl⟩

theorem trans (h : Reads s s') (h' : Reads s' s'') : Reads s s'' := by
  intro fuel hfuel
  obtain ⟨between, hbetween, hrun⟩ := h fuel hfuel
  obtain ⟨fuel', hfuel', hrun'⟩ := h' between hbetween
  exact ⟨fuel', hfuel', hrun.trans hrun'⟩

theorem of_settle_eq (h : s.settle = s'.settle) (hlength : s'.rest.length ≤ s.rest.length) :
    Reads s s' := by
  intro fuel hfuel
  refine ⟨fuel, Nat.le_trans hlength hfuel, ?_⟩
  cases fuel with
  | zero => rfl
  | succ fuel => rw [run, run, next, next, h]

theorem of_next (h : s.next = .ok s') (hlength : s'.rest.length < s.rest.length)
    (hlast : s'.tokens.getLast? ≠ some .finish) : Reads s s' := by
  intro fuel hfuel
  obtain ⟨fuel, rfl⟩ : ∃ n, fuel = n + 1 := ⟨fuel - 1, by omega⟩
  refine ⟨fuel, by omega, ?_⟩
  -- a token was taken, so one unit of fuel less is enough for what is left
  rw [run, h]
  exact if_neg hlast

end Reads

def standing (keyAllowed : Bool) (ts : List Token) (ms : List ℕ) (p : Spot) (cs : List Char) :
    Lexer :=
  { rest := p.glyphs cs, tokens := ts, margins := ms, keyAllowed }

variable {allowed : Bool} {ts : List Token} {ms : List ℕ} {p : Spot} {cs : List Char}

theorem glyph_glyphs (p : Spot) (cs : List Char) :
    (p.glyphs cs).headD ⟨endMark, 0, 0, 0⟩ = p.glyph (cs.headD endMark) := by
  cases cs with
  | nil => rfl
  | cons c cs => rw [Spot.glyphs_cons]; rfl

@[simp]
theorem rest_standing : (standing allowed ts ms p cs).rest = p.glyphs cs := rfl

@[simp]
theorem tokens_standing : (standing allowed ts ms p cs).tokens = ts := rfl

@[simp]
theorem margins_standing : (standing allowed ts ms p cs).margins = ms := rfl

@[simp]
theorem outer_standing : (standing allowed ts ms p cs).outer = [] := rfl

@[simp]
theorem margin_standing : (standing allowed ts ms p cs).margin = ms.headD 0 := rfl

@[simp]
theorem keyAllowed_standing : (standing allowed ts ms p cs).keyAllowed = allowed := rfl

@[simp]
theorem key_standing : (standing allowed ts ms p cs).key = none := rfl

@[simp]
theorem inFlow_standing : (standing allowed ts ms p cs).inFlow = false := rfl

@[simp]
theorem glyph_standing :
    (standing allowed ts ms p cs).glyph = p.glyph (cs.headD endMark) := glyph_glyphs p cs

theorem toToken_begins (flow allowed : Bool) (p : Spot) (h : Begins cs) :
    toToken flow allowed false (p.glyphs cs) = (allowed, p.glyphs cs) := by
  cases cs with
  | nil =>
    rw [Spot.glyphs_nil, toToken]
    simp [endMark, isBreak]
  | cons c cs =>
    obtain ⟨hblank, hbreak, hhash⟩ := begins_cons.mp h
    obtain ⟨hspace, htab⟩ := isBlank_eq_false_iff.mp hblank
    rw [Spot.glyphs_cons, toToken]
    simp [hspace, htab, hbreak, hhash]

theorem toToken_margin (flow allowed : Bool) (p : Spot) (k : ℕ) (cs : List Char) :
    toToken flow allowed false (p.glyphs (Style.margin k ++ cs)) =
      toToken flow allowed false ((p.after (Style.margin k)).glyphs cs) := by
  induction k generalizing p with
  | zero => rfl
  | succ k ih =>
    rw [Style.margin_succ, List.cons_append, Spot.glyphs_cons, toToken]
    exact ih (p.next ' ')

theorem toToken_line (allowed : Bool) (p : Spot) (k : ℕ) (cs : List Char) :
    toToken false allowed false (p.glyphs ('\n' :: (Style.margin k ++ cs))) =
      toToken false true false ((p.after ('\n' :: Style.margin k)).glyphs cs) := by
  rw [Spot.glyphs_cons, toToken, Spot.after_cons, ← toToken_margin]
  simp [isBreak]

def GivenUp (k : Option PossibleKey) (p : Spot) : Prop :=
  ∀ key ∈ k, key.required = false ∧ key.line < p.line

def leaveBlocks (limit : ℕ) (ts : List Token) (ms : List ℕ) : List Token × List ℕ :=
  (ts ++ (ms.takeWhile (limit < ·)).map fun _ ↦ Token.blockEnd, ms.dropWhile (limit < ·))

theorem settle_eq {rest : List Glyph} {k k' : Option PossibleKey} {allowed' : Bool}
    (hrest : toToken false allowed false rest = (allowed', p.glyphs cs))
    (hk : forgetKey (isStale (p.glyph (cs.headD endMark))) k = .ok k') :
    Lexer.settle { rest, tokens := ts, margins := ms, keyAllowed := allowed, key := k } =
      .ok { standing allowed' (leaveBlocks (p.column + 1) ts ms).1
        (leaveBlocks (p.column + 1) ts ms).2 p cs with key := k' } := by
  rw [settle]
  simp only [inFlow, List.isEmpty_nil, Bool.not_true, hrest, forgetStale, glyph, glyph_glyphs, hk,
    List.mapM_nil, pure, Except.pure, bind, Except.bind]
  rfl

theorem GivenUp.forgetKey_eq {k : Option PossibleKey} (h : GivenUp k p) (c : Char) :
    forgetKey (isStale (p.glyph c)) k = .ok none := by
  cases k with
  | none => rfl
  | some key =>
    obtain ⟨hrequired, hline⟩ := h key rfl
    simp [forgetKey, isStale, Spot.glyph, hrequired, hline]

theorem leaveBlocks_of_le {limit : ℕ} (h : ms.headD 0 ≤ limit) :
    leaveBlocks limit ts ms = (ts, ms) := by
  cases ms with
  | nil => simp [leaveBlocks]
  | cons m ms => simp [leaveBlocks, Nat.not_lt.mpr (show m ≤ limit from h)]

theorem leaveBlocks_cons {limit m : ℕ} (h : limit < m) :
    leaveBlocks limit ts (m :: ms) = leaveBlocks limit (ts ++ [.blockEnd]) ms := by
  simp [leaveBlocks, h]

theorem settle_begins (h : Begins cs) :
    (standing allowed ts ms p cs).settle =
      .ok (standing allowed (leaveBlocks (p.column + 1) ts ms).1
        (leaveBlocks (p.column + 1) ts ms).2 p cs) :=
  settle_eq (toToken_begins false allowed p h) rfl

theorem settle_standing (h : Begins cs) (hms : ms.headD 0 ≤ p.column + 1) :
    (standing allowed ts ms p cs).settle = .ok (standing allowed ts ms p cs) := by
  rw [settle_begins h, leaveBlocks_of_le hms]

theorem reads_line {k : Option PossibleKey} {n : ℕ} (h : Begins cs)
    (hk : GivenUp k (p.after ('\n' :: Style.margin n))) :
    Reads
      { rest := p.glyphs ('\n' :: (Style.margin n ++ cs)), tokens := ts, margins := ms,
        keyAllowed := allowed, key := k }
      (standing true ts ms (p.after ('\n' :: Style.margin n)) cs) := by
  have hrest := (toToken_line allowed p n cs).trans (toToken_begins false true _ h)
  refine .of_settle_eq ((settle_eq hrest (hk.forgetKey_eq _)).trans (settle_begins h).symm) ?_
  simp only [rest_standing, Spot.length_glyphs, List.length_cons, List.length_append]
  omega

theorem reads_givenUp {k : Option PossibleKey} (h : Begins cs) (hk : GivenUp k p) :
    Reads { rest := p.glyphs cs, tokens := ts, margins := ms, keyAllowed := allowed, key := k }
      (standing allowed ts ms p cs) :=
  .of_settle_eq ((settle_eq (toToken_begins false allowed p h) (hk.forgetKey_eq _)).trans
    (settle_begins h).symm) (Nat.le_refl _)

theorem reads_blank (h : Begins cs) :
    Reads (standing allowed ts ms p (' ' :: cs)) (standing allowed ts ms (p.next ' ') cs) := by
  have hrest : toToken false allowed false (p.glyphs (' ' :: cs)) =
      (allowed, (p.next ' ').glyphs cs) :=
    (toToken_margin false allowed p 1 cs).trans (toToken_begins false allowed _ h)
  refine .of_settle_eq ((settle_eq hrest rfl).trans (settle_begins h).symm) ?_
  simp only [rest_standing, Spot.length_glyphs, List.length_cons]
  omega

theorem reads_close (allowed : Bool) (ts : List Token) (ms : List ℕ) {m : ℕ} (h : Begins cs)
    (hm : p.column + 1 < m) :
    Reads (standing allowed ts (m :: ms) p cs)
      (standing allowed (ts ++ [.blockEnd]) ms p cs) := by
  refine .of_settle_eq ?_ (Nat.le_refl _)
  rw [settle_begins h, settle_begins h, leaveBlocks_cons hm]

theorem next_standing (h : Begins cs) (hms : ms.headD 0 ≤ p.column + 1) :
    (standing allowed ts ms p cs).next = (standing allowed ts ms p cs).token := by
  rw [next, settle_standing h hms]
  rfl

theorem isMarker_of_ne {mark c : Char} (h : c ≠ mark) :
    Glyph.isMarker mark (p.glyphs (c :: cs)) = false := by
  simp [Glyph.isMarker, Spot.charAt_glyphs, h]

theorem isMarker_of_ne_second {mark c d : Char} (h : d ≠ mark) :
    Glyph.isMarker mark (p.glyphs (c :: d :: cs)) = false := by
  simp [Glyph.isMarker, Spot.charAt_glyphs, h]

theorem token_single :
    (standing allowed ts ms p ('\'' :: cs)).token =
      (standing allowed ts ms p ('\'' :: cs)).quoted (single false .nothing) := by
  simp [token, isMarker_of_ne, endMark]

theorem token_double :
    (standing allowed ts ms p ('"' :: cs)).token =
      (standing allowed ts ms p ('"' :: cs)).quoted (double .outside .nothing) := by
  simp [token, isMarker_of_ne, endMark]

theorem token_literal :
    (standing allowed ts ms p ('|' :: cs)).token =
      (standing allowed ts ms p ('|' :: cs)).blockScalar false := by
  simp [token, isMarker_of_ne, endMark]

theorem token_flowSequence :
    (standing allowed ts ms p ('[' :: cs)).token =
      (standing allowed ts ms p ('[' :: cs)).flowStart .flowSequence := by
  simp [token, isMarker_of_ne, endMark]

theorem token_flowMapping :
    (standing allowed ts ms p ('\x7b' :: cs)).token =
      (standing allowed ts ms p ('\x7b' :: cs)).flowStart .flowMapping := by
  simp [token, isMarker_of_ne, endMark]

theorem token_entry :
    (standing allowed ts ms p ('-' :: ' ' :: cs)).token =
      (standing allowed ts ms p ('-' :: ' ' :: cs)).entry := by
  simp [token, isMarker_of_ne, isMarker_of_ne_second, Spot.charAt_glyphs, endMark, endsWord,
    isBlank]

theorem token_explicitKey :
    (standing allowed ts ms p ('?' :: ' ' :: cs)).token =
      (standing allowed ts ms p ('?' :: ' ' :: cs)).explicitKey := by
  simp [token, isMarker_of_ne, Spot.charAt_glyphs, endMark, endsWord, isBlank]

end SqlGateway.Yaml.Lexer
