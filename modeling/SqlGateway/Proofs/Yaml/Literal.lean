import Mathlib.Data.List.Induction
import SqlGateway.Proofs.Yaml.Quoted
import SqlGateway.Yaml.Block

namespace SqlGateway.Yaml

open Block (Chomp)

/-- Whether a text starts with a blank or a break, which does not show how far it is indented. -/
def startsBlank : List Char → Bool
  | [] => false
  | c :: _ => c = ' ' ∨ isBreak c

def hint (cs : List Char) : Chomp :=
  match cs.reverse with
  | [] => .strip
  | [c] => if isBreak c then .keep else .strip
  | c :: d :: _ => if !isBreak c then .strip else if isBreak d then .keep else .clip

def widthMark (cs : List Char) : List Char := if startsBlank cs then ['2'] else []

def hintMark : Chomp → List Char
  | .strip => ['-']
  | .clip => []
  | .keep => ['+']

theorem width_eq (cs : List Char) :
    (match cs with
      | c :: _ => if c = ' ' ∨ isBreak c then ['2'] else []
      | [] => []) = widthMark cs := by
  cases cs with
  | nil => rfl
  | cons c cs => simp [widthMark, startsBlank]

theorem hint_eq (cs : List Char) :
    (match cs.reverse with
      | c :: rest =>
        if !isBreak c then ['-']
        else match rest with
          | d :: _ => if isBreak d then ['+'] else []
          | [] => ['+']
      | [] => ['-']) = hintMark (hint cs) := by
  rw [hint]
  rcases cs.reverse with - | ⟨c, - | ⟨d, ds⟩⟩
  · rfl
  · cases hc : isBreak c <;> simp [hintMark, hc]
  · cases hc : isBreak c <;> cases hd : isBreak d <;> simp [hintMark, hc, hd]

theorem header_eq (cs : List Char) :
    Style.header cs = '|' :: (widthMark cs ++ hintMark (hint cs)) :=
  congrArg (List.cons '|') (congrArg₂ (· ++ ·) (width_eq cs) (hint_eq cs))

variable {p : Spot} {cs : List Char} {indent : ℕ}

theorem marks_header (width : Bool) (chomp : Chomp) (p : Spot) (cs : List Char) :
    Block.marks (p.glyphs ((if width then ['2'] else []) ++ hintMark chomp ++ '\n' :: cs)) =
      .ok (chomp, if width then 2 else 0,
        (p.after ((if width then ['2'] else []) ++ hintMark chomp)).glyphs ('\n' :: cs)) := by
  cases width <;> cases chomp <;> rfl

variable {chomp : Chomp} {first more : List Char} {blank : Bool}

theorem lines_margin {k : ℕ} (hk : p.column + k ≤ indent) :
    Block.lines false chomp indent (.behind first more blank) (p.glyphs (Style.margin k ++ cs)) =
      Block.lines false chomp indent (.behind first more blank)
        ((p.after (Style.margin k)).glyphs cs) := by
  induction k generalizing p with
  | zero => rfl
  | succ k ih =>
    have hcol : (p.next ' ').column = p.column + 1 := rfl
    rw [Style.margin_succ, List.cons_append, Spot.glyphs_cons, Block.lines]
    simp only [Spot.column_glyph, Spot.char_glyph, show p.column < indent by omega, decide_true,
      Bool.and_self, if_true]
    exact ih (by omega)

theorem lines_break {c : Char} (hc : isBreak c) (p : Spot) :
    Block.lines false chomp indent (.behind first more blank) (p.glyphs (c :: cs)) =
      Block.lines false chomp indent (.behind first (more ++ [c]) blank)
        ((p.next c).glyphs cs) := by
  have hspace : c ≠ ' ' := ne_of_class hc rfl
  have htab : c ≠ '\t' := ne_of_class hc rfl
  rw [Spot.glyphs_cons, Block.lines]
  simp [hspace, htab, hc]

def chomped (chomp : Chomp) (first more : List Char) : List Char :=
  (if chomp = .strip then [] else first) ++ (if chomp = .keep then more else [])

theorem lines_end {k : ℕ} (hp : p.column = 0) (hk : k < indent) (hcs : Begins cs) :
    ∃ q, q.column = k ∧
      Block.lines false chomp indent (.behind first more blank) (p.glyphs (Style.margin k ++ cs)) =
        .ok (chomped chomp first more, Spot.glyphs q cs) := by
  have hcol : (p.after (Style.margin k)).column = k := by simp [Spot.after_margin, hp]
  refine ⟨p.after (Style.margin k), hcol, ?_⟩
  rw [lines_margin (by omega)]
  cases cs with
  | nil =>
    rw [Spot.glyphs_nil, Block.lines]
    simp [chomped, endMark, isBreak]
  | cons c cs =>
    obtain ⟨hblank, hbreak, -⟩ := begins_cons.mp hcs
    obtain ⟨hspace, htab⟩ := isBlank_eq_false_iff.mp hblank
    rw [Spot.glyphs_cons, Block.lines]
    simp [chomped, hspace, htab, hbreak, hcol, Nat.ne_of_lt hk]

/-- The stage that reading is in behind some text of the scalar. -/
inductive ReadTo : List Char → Block.Stage → Prop
  | within (cs : List Char) (c : Char) (blank : Bool) (hc : isBreak c = false) :
      ReadTo (cs ++ [c]) (.within blank)
  | start (bs : List Char) (hbs : ∀ b ∈ bs, isBreak b) : ReadTo bs (.behind [] bs false)
  | behind (cs bs : List Char) (c b : Char) (blank : Bool) (hc : isBreak c = false)
      (hb : isBreak b) (hbs : ∀ b ∈ bs, isBreak b) :
      ReadTo (cs ++ c :: b :: bs) (.behind [b] bs blank)

def pending : Block.Stage → List Char
  | .within _ => []
  | .behind first more _ => first ++ more

def isBehind : Block.Stage → Bool
  | .within _ => false
  | .behind .. => true

def lineEnd (cs : List Char) : List Char :=
  if (cs.getLast?.map isBreak).getD false then [] else ['\n']

theorem hint_concat_line (cs : List Char) {c : Char} (hc : isBreak c = false) :
    hint (cs ++ [c]) = .strip := by
  unfold hint
  rw [List.reverse_concat]
  cases cs.reverse <;> simp [hc]

theorem chomped_hint_breaks {bs : List Char} (hbs : ∀ b ∈ bs, isBreak b) :
    chomped (hint bs) [] bs = bs := by
  cases bs using List.reverseRecOn with
  | nil => rfl
  | append_singleton bs b =>
    obtain ⟨hbs, hb⟩ := List.forall_mem_append.mp hbs
    have hb := hb b (List.mem_singleton_self b)
    cases bs using List.reverseRecOn with
    | nil => simp [hint, chomped, hb]
    | append_singleton bs c =>
      have hc := hbs c (by simp)
      simp [hint, chomped, hb, hc]

theorem chomped_hint_line (cs : List Char) {bs : List Char} {c b : Char} (hc : isBreak c = false)
    (hb : isBreak b) (hbs : ∀ b ∈ bs, isBreak b) :
    chomped (hint (cs ++ c :: b :: bs)) [b] bs = b :: bs := by
  cases bs using List.reverseRecOn with
  | nil => simp [hint, chomped, hb, hc]
  | append_singleton bs d =>
    obtain ⟨hbs, hd⟩ := List.forall_mem_append.mp hbs
    have hd := hd d (List.mem_singleton_self d)
    cases bs using List.reverseRecOn with
    | nil => simp [hint, chomped, hb, hd]
    | append_singleton bs e =>
      have he := hbs e (by simp)
      simp [hint, chomped, hd, he]

theorem getLast_breaks {c b : Char} {bs : List Char} (hb : isBreak b) (hbs : ∀ b ∈ bs, isBreak b)
    (cs : List Char) : ((cs ++ c :: b :: bs).getLast?.map isBreak).getD false := by
  cases bs using List.reverseRecOn with
  | nil => simp [hb]
  | append_singleton bs d =>
    have hd := hbs d (by simp)
    simp [List.getLast?_append, List.getLast?_cons, hd]

theorem ReadTo.lines_end {stage : Block.Stage} {k : ℕ} {tail : List Char} (h : ReadTo cs stage)
    (hne : cs ≠ []) (hcol : isBehind stage → p.column = 0) (hk : k < indent) (htail : Begins tail) :
    ∃ q, q.column = k ∧
      Block.lines false (hint cs) indent stage
          (p.glyphs (lineEnd cs ++ (Style.margin k ++ tail))) =
        .ok (pending stage, Spot.glyphs q tail) := by
  cases h with
  | within cs c blank hc =>
    have hend : lineEnd (cs ++ [c]) = ['\n'] := by simp [lineEnd, hc]
    rw [hend, List.singleton_append, Spot.glyphs_cons, Block.lines]
    obtain ⟨q, hq, hread⟩ := Yaml.lines_end (p := p.next '\n') rfl hk htail
    refine ⟨q, hq, hread.trans ?_⟩
    rw [hint_concat_line cs hc]
    rfl
  | start bs hbs =>
    have hend : lineEnd cs = [] := by
      cases cs using List.reverseRecOn with
      | nil => exact absurd rfl hne
      | append_singleton bs b => simp [lineEnd, hbs b (by simp)]
    obtain ⟨q, hq, hread⟩ := Yaml.lines_end (hcol rfl) hk htail
    refine ⟨q, hq, ?_⟩
    rw [hend, List.nil_append, hread, chomped_hint_breaks hbs]
    rfl
  | behind cs bs c b blank hc hb hbs =>
    have hend : lineEnd (cs ++ c :: b :: bs) = [] := if_pos (getLast_breaks hb hbs cs)
    obtain ⟨q, hq, hread⟩ := Yaml.lines_end (hcol rfl) hk htail
    refine ⟨q, hq, ?_⟩
    rw [hend, List.nil_append, hread, chomped_hint_line cs hc hb hbs]
    rfl

theorem ReadTo.break {stage : Block.Stage} {c : Char} (h : ReadTo cs stage) (hc : isBreak c)
    (hcol : isBehind stage → p.column < indent) (ds : List Char) :
    ∃ first more blank, ReadTo (cs ++ [c]) (.behind first more blank) ∧
      first ++ more = pending stage ++ [c] ∧
      Block.lines false chomp indent stage (p.glyphs (c :: ds)) =
        Block.lines false chomp indent (.behind first more blank) ((p.next c).glyphs ds) := by
  cases h with
  | within cs d blank hd =>
    refine ⟨[c], [], blank, ?_, rfl, ?_⟩
    · rw [List.append_assoc]
      exact .behind cs [] d c blank hd hc (by simp)
    · rw [Spot.glyphs_cons, Block.lines]
      simp [hc]
  | start bs hbs =>
    refine ⟨[], cs ++ [c], false, .start _ ?_, rfl, lines_break hc p⟩
    simpa [or_imp, forall_and] using ⟨hbs, hc⟩
  | behind cs bs d b blank hd hb hbs =>
    refine ⟨[b], bs ++ [c], blank, ?_, rfl, lines_break hc p⟩
    rw [List.append_assoc]
    refine .behind cs (bs ++ [c]) d b blank hd hb ?_
    simpa [or_imp, forall_and] using ⟨hbs, hc⟩

theorem ReadTo.character {stage : Block.Stage} {c : Char} (h : ReadTo cs stage)
    (hprint : isPrintable c) (hc : isBreak c = false) (hcol : isBehind stage → p.column = 0)
    (ds : List Char) :
    ∃ blank q, ReadTo (cs ++ [c]) (.within blank) ∧
      Block.lines false chomp indent stage
          (p.glyphs ((if isBehind stage then Style.margin indent else []) ++ c :: ds)) =
        Scanned.prepend (pending stage ++ [c])
          (Block.lines false chomp indent (.within blank) (Spot.glyphs q ds)) := by
  cases stage with
  | within blank =>
    refine ⟨blank, p.next c, .within cs c blank hc, ?_⟩
    rw [isBehind, if_neg Bool.false_ne_true, List.nil_append, Spot.glyphs_cons, Block.lines]
    simp [hc, ne_endMark_of_printable hprint, pending]
  | behind first more blank =>
    have hzero := hcol rfl
    have hindented : (p.after (Style.margin indent)).column = indent := by
      simp [Spot.after_margin, hzero]
    refine ⟨isBlank c, (p.after (Style.margin indent)).next c, .within cs c _ hc, ?_⟩
    rw [isBehind, if_pos rfl, lines_margin (by omega), Spot.glyphs_cons, Block.lines]
    simp [hindented, hc, ne_endMark_of_printable hprint, pending, Block.between]

theorem lines_written {read : List Char} {stage : Block.Stage} {k : ℕ} {tail : List Char}
    (hall : ∀ c ∈ cs, isPrintable c) (h : ReadTo read stage) (hne : read ++ cs ≠ [])
    (hcol : isBehind stage → p.column = 0) (hk : k < indent) (htail : Begins tail) :
    ∃ q, q.column = k ∧
      Block.lines false (hint (read ++ cs)) indent stage
          (p.glyphs (Style.writeLines indent (isBehind stage) cs ++
            (lineEnd (read ++ cs) ++ (Style.margin k ++ tail)))) =
        .ok (pending stage ++ cs, Spot.glyphs q tail) := by
  induction cs generalizing p read stage with
  | nil =>
    rw [List.append_nil, List.append_nil] at *
    exact h.lines_end hne hcol hk htail
  | cons c cs ih =>
    obtain ⟨hprint, hrest⟩ := List.forall_mem_cons.mp hall
    -- the hint is that of the whole text, so the character moves over to what has been read
    have hsplit : read ++ c :: cs = read ++ [c] ++ cs := by simp
    rw [hsplit] at hne ⊢
    rw [Style.writeLines]
    by_cases hc : isBreak c
    · have hnear : isBehind stage → p.column < indent := fun hb ↦ by have := hcol hb; omega
      rw [if_pos hc, List.cons_append]
      obtain ⟨first, more, blank, hread, hpending, hlines⟩ := h.break hc hnear _
      have hzero : (p.next c).column = 0 := by simp [Spot.next, hc]
      obtain ⟨q, hq, hrest⟩ := ih hrest hread hne (fun _ ↦ hzero)
      refine ⟨q, hq, hlines.trans (hrest.trans ?_)⟩
      rw [pending, hpending, List.append_assoc]
      rfl
    · rw [if_neg hc, List.append_assoc (if isBehind stage then Style.margin indent else []),
        List.cons_append]
      obtain ⟨blank, next, hread, hlines⟩ :=
        h.character hprint (eq_false_of_ne_true hc) hcol _
      obtain ⟨q, hq, hrest⟩ := ih (p := next) hrest hread hne (fun hb ↦ by cases hb)
      refine ⟨q, hq, hlines.trans ((congrArg (Scanned.prepend _) hrest).trans ?_)⟩
      simp [pending]

theorem opening_given {ys tail : List Char} (hys : ∀ y ∈ ys, y ≠ '\t') (htail : Begins tail)
    (hindent : indent ≠ 0) (widest : ℕ) :
    ∃ bs w gs, Block.opening indent widest (p.glyphs (ys ++ tail)) = .ok (bs, w, gs) ∧
      ∀ chomp first more blank,
        Block.lines false chomp indent (.behind first more blank) (p.glyphs (ys ++ tail)) =
          Block.lines false chomp indent (.behind first (more ++ bs) blank) gs := by
  induction ys generalizing p widest with
  | nil =>
    refine ⟨[], max widest p.column, p.glyphs tail, ?_, fun _ _ _ _ ↦ by rw [List.append_nil]; rfl⟩
    cases tail with
    | nil =>
      rw [List.nil_append, Spot.glyphs_nil, Block.opening]
      simp [endMark, isBreak]
    | cons c tail =>
      obtain ⟨hblank, hbreak, -⟩ := begins_cons.mp htail
      obtain ⟨hspace, htab⟩ := isBlank_eq_false_iff.mp hblank
      rw [List.nil_append, Spot.glyphs_cons, Block.opening]
      simp [hspace, htab, hbreak]
  | cons y ys ih =>
    obtain ⟨htab, hrest⟩ := List.forall_mem_cons.mp hys
    rw [List.cons_append, Spot.glyphs_cons, Block.opening]
    -- a blank of the margin, a break, or the first character of a line
    by_cases hspace : p.column < indent ∧ y = ' '
    · obtain ⟨bs, w, gs, hopen, hlines⟩ := ih (p := p.next y) hrest widest
      refine ⟨bs, w, gs, ?_, fun chomp first more blank ↦ ?_⟩
      · simpa [hspace] using hopen
      · rw [Block.lines]
        simpa [hspace] using hlines chomp first more blank
    · by_cases hbreak : isBreak y
      · obtain ⟨bs, w, gs, hopen, hlines⟩ := ih (p := p.next y) hrest (max widest p.column)
        refine ⟨y :: bs, w, gs, ?_, fun chomp first more blank ↦ ?_⟩
        · rcases not_and_or.mp hspace with h | h <;>
            simp [hindent, h, htab, hbreak, hopen, Except.map]
        · have hrest := hlines chomp first (more ++ [y]) blank
          rw [List.append_assoc] at hrest
          rw [← Spot.glyphs_cons]
          exact (lines_break hbreak p).trans hrest
      · refine ⟨[], max widest p.column, p.glyph y :: (p.next y).glyphs (ys ++ tail), ?_,
          fun _ _ _ _ ↦ by rw [List.append_nil]⟩
        rcases not_and_or.mp hspace with h | h <;> simp [hindent, h, htab, hbreak]

theorem opening_shown {c : Char} (hspace : c ≠ ' ') (htab : c ≠ '\t') (hbreak : isBreak c = false)
    (cs : List Char) (k : ℕ) : Block.opening 0 0 (p.glyphs (Style.margin k ++ c :: cs)) =
      .ok ([], p.column + k, (p.after (Style.margin k)).glyphs (c :: cs)) := by
  induction k generalizing p with
  | zero =>
    change Block.opening 0 0 (p.glyphs (c :: cs)) = _
    rw [Spot.glyphs_cons, Block.opening]
    simp [hspace, htab, hbreak, Style.margin, Spot.glyphs_cons]
  | succ k ih =>
    have hcol : p.column + (k + 1) = (p.next ' ').column + k := by
      rw [show (p.next ' ').column = p.column + 1 from rfl]
      omega
    rw [Style.margin_succ, List.cons_append, Spot.glyphs_cons, Block.opening, hcol]
    exact ih

theorem not_tab_of_printable {c : Char} (h : isPrintable c) : c ≠ '\t' := ne_of_class h rfl

theorem not_tab_of_mem_writeLines {broken : Bool} (hall : ∀ c ∈ cs, isPrintable c) {c : Char}
    (h : c ∈ Style.writeLines indent broken cs) : c ≠ '\t' := by
  induction cs generalizing broken with
  | nil => cases h
  | cons d cs ih =>
    obtain ⟨hprint, hrest⟩ := List.forall_mem_cons.mp hall
    rw [Style.writeLines] at h
    split at h
    · rcases List.mem_cons.mp h with rfl | h
      · exact not_tab_of_printable hprint
      · exact ih hrest h
    · rcases List.mem_append.mp h with h | h
      · have hspace : c = ' ' := by
          cases broken with
          | true => exact List.eq_of_mem_replicate h
          | false => cases h
        rw [hspace]
        decide
      · rcases List.mem_cons.mp h with rfl | h
        · exact not_tab_of_printable hprint
        · exact ih hrest h

theorem endLine_break (failure : Failure) (p : Spot) (cs : List Char) :
    Glyph.endLine failure (p.glyphs ('\n' :: cs)) = .ok ((p.next '\n').glyphs cs) := rfl

def Spot.afterHeader (p : Spot) (cs : List Char) : Spot :=
  (p.after (widthMark cs ++ hintMark (hint cs))).next '\n'

theorem read_header (n : ℕ) (cs body : List Char) :
    Block.read false (n + 1)
        (p.glyphs (widthMark cs ++ hintMark (hint cs) ++ '\n' :: body)) =
      (do
        let given := if startsBlank cs then n + 2 else 0
        let (breaks, widest, gs) ← Block.opening given 0 ((p.afterHeader cs).glyphs body)
        let margin := if given = 0 then max widest (max (n + 1) 1) else given
        Block.lines false (hint cs) margin (.behind [] breaks false) gs) := by
  rw [Block.read, widthMark, marks_header]
  simp only [bind, Except.bind, endLine_break]
  rw [Spot.afterHeader, widthMark]
  cases startsBlank cs <;> rfl

/-- The margin of a literal scalar is the one that its lines were indented by. -/
theorem read_lines {n : ℕ} {ys tail : List Char} (hall : ∀ c ∈ cs, isPrintable c) (hne : cs ≠ [])
    (hys : ∀ y ∈ ys, isPrintable y) (htail : Begins tail) :
    Block.read false (n + 1) (p.glyphs (widthMark cs ++ hintMark (hint cs) ++
        '\n' :: (Style.writeLines (n + 2) true cs ++ (ys ++ tail)))) =
      Block.lines false (hint cs) (n + 2) (.behind [] [] false)
        ((p.afterHeader cs).glyphs (Style.writeLines (n + 2) true cs ++ (ys ++ tail))) := by
  have hzero : (p.afterHeader cs).column = 0 := by
    simp [Spot.afterHeader, Spot.next, show isBreak '\n' = true by decide]
  rw [read_header]
  cases hstart : startsBlank cs with
  | true =>
    have htabs : ∀ y ∈ Style.writeLines (n + 2) true cs ++ ys, y ≠ '\t' := by
      intro y hy
      rcases List.mem_append.mp hy with hy | hy
      · exact not_tab_of_mem_writeLines hall hy
      · exact not_tab_of_printable (hys y hy)
    obtain ⟨bs, w, gs, hopen, hlines⟩ := opening_given (p := p.afterHeader cs) htabs htail
      (show n + 2 ≠ 0 by omega) 0
    rw [List.append_assoc] at hopen hlines
    simp only [if_true, hopen]
    exact (hlines (hint cs) [] [] false).symm
  | false =>
    obtain ⟨c, cs, rfl⟩ := List.exists_cons_of_ne_nil hne
    simp only [startsBlank, decide_eq_false_iff_not, not_or] at hstart
    have hbreak := eq_false_of_ne_true hstart.2
    have htab := not_tab_of_printable (hall c List.mem_cons_self)
    have hopen := opening_shown (p := p.afterHeader (c :: cs)) hstart.1 htab hbreak
      (Style.writeLines (n + 2) false cs ++ (ys ++ tail)) (n + 2)
    rw [Style.writeLines, if_neg hstart.2, if_pos rfl, List.append_assoc, List.cons_append,
      lines_margin (by omega)]
    simp only [Bool.false_eq_true, if_false, if_true, hopen, hzero]
    change Block.lines false _ (max (0 + (n + 2)) (max (n + 1) 1)) _ _ = _
    rw [show max (0 + (n + 2)) (max (n + 1) 1) = n + 2 by omega]

theorem printable_lineEnd {k : ℕ} : ∀ y ∈ lineEnd cs ++ Style.margin k, isPrintable y := by
  intro y hy
  rcases List.mem_append.mp hy with hy | hy
  · rw [lineEnd] at hy
    split at hy
    · cases hy
    · rw [List.mem_singleton.mp hy]
      rfl
  · rw [List.eq_of_mem_replicate hy]
    rfl

theorem literal_written {n k : ℕ} {tail : List Char} (hall : ∀ c ∈ cs, isPrintable c)
    (hne : cs ≠ []) (hk : k < n + 2) (htail : Begins tail) :
    ∃ q, q.column = k ∧
      Block.read false (n + 1) (p.glyphs (widthMark cs ++ hintMark (hint cs) ++
          '\n' :: (Style.writeLines (n + 2) true cs ++
            (lineEnd cs ++ Style.margin k ++ tail)))) =
        .ok (cs, Spot.glyphs q tail) := by
  have hzero : (p.afterHeader cs).column = 0 := by
    simp [Spot.afterHeader, Spot.next, show isBreak '\n' = true by decide]
  obtain ⟨q, hq, hread⟩ := lines_written (p := p.afterHeader cs) hall
    (ReadTo.start [] (by simp)) hne (fun _ ↦ hzero) hk htail
  rw [List.nil_append, ← List.append_assoc (lineEnd cs)] at hread
  exact ⟨q, hq, (read_lines hall hne printable_lineEnd htail).trans hread⟩

end SqlGateway.Yaml
