import SqlGateway.Proofs.Yaml.Escaped
import SqlGateway.Proofs.Yaml.Literal
import SqlGateway.Proofs.Yaml.Plain
import SqlGateway.Proofs.Yaml.Reading

namespace SqlGateway.Yaml

namespace Style

variable {s : String}

theorem quotes_ne_plain (cs : List Char) : quotes cs ≠ .plain := by
  unfold quotes
  split <;> simp

theorem quotes_ne_literal (cs : List Char) : quotes cs ≠ .literal := by
  unfold quotes
  split <;> simp

theorem singleAllowed_of_quotes {cs : List Char} (h : quotes cs = .single) : singleAllowed cs := by
  unfold quotes at h
  split at h
  · assumption
  · cases h

theorem of_plain (h : ofText s = .plain) :
    plainAllowed s.toList ∧ Resolution.isAmbiguous s = false := by
  unfold ofText at h
  dsimp only at h
  split at h
  · split at h <;> cases h
  · split at h
    · exact absurd h (quotes_ne_plain _)
    · split at h
      · rename_i hambiguous hallowed
        exact ⟨hallowed, eq_false_of_ne_true hambiguous⟩
      · exact absurd h (quotes_ne_plain _)

theorem of_single (h : ofText s = .single) : singleAllowed s.toList ∧ '\n' ∉ s.toList := by
  unfold ofText at h
  dsimp only at h
  split at h
  · split at h <;> cases h
  · rename_i hfeed
    refine ⟨?_, by simpa using hfeed⟩
    split at h
    · exact singleAllowed_of_quotes h
    · split at h
      · cases h
      · exact singleAllowed_of_quotes h

theorem of_literal (h : ofText s = .literal) : literalAllowed s.toList ∧ '\n' ∈ s.toList := by
  unfold ofText at h
  dsimp only at h
  split at h
  · rename_i hfeed
    split at h
    · rename_i hallowed
      exact ⟨hallowed, by simpa using hfeed⟩
    · cases h
  · split at h
    · exact absurd h (quotes_ne_literal _)
    · split at h
      · cases h
      · exact absurd h (quotes_ne_literal _)

theorem printable_of_isEscaped {cs : List Char} (h : isEscaped cs = false) :
    ∀ c ∈ cs, isPrintable c := by
  simpa [isEscaped] using h

/-- What a plain text holds and how it starts and ends. -/
structure PlainText (cs : List Char) : Prop where
  nonempty : cs ≠ []
  printable : ∀ c ∈ cs, isPrintable c ∧ isBreak c = false
  first : cs.head? ≠ some ' '
  last : ∀ c ∈ cs.getLast?, c ≠ ' ' ∧ c ≠ ':'
  starts : startsOtherwise cs = false
  colons : adjacent (· == ':') endsWord cs = false
  hashes : adjacent endsWord (· == '#') cs = false

theorem plainText (h : ofText s = .plain) : PlainText s.toList := by
  obtain ⟨hallowed, hambiguous⟩ := of_plain h
  simp only [plainAllowed, endsEarly, isMultiline, Bool.and_eq_true, Bool.not_eq_true',
    Bool.or_eq_false_iff, decide_eq_true_eq, ne_eq] at hallowed
  obtain ⟨⟨⟨⟨⟨hline, hescaped⟩, hfirst⟩, hlast⟩, hstarts⟩, ⟨hcolons, hhashes⟩, hcolon⟩ := hallowed
  refine ⟨?_, fun c hc ↦ ⟨printable_of_isEscaped hescaped c hc, ?_⟩, hfirst, fun c hc ↦ ⟨?_, ?_⟩,
    hstarts, hcolons, hhashes⟩
  · intro hnil
    rw [String.toList_eq_nil_iff] at hnil
    rw [hnil] at hambiguous
    exact absurd hambiguous (by decide)
  · simpa using List.any_eq_false.mp hline c hc
  · rintro rfl
    exact hlast hc
  · rintro rfl
    rw [Option.mem_def.mp hc] at hcolon
    exact absurd hcolon (by decide)

end Style

namespace Lexer

variable {allowed : Bool} {ts : List Token} {ms : List ℕ} {p : Spot} {cs tail : List Char}

theorem isMarker_eq_false {mark : Char} (hmark : mark ≠ endMark)
    (h : [mark, mark, mark].isPrefixOf cs = false) (htail : tail.head? ≠ some mark) :
    Glyph.isMarker mark (p.glyphs (cs ++ tail)) = false := by
  have hnext : tail.getD 0 endMark ≠ mark := by
    cases tail with
    | nil => exact hmark.symm
    | cons d tail => exact fun hd ↦ htail (congrArg some hd)
  -- three marks would stand in the text alone, or reach into what is behind it
  have hthree : ¬ ((cs ++ tail).getD 0 endMark = mark ∧ (cs ++ tail).getD 1 endMark = mark ∧
      (cs ++ tail).getD 2 endMark = mark) := by
    rcases cs with - | ⟨a, - | ⟨b, - | ⟨c, cs⟩⟩⟩
    · exact fun hmarks ↦ hnext hmarks.1
    · exact fun hmarks ↦ hnext hmarks.2.1
    · exact fun hmarks ↦ hnext hmarks.2.2
    · rintro ⟨ha, hb, hc⟩
      change a = mark at ha
      change b = mark at hb
      change c = mark at hc
      rw [ha, hb, hc] at h
      simp at h
  rw [Glyph.isMarker, Spot.charAt_glyphs, Spot.charAt_glyphs, Spot.charAt_glyphs]
  simp only [Bool.and_eq_false_iff, beq_eq_false_iff_ne]
  by_contra hall
  simp only [not_or, not_not, ne_eq] at hall
  exact hthree ⟨hall.1.1.1.2, hall.1.1.2, hall.1.2⟩

theorem startsPlain_of_printable {c second : Char} (hprint : isPrintable c)
    (hbreak : isBreak c = false) (hspace : c ≠ ' ') (hstart : c ∉ Style.startMarks)
    (hsecond : c = '?' ∨ c = '-' ∨ c = ':' → endsWord second = false) :
    startsPlain false c second := by
  by_cases hc : c = '?' ∨ c = '-' ∨ c = ':'
  · have hword := hsecond hc
    have hblank : isBlank second = false := by
      simp only [endsWord, Bool.or_eq_false_iff] at hword
      exact hword.1.1
    rcases hc with rfl | rfl | rfl <;> simp [startsPlain, hword, hblank]
  · have hother : c ∉ indicators := by
      intro hmem
      simp only [Style.startMarks, List.mem_cons, not_or] at hstart
      simp only [not_or] at hc
      simp only [indicators, List.mem_cons] at hmem
      tauto
    simp [startsPlain, endsWord, not_blank_of_printable hprint hspace, hbreak,
      ne_endMark_of_printable hprint, hother]

theorem token_plain (h : Style.PlainText cs) (hminus : tail.head? ≠ some '-')
    (hdot : tail.head? ≠ some '.') :
    (standing allowed ts ms p (cs ++ tail)).token =
      (standing allowed ts ms p (cs ++ tail)).plainScalar := by
  obtain ⟨c, cs, rfl⟩ := List.exists_cons_of_ne_nil h.nonempty
  obtain ⟨hprint, hbreak⟩ := h.printable c List.mem_cons_self
  have hspace : c ≠ ' ' := fun hc ↦ h.first (congrArg some hc)
  have hend := ne_endMark_of_printable hprint
  obtain ⟨⟨⟨hstart, hword⟩, hdashes⟩, hdots⟩ : ((Style.startMarks.contains c = false ∧
      ((c == '?' || c == '-' || c == ':') && (cs.head?.map endsWord).getD true) = false) ∧
      ['-', '-', '-'].isPrefixOf (c :: cs) = false) ∧
      ['.', '.', '.'].isPrefixOf (c :: cs) = false := by
    simpa only [Style.startsOtherwise, Bool.or_eq_false_iff] using h.starts
  have hstart : c ∉ Style.startMarks := by simpa using hstart
  have hdash := isMarker_eq_false (p := p) (by decide) hdashes hminus
  have hdot := isMarker_eq_false (p := p) (by decide) hdots hdot
  obtain ⟨second, hd⟩ : ∃ d, Glyph.charAt (p.glyphs (c :: cs ++ tail)) 1 = d := ⟨_, rfl⟩
  have hsecond : c = '?' ∨ c = '-' ∨ c = ':' → endsWord second = false := by
    intro hc
    have hmark : (c == '?' || c == '-' || c == ':') = true := by
      rcases hc with rfl | rfl | rfl <;> rfl
    rw [hmark, Bool.true_and] at hword
    rw [← hd, Spot.charAt_glyphs]
    cases cs with
    | nil => cases hword
    | cons d cs => exact hword
  have hstarts := startsPlain_of_printable hprint hbreak hspace hstart hsecond
  -- the three indicators that a plain text may start with are others before the end of a word
  have hquestion : ¬ (c = '?' ∧ endsWord second) := by
    rintro ⟨hc, hd⟩
    exact absurd hd (by simp [hsecond (.inl hc)])
  have hminus : ¬ (c = '-' ∧ endsWord second) := by
    rintro ⟨hc, hd⟩
    exact absurd hd (by simp [hsecond (.inr (.inl hc))])
  have hcolon : ¬ (c = ':' ∧ endsWord second) := by
    rintro ⟨hc, hd⟩
    exact absurd hd (by simp [hsecond (.inr (.inr hc))])
  simp only [Style.startMarks, List.mem_cons, not_or] at hstart
  rw [List.cons_append] at hd hdash hdot ⊢
  simp [token, hd, hdash, hdot, hend, hstart, hminus, hquestion, hcolon, hstarts]

def noted (allowed : Bool) (ts : List Token) (ms : List ℕ) (p : Spot) : Option PossibleKey :=
  if allowed then some ⟨ms.headD 0 == p.column + 1, p.line, p.column, p.offset, ts.length⟩ else none

def behindScalar (allowed : Bool) (ts : List Token) (ms : List ℕ) (p : Spot) (cs : List Char)
    (plain newLine : Bool) (rest : List Glyph) : Lexer :=
  { rest, tokens := ts ++ [.scalar (String.ofList cs) plain], margins := ms, keyAllowed := newLine,
    key := noted allowed ts ms p }

theorem noteKey_standing :
    (standing allowed ts ms p cs).noteKey =
      .ok { standing allowed ts ms p cs with key := noted allowed ts ms p } := by
  cases allowed with
  | false => rfl
  | true =>
    simp only [noteKey, keyAllowed_standing, Bool.not_true, Bool.false_eq_true, if_false,
      glyph_standing, inFlow_standing, margin_standing]
    rfl

theorem quoted_standing {read : List Glyph → Scanned} {mark : Char} {text : List Char}
    {rest : List Glyph} (hread : read ((p.next mark).glyphs cs) = .ok (text, rest)) :
    (standing allowed ts ms p (mark :: cs)).quoted read =
      .ok (behindScalar allowed ts ms p text false false rest) := by
  rw [quoted, noteKey_standing]
  simp only [bind, Except.bind, rest_standing, Spot.drop_one_glyphs, hread]
  rfl

theorem plainScalar_standing {text : List Char} {newLine : Bool} {rest : List Glyph}
    (hread : plain (ms.headD 0) false .nothing (p.glyphs cs) = .ok (text, newLine, rest)) :
    (standing allowed ts ms p cs).plainScalar =
      .ok (behindScalar allowed ts ms p text true newLine rest) := by
  rw [plainScalar, noteKey_standing]
  simp only [bind, Except.bind, margin, inFlow, margins_standing, outer_standing, List.isEmpty_nil,
    Bool.not_true, rest_standing, hread]
  rfl

theorem begins_plain (h : Style.PlainText cs) (tail : List Char) : Begins (cs ++ tail) := by
  obtain ⟨c, cs, rfl⟩ := List.exists_cons_of_ne_nil h.nonempty
  obtain ⟨hprint, hbreak⟩ := h.printable c List.mem_cons_self
  refine begins_cons.mpr ⟨not_blank_of_printable hprint ?_, hbreak, ?_⟩
  · exact fun hc ↦ h.first (congrArg some hc)
  · rintro rfl
    exact absurd h.starts (by simp [Style.startsOtherwise, Style.startMarks])

theorem begins_write (indent : ℕ) (s : String) (tail : List Char) :
    Begins (Style.write indent s ++ tail) := by
  rw [Style.write]
  cases hstyle : Style.ofText s with
  | plain => exact begins_plain (Style.plainText hstyle) tail
  | single => exact begins_cons.mpr (by decide)
  | double => exact begins_cons.mpr (by decide)
  | literal =>
    dsimp only
    rw [header_eq]
    exact begins_cons.mpr (by decide)

theorem write_ne_nil (indent : ℕ) (s : String) : Style.write indent s ≠ [] := by
  rw [Style.write]
  cases hstyle : Style.ofText s with
  | plain => exact (Style.plainText hstyle).nonempty
  | single => exact List.cons_ne_nil _ _
  | double => exact List.cons_ne_nil _ _
  | literal => exact List.append_ne_nil_of_right_ne_nil _ (List.cons_ne_nil _ _)

theorem next_plain (h : Style.PlainText cs) (hminus : tail.head? ≠ some '-')
    (hdot : tail.head? ≠ some '.') (hms : ms.headD 0 ≤ p.column + 1) {newLine : Bool}
    {rest : List Glyph}
    (hend : plain (ms.headD 0) false .nothing ((p.after cs).glyphs tail) =
      .ok ([], newLine, rest)) :
    (standing allowed ts ms p (cs ++ tail)).next =
      .ok (behindScalar allowed ts ms p cs true newLine rest) := by
  rw [next_standing (begins_plain h tail) hms, token_plain h hminus hdot]
  exact plainScalar_standing (plain_written h.printable h.colons h.hashes h.last hms
    (fun hne ↦ absurd rfl hne) hend)

theorem next_single {indent : ℕ} (hindent : 0 < indent) (htail : tail.head? ≠ some '\'')
    (hallowed : Style.singleAllowed cs) (hfeed : '\n' ∉ cs) (hms : ms.headD 0 ≤ p.column + 1) :
    (standing allowed ts ms p ('\'' :: (Style.writeSingle indent false cs ++ tail))).next =
      .ok (behindScalar allowed ts ms p cs false false
        ((p.after ('\'' :: Style.writeSingle indent false cs)).glyphs tail)) := by
  simp only [Style.singleAllowed, Bool.and_eq_true, Bool.not_eq_true'] at hallowed
  obtain ⟨⟨hescaped, hspaces⟩, hbreaks⟩ := hallowed
  have hall : ∀ c ∈ cs, isPrintable c ∧ c ≠ '\n' := by
    intro c hc
    refine ⟨Style.printable_of_isEscaped hescaped c hc, ?_⟩
    rintro rfl
    exact hfeed hc
  have hfits : Fits .nothing false (p.next '\'') cs :=
    .blanks (Spot.column_next_pos rfl) fun hne ↦ absurd rfl hne
  rw [next_standing (begins_cons.mpr (by decide)) hms, token_single]
  exact quoted_standing (single_written hindent htail hall hspaces hbreaks hfits)

theorem next_double (cs tail : List Char) (hms : ms.headD 0 ≤ p.column + 1) :
    (standing allowed ts ms p ('"' :: (cs.flatMap Style.escape ++ '"' :: tail))).next =
      .ok (behindScalar allowed ts ms p cs false false
        ((p.after ('"' :: cs.flatMap Style.escape ++ ['"'])).glyphs tail)) := by
  rw [next_standing (begins_cons.mpr (by decide)) hms, token_double]
  exact quoted_standing (double_written cs tail [] (Spot.column_next_pos rfl))

theorem next_literal (allowed : Bool) (ts : List Token) {n k : ℕ} (hall : ∀ c ∈ cs, isPrintable c)
    (hne : cs ≠ []) (hk : k < n + 2) (htail : Begins tail) (hms : ms.headD 0 = n + 1)
    (hp : n ≤ p.column) :
    ∃ q, q.column = k ∧
      (standing allowed ts ms p (Style.header cs ++
          '\n' :: (Style.writeLines (n + 2) true cs ++
            (lineEnd cs ++ Style.margin k ++ tail)))).next =
        .ok (standing true (ts ++ [.scalar (String.ofList cs) false]) ms q tail) := by
  obtain ⟨q, hq, hread⟩ := literal_written (p := p.next '|') hall hne hk htail
  refine ⟨q, hq, ?_⟩
  rw [header_eq, List.cons_append, next_standing (begins_cons.mpr (by decide)) (by omega),
    token_literal, blockScalar]
  simp only [dropKey, key_standing, forgetKey, pure, Except.pure, bind, Except.bind,
    margin, margins_standing, hms, rest_standing, Spot.drop_one_glyphs, hread]
  rfl

theorem givenUp_noted {q : Spot} (hms : ms.headD 0 ≠ p.column + 1) (hline : p.line < q.line) :
    GivenUp (noted allowed ts ms p) q := by
  intro key hkey
  cases allowed with
  | false => cases hkey
  | true =>
    cases hkey
    exact ⟨beq_eq_false_iff_ne.mpr hms, hline⟩

theorem reads_behindScalar {text rest : List Char} {plain newLine : Bool} {q : Spot}
    (hnext : (standing allowed ts ms p cs).next =
      .ok (behindScalar allowed ts ms p text plain newLine (q.glyphs rest)))
    (hlength : rest.length < cs.length) :
    Reads (standing allowed ts ms p cs)
      (behindScalar allowed ts ms p text plain newLine (q.glyphs rest)) := by
  refine .of_next hnext ?_ (by simp [behindScalar])
  simpa [behindScalar] using hlength

theorem reads_quoted {body : List Char} {s : String} {k : ℕ}
    (hnext : (standing allowed ts ms p (body ++ '\n' :: (Style.margin k ++ tail))).next =
      .ok (behindScalar allowed ts ms p s.toList false false
        ((p.after body).glyphs ('\n' :: (Style.margin k ++ tail)))))
    (hbody : body ≠ []) (htail : Begins tail) (hms : ms.headD 0 ≠ p.column + 1) :
    ∃ q, q.column = k ∧
      Reads (standing allowed ts ms p (body ++ '\n' :: (Style.margin k ++ tail)))
        (standing true (ts ++ [.scalar s false]) ms q tail) := by
  have hpos := List.length_pos_iff.mpr hbody
  have hline := Spot.line_le_after p body
  refine ⟨(p.after body).after ('\n' :: Style.margin k), by rw [Spot.after_line], ?_⟩
  refine (reads_behindScalar hnext (by simp; omega)).trans ?_
  rw [behindScalar, String.ofList_toList]
  refine reads_line htail (givenUp_noted hms ?_)
  rw [Spot.after_line]
  exact Nat.lt_succ_of_le hline

theorem lineEnd_of_last {c : Char} (h : isBreak c = false) (cs : List Char) :
    lineEnd (cs ++ [c]) = ['\n'] := by
  simp [lineEnd, h]

theorem writeSingle_last (indent : ℕ) (broken : Bool) (cs : List Char) :
    ∃ ds, Style.writeSingle indent broken cs = ds ++ ['\''] := by
  induction cs generalizing broken with
  | nil => exact ⟨_, rfl⟩
  | cons c cs ih =>
    rw [Style.writeSingle]
    split
    · obtain ⟨ds, hds⟩ := ih true
      exact ⟨c :: ds, by rw [hds]; rfl⟩
    · obtain ⟨ds, hds⟩ := ih false
      exact ⟨_ ++ ds, by rw [hds, ← List.append_assoc]⟩

theorem getLast_writeLines (indent : ℕ) (broken : Bool) (cs : List Char) :
    (Style.writeLines indent broken cs).getLast? = cs.getLast? := by
  induction cs generalizing broken with
  | nil => rfl
  | cons c cs ih =>
    rw [Style.writeLines]
    split
    · rw [List.getLast?_cons, List.getLast?_cons, ih]
    · rw [List.getLast?_append, List.getLast?_cons, List.getLast?_cons, ih]
      rfl

theorem lineEnd_literal {indent : ℕ} (h : cs ≠ []) :
    lineEnd (Style.header cs ++ '\n' :: Style.writeLines indent true cs) = lineEnd cs := by
  obtain ⟨c, hc⟩ := Option.ne_none_iff_exists'.mp (mt List.getLast?_eq_none_iff.mp h)
  have hlast : (Style.header cs ++ '\n' :: Style.writeLines indent true cs).getLast? = some c := by
    rw [List.getLast?_append, List.getLast?_cons, getLast_writeLines, hc]
    rfl
  rw [lineEnd, lineEnd, hlast, hc]

/-- A text that stands at the end of a line. Less indented text follows, or the end. -/
theorem text_reads (allowed : Bool) (ts : List Token) (s : String) {n k : ℕ} (hk : k ≤ n)
    (htail : Begins tail) (hms : ms.headD 0 = n + 1) (hp : n + 2 ≤ p.column) :
    ∃ q, q.column = k ∧
      Reads (standing allowed ts ms p (Style.write (n + 2) s ++
          (lineEnd (Style.write (n + 2) s) ++ (Style.margin k ++ tail))))
        (standing true (ts ++ [.scalar s (Style.ofText s = .plain)]) ms q tail) := by
  rw [Style.write]
  cases hstyle : Style.ofText s with
  | plain =>
    have h := Style.plainText hstyle
    have hend : lineEnd s.toList = ['\n'] := by
      obtain ⟨cs, c, hcs⟩ := List.eq_nil_or_concat s.toList |>.resolve_left h.nonempty
      rw [hcs, List.concat_eq_append]
      exact lineEnd_of_last (h.printable c (by simp [hcs])).2 cs
    have hnext : (standing allowed ts ms p (s.toList ++ '\n' :: (Style.margin k ++ tail))).next =
        .ok (behindScalar allowed ts ms p s.toList true true
          (((p.after s.toList).after ('\n' :: Style.margin k)).glyphs tail)) :=
      next_plain h (by simp) (by simp) (by omega) (plain_before_break (by omega) htail)
    have hline := Spot.line_le_after p s.toList
    refine ⟨(p.after s.toList).after ('\n' :: Style.margin k), by rw [Spot.after_line], ?_⟩
    dsimp only
    rw [hend]
    refine (reads_behindScalar hnext (by simp; omega)).trans ?_
    rw [behindScalar, String.ofList_toList]
    refine reads_givenUp htail (givenUp_noted (by omega) ?_)
    rw [Spot.after_line]
    exact Nat.lt_succ_of_le hline
  | single =>
    obtain ⟨hallowed, hfeed⟩ := Style.of_single hstyle
    obtain ⟨ds, hds⟩ := writeSingle_last (n + 2) false s.toList
    have hend : lineEnd ('\'' :: Style.writeSingle (n + 2) false s.toList) = ['\n'] := by
      rw [hds]
      exact lineEnd_of_last (by decide) ('\'' :: ds)
    dsimp only
    rw [hend]
    exact reads_quoted (next_single (by omega) (by simp) hallowed hfeed (by omega))
      (List.cons_ne_nil _ _) htail (by omega)
  | double =>
    have hend : lineEnd ('"' :: s.toList.flatMap Style.escape ++ ['"']) = ['\n'] :=
      lineEnd_of_last (by decide) _
    dsimp only
    rw [hend]
    refine reads_quoted ?_ (List.cons_ne_nil _ _) htail (by omega)
    rw [List.append_assoc]
    exact next_double s.toList _ (by omega)
  | literal =>
    obtain ⟨hallowed, hfeed⟩ := Style.of_literal hstyle
    have hne : s.toList ≠ [] := List.ne_nil_of_mem hfeed
    simp only [Style.literalAllowed, Bool.and_eq_true, Bool.not_eq_true'] at hallowed
    have hprint := Style.printable_of_isEscaped hallowed.1.1
    obtain ⟨q, hq, hnext⟩ := next_literal (p := p) allowed ts hprint hne
      (show k < n + 2 by omega) htail hms (by omega)
    refine ⟨q, hq, ?_⟩
    dsimp only
    rw [lineEnd_literal hne, List.append_assoc, List.cons_append, ← List.append_assoc (lineEnd _)]
    rw [String.ofList_toList] at hnext
    exact .of_next hnext (by simp; omega) (by simp)

end Lexer
end SqlGateway.Yaml
