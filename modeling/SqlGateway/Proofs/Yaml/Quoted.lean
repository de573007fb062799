import SqlGateway.Proofs.Yaml.Place
import SqlGateway.Yaml.Scalar

namespace SqlGateway.Yaml

theorem not_blank_of_printable {c : Char} (h : isPrintable c) (hspace : c ≠ ' ') :
    isBlank c = false := by
  exact isBlank_eq_false_iff.mpr ⟨hspace, ne_of_class h rfl⟩

theorem ne_endMark_of_printable {c : Char} (h : isPrintable c) : c ≠ endMark :=
  ne_of_class h rfl

/-- A gap that writing left behind: blanks on a line, or breaks without a line feed in front of the
indentation. What comes next does not join blanks and breaks. -/
inductive Fits : Gap → Bool → Spot → List Char → Prop
  | blanks {bs cs : List Char} {p : Spot} (hp : 0 < p.column)
      (hbreak : bs ≠ [] → ∀ c ∈ cs.head?, isBreak c = false) : Fits (.blanks bs) false p cs
  | broken {first : Char} {more cs : List Char} {p : Spot} (hfirst : first ≠ '\n')
      (hspace : ∀ c ∈ cs.head?, Style.isSpace c = false) :
      Fits (.broken (some first) more) true p cs

def shown (indent : ℕ) (broken : Bool) (p : Spot) : Spot :=
  p.after (if broken then Style.margin indent else [])

theorem single_margin (first : Char) (more : List Char) (k : ℕ) (p : Spot) (cs : List Char) :
    single false (.broken (some first) more) (p.glyphs (Style.margin k ++ cs)) =
      single false (.broken (some first) more) ((p.after (Style.margin k)).glyphs cs) := by
  induction k generalizing p with
  | zero => rfl
  | succ k ih =>
    rw [Style.margin_succ, List.cons_append, Spot.glyphs_cons]
    exact ih (p.next ' ')

variable {gap : Gap} {broken : Bool} {p : Spot} {cs : List Char} {indent : ℕ}

theorem Fits.indented (h : Fits gap broken p cs) (ds : List Char) :
    single false gap (p.glyphs ((if broken then Style.margin indent else []) ++ ds)) =
      single false gap ((shown indent broken p).glyphs ds) := by
  cases h with
  | blanks => rfl
  | broken => exact single_margin _ _ indent p ds

theorem Fits.column_shown (h : Fits gap broken p cs) (hindent : 0 < indent) :
    0 < (shown indent broken p).column := by
  cases h with
  | blanks hp => exact hp
  | broken =>
    rw [shown, if_pos rfl, Spot.after_margin]
    exact Nat.lt_of_lt_of_le hindent (Nat.le_add_left _ _)

theorem single_quote (gap : Gap) (hp : 0 < p.column) :
    single false gap (p.glyphs ('\'' :: cs)) =
      Scanned.prepend gap.text (single true .nothing ((p.next '\'').glyphs cs)) := by
  have hmark := isDocumentMarker_glyph '\'' ((p.next '\'').glyphs cs) hp
  rw [Spot.glyphs_cons, single]
  simp [hmark, isBlank, isBreak, endMark]

theorem single_kept (gap : Gap) {c : Char} (hp : 0 < p.column) (hblank : isBlank c = false)
    (hbreak : isBreak c = false) (hend : c ≠ endMark) (hquote : c ≠ '\'') :
    single false gap (p.glyphs (c :: cs)) =
      Scanned.prepend (gap.text ++ [c]) (single false .nothing ((p.next c).glyphs cs)) := by
  have hmark := isDocumentMarker_glyph c ((p.next c).glyphs cs) hp
  rw [Spot.glyphs_cons, single]
  simp [hblank, hbreak, hend, hquote, hmark]

theorem single_closed {tail : List Char} (htail : tail.head? ≠ some '\'') :
    single true .nothing (p.glyphs tail) = .ok ([], p.glyphs tail) := by
  cases tail with
  | nil => rfl
  | cons c tail =>
    have hc : c ≠ '\'' := fun hc ↦ htail (congrArg some hc)
    rw [Spot.glyphs_cons, single]
    simp [hc]

@[simp]
theorem prepend_ok (ds text : List Char) (rest : List Glyph) :
    Scanned.prepend ds (.ok (text, rest)) = .ok (ds ++ text, rest) := rfl

theorem after_indented (ds : List Char) :
    p.after ((if broken then Style.margin indent else []) ++ ds) =
      (shown indent broken p).after ds := Spot.after_append _ _ _

theorem Fits.newline {c : Char} {cs : List Char} (h : Fits gap broken p (c :: cs))
    (hc : isBreak c) (hfeed : c ≠ '\n') (hspace : ∀ d ∈ cs.head?, Style.isSpace d = false) :
    Fits (gap.add c) true (p.next c) cs ∧ (gap.add c).text = gap.text ++ [c] := by
  cases h with
  | @blanks bs _ _ hp hbreak =>
    cases bs with
    | nil => simpa [Gap.add, Gap.text, hc, hfeed] using Fits.broken hfeed hspace
    | cons b bs => exact absurd hc (by simp [hbreak (List.cons_ne_nil _ _) c rfl])
  | broken hfirst _ => simpa [Gap.add, Gap.text, hc, hfirst] using Fits.broken hfirst hspace

theorem Fits.space {cs : List Char} (h : Fits gap broken p (' ' :: cs))
    (hbreak : ∀ d ∈ cs.head?, isBreak d = false) :
    broken = false ∧ Fits (gap.add ' ') false (p.next ' ') cs ∧
      (gap.add ' ').text = gap.text ++ [' '] := by
  cases h with
  | blanks hp _ =>
    exact ⟨rfl, .blanks (Spot.column_next_pos rfl) fun _ ↦ hbreak, rfl⟩
  | broken _ hspace => exact absurd (hspace ' ' rfl) (by decide)

theorem single_written (hindent : 0 < indent) {tail : List Char} (htail : tail.head? ≠ some '\'')
    (hall : ∀ c ∈ cs, isPrintable c ∧ c ≠ '\n')
    (hspace : Style.adjacent Style.isSpace isBreak cs = false)
    (hbreak : Style.adjacent isBreak Style.isSpace cs = false) (h : Fits gap broken p cs) :
    single false gap (p.glyphs (Style.writeSingle indent broken cs ++ tail)) =
      .ok (gap.text ++ cs, (p.after (Style.writeSingle indent broken cs)).glyphs tail) := by
  -- blanks and breaks wait in the gap until it is known that they count, so the gap goes along
  induction cs generalizing gap broken p with
  | nil =>
    rw [Style.writeSingle, List.append_assoc, h.indented, List.singleton_append,
      single_quote gap (h.column_shown hindent), single_closed htail, prepend_ok, after_indented]
    rfl
  | cons c cs ih =>
    obtain ⟨⟨hprint, hfeed⟩, hrest⟩ := List.forall_mem_cons.mp hall
    obtain ⟨hnobreak, hspaces⟩ := Style.adjacent_cons_iff.mp hspace
    obtain ⟨hnospace, hbreaks⟩ := Style.adjacent_cons_iff.mp hbreak
    rw [Style.writeSingle]
    by_cases hc : isBreak c
    · obtain ⟨hfits, htext⟩ := h.newline hc hfeed (hnospace hc)
      rw [if_pos hc, List.cons_append, Spot.glyphs_cons, single]
      simp only [Bool.false_eq_true, if_false, Spot.char_glyph, hc, Bool.or_true, if_true]
      rw [ih hrest hspaces hbreaks hfits, htext, List.append_assoc]
      rfl
    · have hc : isBreak c = false := eq_false_of_ne_true hc
      have hcol := h.column_shown hindent
      have hkept : Fits .nothing false ((shown indent broken p).next c) cs :=
        .blanks (Spot.column_next_pos hc) fun hne ↦ absurd rfl hne
      rw [hc, if_neg Bool.false_ne_true, List.append_assoc, List.append_assoc, h.indented,
        Spot.after_append, after_indented]
      by_cases hquote : c = '\''
      · -- the first of the two quotes ends the gap, the second one is the character
        subst hquote
        have hdoubled : Fits .nothing false (((shown indent broken p).next '\'').next '\'') cs :=
          .blanks (Spot.column_next_pos hc) fun hne ↦ absurd rfl hne
        rw [if_pos rfl, List.cons_append, single_quote gap hcol, List.singleton_append,
          Spot.glyphs_cons, single]
        simp only [if_true, Spot.char_glyph]
        rw [ih hrest hspaces hbreaks hdoubled]
        simp [Gap.text, Gap.nothing]
      · rw [if_neg hquote, List.singleton_append]
        by_cases hblank : c = ' '
        · subst hblank
          obtain ⟨rfl, hfits, htext⟩ := h.space (hnobreak rfl)
          rw [shown, if_neg Bool.false_ne_true, Spot.after_nil, Spot.glyphs_cons, single]
          simp only [Bool.false_eq_true, if_false, Spot.char_glyph, isBlank, beq_self_eq_true,
            Bool.true_or, if_true]
          rw [ih hrest hspaces hbreaks hfits, htext, List.append_assoc]
          rfl
        · rw [single_kept gap hcol (not_blank_of_printable hprint hblank) hc
            (ne_endMark_of_printable hprint) hquote, ih hrest hspaces hbreaks hkept]
          simp [Gap.text, Gap.nothing]

end SqlGateway.Yaml
