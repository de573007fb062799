import SqlGateway.Proofs.Yaml.Quoted

namespace SqlGateway.Yaml

variable {indent : ℕ} {p : Spot} {cs : List Char}

theorem plain_blank (ws : List Char) :
    plain indent false (.blanks ws) (p.glyphs (' ' :: cs)) =
      plain indent false (.blanks (ws ++ [' '])) ((p.next ' ').glyphs cs) := by
  rw [Spot.glyphs_cons, plain]
  rfl

theorem plain_kept {ws : List Char} {c : Char} (hprint : isPrintable c) (hbreak : isBreak c = false)
    (hspace : c ≠ ' ') (hcolon : c = ':' → ∃ d ∈ cs.head?, endsWord d = false)
    (hws : ws ≠ [] → indent ≤ p.column ∧ 0 < p.column ∧ c ≠ '#') :
    plain indent false (.blanks ws) (p.glyphs (c :: cs)) =
      (plain indent false .nothing ((p.next c).glyphs cs)).map
        fun (t, r) ↦ (ws ++ c :: t, r) := by
  have hgap : (!(Gap.blanks ws).isNothing && ((!false && decide ((p.glyph c).column < indent))
      || Glyph.isDocumentMarker (p.glyph c :: (p.next c).glyphs cs)
      || decide ((p.glyph c).char = '#'))) = false := by
    by_cases hne : ws = []
    · simp [hne, Gap.isNothing]
    · obtain ⟨hindent, hcol, hhash⟩ := hws hne
      simp [isDocumentMarker_glyph c _ hcol, hhash, Nat.not_lt.mpr hindent]
  have hends : endsPlain false (p.glyph c :: (p.next c).glyphs cs) = false := by
    have hfirst : Glyph.charAt (p.glyph c :: (p.next c).glyphs cs) 0 = c := rfl
    have hsecond : Glyph.charAt (p.glyph c :: (p.next c).glyphs cs) 1 = cs.getD 0 endMark :=
      Spot.charAt_glyphs (p.next c) cs 0
    rw [endsPlain, hfirst, hsecond]
    by_cases hc : c = ':'
    · obtain ⟨d, hd, hword⟩ := hcolon hc
      have hgetD : cs.getD 0 endMark = d := by
        rw [List.getD_eq_getElem?_getD, ← List.head?_eq_getElem?, Option.mem_def.mp hd]
        rfl
      rw [hgetD, hword, Bool.and_false]
      rfl
    · simp [hc]
  rw [Spot.glyphs_cons, plain, hgap, hends]
  simp [Gap.isBroken, Gap.text, not_blank_of_printable hprint hspace, hbreak,
    ne_endMark_of_printable hprint]

theorem plain_written {ws tail : List Char} {newLine : Bool} {rest : List Glyph}
    (hall : ∀ c ∈ cs, isPrintable c ∧ isBreak c = false)
    (hcolon : Style.adjacent (· == ':') endsWord cs = false)
    (hhash : Style.adjacent endsWord (· == '#') cs = false)
    (hlast : ∀ c ∈ cs.getLast?, c ≠ ' ' ∧ c ≠ ':') (hindent : indent ≤ p.column + 1)
    (hws : ws ≠ [] → cs ≠ [] ∧ indent ≤ p.column ∧ 0 < p.column ∧ cs.head? ≠ some '#')
    (hend : plain indent false .nothing ((p.after cs).glyphs tail) = .ok ([], newLine, rest)) :
    plain indent false (.blanks ws) (p.glyphs (cs ++ tail)) = .ok (ws ++ cs, newLine, rest) := by
  -- `ws` are the blanks behind the last word; they count once the next word starts
  induction cs generalizing ws p with
  | nil =>
    have hnil : ws = [] := by
      by_contra hne
      exact (hws hne).1 rfl
    rw [hnil]
    exact hend
  | cons c cs ih =>
    obtain ⟨⟨hprint, hbreak⟩, hrest⟩ := List.forall_mem_cons.mp hall
    obtain ⟨hword, hcolons⟩ := Style.adjacent_cons_iff.mp hcolon
    obtain ⟨hmark, hhashes⟩ := Style.adjacent_cons_iff.mp hhash
    have hcol := Spot.column_next (p := p) hbreak
    have hlasts : ∀ d ∈ cs.getLast?, d ≠ ' ' ∧ d ≠ ':' := by
      intro d hd
      refine hlast d ?_
      rw [List.getLast?_cons, Option.mem_def.mp hd]
      rfl
    have hmore : c = ' ' ∨ c = ':' → cs ≠ [] := by
      rintro hc rfl
      obtain ⟨hspace, hcolon⟩ := hlast c rfl
      exact hc.elim hspace hcolon
    by_cases hspace : c = ' '
    · subst hspace
      have hnext : cs.head? ≠ some '#' := fun hd ↦ absurd (hmark rfl '#' hd) (by decide)
      rw [List.cons_append, plain_blank, ih hrest hcolons hhashes hlasts (by omega)
        (fun _ ↦ ⟨hmore (.inl rfl), by omega, by omega, hnext⟩) hend, List.append_assoc]
      rfl
    · have hnext : c = ':' → ∃ d ∈ (cs ++ tail).head?, endsWord d = false := by
        intro hc
        obtain ⟨d, ds, rfl⟩ := List.exists_cons_of_ne_nil (hmore (.inr hc))
        exact ⟨d, rfl, hword (by simp [hc]) d rfl⟩
      have hgap : ws ≠ [] → indent ≤ p.column ∧ 0 < p.column ∧ c ≠ '#' := by
        intro hne
        obtain ⟨-, hfar, hpos, hfirst⟩ := hws hne
        exact ⟨hfar, hpos, fun hc ↦ hfirst (congrArg some hc)⟩
      rw [List.cons_append, plain_kept hprint hbreak hspace hnext hgap, Gap.nothing,
        ih hrest hcolons hhashes hlasts (by omega) (fun hne ↦ absurd rfl hne) hend]
      rfl

theorem plain_before_colon (hcs : ∀ d ∈ cs.head?, endsWord d) :
    plain indent false .nothing (p.glyphs (':' :: cs)) = .ok ([], false, p.glyphs (':' :: cs)) := by
  have hsecond : Glyph.charAt (p.glyph ':' :: (p.next ':').glyphs cs) 1 = cs.getD 0 endMark :=
    Spot.charAt_glyphs (p.next ':') cs 0
  have hword : endsWord (cs.getD 0 endMark) := by
    cases cs with
    | nil => rfl
    | cons d ds => exact hcs d rfl
  have hends : endsPlain false (p.glyph ':' :: (p.next ':').glyphs cs) := by
    rw [endsPlain, hsecond, hword]
    rfl
  rw [Spot.glyphs_cons, plain, hends]
  simp [Gap.nothing, Gap.isNothing, Gap.isBroken, isBlank, isBreak]

theorem plain_before_line {first : Char} {more : List Char} {k : ℕ} (hk : p.column + k < indent)
    (hcs : Begins cs) :
    plain indent false (.broken (some first) more) (p.glyphs (Style.margin k ++ cs)) =
      .ok ([], true, (p.after (Style.margin k)).glyphs cs) := by
  induction k generalizing p with
  | zero =>
    change plain indent false _ (p.glyphs cs) = .ok ([], true, p.glyphs cs)
    cases cs with
    | nil =>
      rw [Spot.glyphs_nil, plain]
      simp [endMark, isBlank, isBreak, Gap.isBroken]
    | cons c cs =>
      obtain ⟨hblank, hbreak, -⟩ := begins_cons.mp hcs
      have htab := (isBlank_eq_false_iff.mp hblank).2
      rw [Spot.glyphs_cons, plain]
      simp [htab, hblank, hbreak, Gap.isNothing, Gap.isBroken, show p.column < indent from hk]
  | succ k ih =>
    have hcol : (p.next ' ').column = p.column + 1 := rfl
    rw [Style.margin_succ, List.cons_append, Spot.glyphs_cons, plain]
    exact ih (by omega)

theorem plain_before_break {k : ℕ} (hk : k < indent) (hcs : Begins cs) :
    plain indent false .nothing (p.glyphs ('\n' :: (Style.margin k ++ cs))) =
      .ok ([], true, (p.after ('\n' :: Style.margin k)).glyphs cs) := by
  have hcol : (p.next '\n').column = 0 := rfl
  rw [Spot.glyphs_cons, plain]
  exact plain_before_line (by omega) hcs

end SqlGateway.Yaml
