import Mathlib.Tactic.Ring
import SqlGateway.Proofs.Power
import SqlGateway.Proofs.Yaml.Quoted

namespace SqlGateway.Yaml

inductive EscapedAs (c : Char) : List Char → Prop
  | kept (hprint : isPrintable c) (hbreak : isBreak c = false) (hquote : c ≠ '"')
      (hslash : c ≠ '\\') : EscapedAs c [c]
  | named (e : Char) (hname : escaped e = some c) (hprint : isPrintable e)
      (hbreak : isBreak e = false) : EscapedAs c ['\\', e]
  | coded (e : Char) (digits : ℕ) (hcode : codeLength e = some (digits + 1))
      (hplain : escaped e = none) (hprint : isPrintable e) (hbreak : isBreak e = false)
      (hfits : c.toNat < 16 ^ (digits + 1)) (hsize : digits + 3 ≤ 6 * c.utf8Size) :
      EscapedAs c ('\\' :: e :: Style.hexCode (digits + 1) c.toNat)

theorem utf8Size_wide {c : Char} (h : 0xffff < c.toNat) : c.utf8Size = 4 := by
  have hval : 0xffff < c.val.toNat := h
  have hwide : ∀ m : UInt32, m.toNat ≤ 0xffff → ¬ c.val ≤ m := by
    intro m hm hle
    have := UInt32.le_iff_toNat_le.mp hle
    omega
  rw [Char.utf8Size, if_neg (hwide _ (by decide)), if_neg (hwide _ (by decide)),
    if_neg (hwide _ (by decide))]

theorem escapedAs (c : Char) : EscapedAs c (Style.escape c) := by
  unfold Style.escape
  by_cases hmark : c = '"' ∨ c = '\\'
  · rw [if_pos hmark]
    rcases hmark with rfl | rfl
    · exact .named '"' rfl rfl rfl
    · exact .named '\\' rfl rfl rfl
  · rw [if_neg hmark]
    obtain ⟨hquote, hslash⟩ := not_or.mp hmark
    by_cases hkept : isPrintable c && !isBreak c
    · rw [if_pos hkept]
      simp only [Bool.and_eq_true, Bool.not_eq_true'] at hkept
      exact .kept hkept.1 hkept.2 hquote hslash
    · rw [if_neg hkept]
      -- each code point with a name of its own, then the three lengths of a code
      obtain ⟨n, hn⟩ : ∃ n, c.toNat = n := ⟨_, rfl⟩
      have hc : c = Char.ofNat n := by rw [← hn, Char.ofNat_toNat]
      simp only [hn]
      split
      · exact .named '0' (congrArg some hc.symm) rfl rfl
      · exact .named 'a' (congrArg some hc.symm) rfl rfl
      · exact .named 'b' (congrArg some hc.symm) rfl rfl
      · exact .named 't' (congrArg some hc.symm) rfl rfl
      · exact .named 'n' (congrArg some hc.symm) rfl rfl
      · exact .named 'v' (congrArg some hc.symm) rfl rfl
      · exact .named 'f' (congrArg some hc.symm) rfl rfl
      · exact .named 'r' (congrArg some hc.symm) rfl rfl
      · exact .named 'e' (congrArg some hc.symm) rfl rfl
      · exact .named 'N' (congrArg some hc.symm) rfl rfl
      · exact .named 'L' (congrArg some hc.symm) rfl rfl
      · exact .named 'P' (congrArg some hc.symm) rfl rfl
      · have hsize := c.utf8Size_pos
        split
        · rw [← hn]
          exact .coded 'x' 1 rfl rfl rfl rfl (by omega) (by omega)
        · split
          · rw [← hn]
            exact .coded 'u' 3 rfl rfl rfl rfl (by omega) (by omega)
          · rw [← hn]
            exact .coded 'U' 7 rfl rfl rfl rfl c.val.toNat_lt (by rw [utf8Size_wide] <;> omega)

theorem hexDigit_read : ∀ d, d < 16 → Text.Hex.digitValue? (Style.hexDigit d) = some d ∧
    isPrintable (Style.hexDigit d) ∧ isBreak (Style.hexDigit d) = false := by
  decide

theorem hexCode_succ (digits n : ℕ) :
    Style.hexCode (digits + 1) n =
      Style.hexDigit (n / 16 ^ digits % 16) :: Style.hexCode digits n := by
  have hpow : twoTo (4 * digits) = 16 ^ digits := by
    rw [twoTo_eq, pow_mul]
    rfl
  simp [Style.hexCode, List.range_succ, hpow]

theorem mem_hexCode {c : Char} {digits n : ℕ} (h : c ∈ Style.hexCode digits n) :
    ∃ d < 16, c = Style.hexDigit d := by
  obtain ⟨i, -, rfl⟩ := List.mem_map.mp h
  exact ⟨_, Nat.mod_lt _ (by decide), rfl⟩

variable {p : Spot} {cs : List Char}

theorem double_code (digits value n : ℕ)
    (hscalar : isScalarValue (value * 16 ^ (digits + 1) + n % 16 ^ (digits + 1))) :
    double (.code (digits + 1) value) .nothing
        (p.glyphs (Style.hexCode (digits + 1) n ++ cs)) =
      Scanned.prepend [Char.ofNat (value * 16 ^ (digits + 1) + n % 16 ^ (digits + 1))]
        (double .outside .nothing ((p.after (Style.hexCode (digits + 1) n)).glyphs cs)) := by
  induction digits generalizing value p with
  | zero =>
    obtain ⟨hvalue, -⟩ := hexDigit_read (n % 16) (Nat.mod_lt _ (by decide))
    have hone : Style.hexCode 1 n = [Style.hexDigit (n % 16)] := by
      simp [Style.hexCode, twoTo]
    have hnumber : 16 * value + n % 16 = value * 16 ^ 1 + n % 16 ^ 1 := by omega
    rw [hone, List.singleton_append, Spot.glyphs_cons, double]
    simp only [Spot.char_glyph, hvalue, hnumber]
    rw [if_neg (by decide), if_pos hscalar]
    rfl
  | succ digits ih =>
    obtain ⟨hvalue, -⟩ := hexDigit_read (n / 16 ^ (digits + 1) % 16) (Nat.mod_lt _ (by decide))
    -- the digits in front are those of the number without its last `digits + 1`
    have hnumber : value * 16 ^ (digits + 2) + n % 16 ^ (digits + 2) =
        (16 * value + n / 16 ^ (digits + 1) % 16) * 16 ^ (digits + 1) + n % 16 ^ (digits + 1) := by
      have hsplit : n % 16 ^ (digits + 2) =
          n % 16 ^ (digits + 1) + 16 ^ (digits + 1) * (n / 16 ^ (digits + 1) % 16) := by
        rw [pow_succ, Nat.mod_mul]
      rw [hsplit]
      ring
    rw [hexCode_succ, List.cons_append, Spot.glyphs_cons, double]
    simp only [Spot.char_glyph, hvalue]
    rw [if_pos (by omega), Nat.add_sub_cancel, hnumber, ih _ (by rwa [← hnumber])]
    rfl

theorem double_backslash (bs : List Char) (hp : 0 < p.column) :
    double .outside (.blanks bs) (p.glyphs ('\\' :: cs)) =
      Scanned.prepend bs (double .behindBackslash .nothing ((p.next '\\').glyphs cs)) := by
  have hmark := isDocumentMarker_glyph '\\' ((p.next '\\').glyphs cs) hp
  rw [Spot.glyphs_cons, double]
  simp [hmark, Gap.text, isBlank, isBreak, endMark]

theorem double_kept (bs : List Char) {c : Char} (hp : 0 < p.column) (hprint : isPrintable c)
    (hbreak : isBreak c = false) (hquote : c ≠ '"') (hslash : c ≠ '\\') (hspace : c ≠ ' ') :
    double .outside (.blanks bs) (p.glyphs (c :: cs)) =
      Scanned.prepend (bs ++ [c]) (double .outside .nothing ((p.next c).glyphs cs)) := by
  have hmark := isDocumentMarker_glyph c ((p.next c).glyphs cs) hp
  rw [Spot.glyphs_cons, double]
  simp [hmark, Gap.text, not_blank_of_printable hprint hspace, hbreak,
    ne_endMark_of_printable hprint, hquote, hslash]

theorem EscapedAs.not_break {c : Char} {written : List Char} (h : EscapedAs c written) :
    ∀ d ∈ written, isBreak d = false := by
  cases h with
  | kept _ hbreak => simpa using hbreak
  | named e _ _ hbreak => simpa using ⟨by decide, hbreak⟩
  | coded e digits _ _ _ hbreak =>
    simp only [List.forall_mem_cons]
    refine ⟨by decide, hbreak, fun d hd ↦ ?_⟩
    obtain ⟨n, hn, rfl⟩ := mem_hexCode hd
    exact (hexDigit_read n hn).2.2

theorem EscapedAs.printable {c : Char} {written : List Char} (h : EscapedAs c written) :
    ∀ d ∈ written, isPrintable d := by
  cases h with
  | kept hprint => simpa using hprint
  | named e _ hprint => simpa using ⟨by decide, hprint⟩
  | coded e digits _ _ hprint =>
    simp only [List.forall_mem_cons]
    refine ⟨by decide, hprint, fun d hd ↦ ?_⟩
    obtain ⟨n, hn, rfl⟩ := mem_hexCode hd
    exact (hexDigit_read n hn).2.1

theorem EscapedAs.length_le {c : Char} {written : List Char} (h : EscapedAs c written) :
    written.length ≤ 6 * c.utf8Size := by
  have hsize := c.utf8Size_pos
  cases h with
  | kept => simp; omega
  | named => simp; omega
  | coded e digits _ _ _ _ _ hdigits =>
    rw [List.length_cons, List.length_cons, Style.hexCode, List.length_map, List.length_reverse,
      List.length_range]
    exact hdigits

theorem isScalarValue_toNat (c : Char) : isScalarValue c.toNat := by
  have hvalid : c.toNat < 0xd800 ∨ (0xdfff < c.toNat ∧ c.toNat < 0x110000) := c.valid
  simp only [isScalarValue, Bool.or_eq_true, Bool.and_eq_true, decide_eq_true_eq]
  omega

theorem double_written (cs tail bs : List Char) (hp : 0 < p.column) :
    double .outside (.blanks bs) (p.glyphs (cs.flatMap Style.escape ++ '"' :: tail)) =
      .ok (bs ++ cs, (p.after (cs.flatMap Style.escape ++ ['"'])).glyphs tail) := by
  induction cs generalizing bs p with
  | nil =>
    have hmark := isDocumentMarker_glyph '"' ((p.next '"').glyphs tail) hp
    rw [List.flatMap_nil, List.nil_append, Spot.glyphs_cons, double]
    simp [hmark, Gap.text, isBlank, isBreak, endMark]
  | cons c cs ih =>
    have hwritten := escapedAs c
    have hcol : 0 < (p.after (Style.escape c)).column := by
      rw [Spot.after_of_not_break hwritten.not_break]
      exact Nat.add_pos_left hp _
    rw [List.flatMap_cons, List.append_assoc, List.append_assoc, Spot.after_append]
    have hrest := fun bs ↦ ih bs hcol
    revert hrest
    generalize Style.escape c = written at hwritten
    intro hrest
    cases hwritten with
    | kept hprint hbreak hquote hslash =>
      by_cases hspace : c = ' '
      · subst hspace
        rw [List.singleton_append, Spot.glyphs_cons, double]
        simp only [Spot.char_glyph, isBlank, beq_self_eq_true, Bool.true_or, if_true]
        exact (hrest (bs ++ [' '])).trans (by rw [List.append_assoc]; rfl)
      · rw [List.singleton_append, double_kept bs hp hprint hbreak hquote hslash hspace]
        refine (congrArg _ (hrest [])).trans ?_
        rw [prepend_ok, List.append_assoc]
        rfl
    | named e hname hprint hbreak =>
      rw [List.cons_append, double_backslash bs hp, List.singleton_append, Spot.glyphs_cons, double]
      simp only [Spot.char_glyph, hbreak, Bool.false_eq_true, if_false, hname]
      exact congrArg _ (congrArg _ (hrest []))
    | coded e digits hcode hplain hprint hbreak hfits =>
      have hvalue : 0 * 16 ^ (digits + 1) + c.toNat % 16 ^ (digits + 1) = c.toNat := by
        rw [Nat.zero_mul, Nat.zero_add, Nat.mod_eq_of_lt hfits]
      rw [List.cons_append, double_backslash bs hp, List.cons_append, Spot.glyphs_cons, double]
      simp only [Spot.char_glyph, hbreak, Bool.false_eq_true, if_false, hplain, hcode]
      rw [double_code digits 0 c.toNat (by rw [hvalue]; exact isScalarValue_toNat c), hvalue,
        Char.ofNat_toNat]
      exact congrArg _ (congrArg _ (hrest []))

end SqlGateway.Yaml
