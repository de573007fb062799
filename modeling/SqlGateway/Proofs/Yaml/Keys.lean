import SqlGateway.Proofs.Yaml.Written
import SqlGateway.Yaml.Outline

namespace SqlGateway.Yaml

section Simple

variable {key : String} {cs : List Char}

theorem length_le_size (cs : List Char) : cs.length ≤ Text.Utf8.size cs := by
  induction cs with
  | nil => exact Nat.le_refl _
  | cons c cs ih =>
    have hpos := c.utf8Size_pos
    rw [List.length_cons, Text.Utf8.size]
    omega

theorem writeSingle_line (indent : ℕ) (hall : ∀ c ∈ cs, isBreak c = false) :
    (∀ d ∈ Style.writeSingle indent false cs, isBreak d = false) ∧
      (Style.writeSingle indent false cs).length ≤ 2 * cs.length + 1 := by
  induction cs with
  | nil => exact ⟨by simp [Style.writeSingle, isBreak], Nat.le_refl _⟩
  | cons c cs ih =>
    obtain ⟨hc, hrest⟩ := List.forall_mem_cons.mp hall
    obtain ⟨hbreaks, hlength⟩ := ih hrest
    rw [Style.writeSingle, hc]
    by_cases hquote : c = '\''
    · subst hquote
      simpa using ⟨⟨hc, hbreaks⟩, by omega⟩
    · simpa [hquote] using ⟨⟨hc, hbreaks⟩, by omega⟩

theorem escape_line (cs : List Char) :
    (∀ d ∈ cs.flatMap Style.escape, isBreak d = false) ∧
      (cs.flatMap Style.escape).length ≤ 6 * Text.Utf8.size cs := by
  induction cs with
  | nil => exact ⟨by simp, Nat.zero_le _⟩
  | cons c cs ih =>
    obtain ⟨hbreaks, hlength⟩ := ih
    have hfirst := (escapedAs c).length_le
    rw [List.flatMap_cons, Text.Utf8.size, List.length_append]
    exact ⟨List.forall_mem_append.mpr ⟨(escapedAs c).not_break, hbreaks⟩, by omega⟩

theorem write_line (indent : ℕ) (h : Outline.isSimpleKey key) :
    (∀ d ∈ Style.write indent key, isBreak d = false) ∧
      (Style.write indent key).length ≤ 1024 := by
  simp only [Outline.isSimpleKey, Style.isMultiline, Bool.and_eq_true, Bool.not_eq_true',
    decide_eq_true_eq, List.any_eq_false] at h
  obtain ⟨hline, hsize⟩ := h
  have hall : ∀ c ∈ key.toList, isBreak c = false := fun c hc ↦ eq_false_of_ne_true (hline c hc)
  have hlength := length_le_size key.toList
  rw [Style.write]
  cases hstyle : Style.ofText key with
  | plain => exact ⟨hall, by dsimp only; omega⟩
  | single =>
    obtain ⟨hbreaks, hwritten⟩ := writeSingle_line indent hall
    refine ⟨List.forall_mem_cons.mpr ⟨by decide, hbreaks⟩, ?_⟩
    simp only [List.length_cons]
    omega
  | double =>
    obtain ⟨hbreaks, hwritten⟩ := escape_line key.toList
    refine ⟨List.forall_mem_append.mpr ⟨List.forall_mem_cons.mpr ⟨rfl, hbreaks⟩,
      List.forall_mem_singleton.mpr rfl⟩, ?_⟩
    simp only [List.cons_append, List.length_cons, List.length_append, List.length_nil]
    omega
  | literal =>
    obtain ⟨-, hfeed⟩ := Style.of_literal hstyle
    exact absurd (hall _ hfeed) (by decide)

end Simple

namespace Lexer

variable {allowed : Bool} {ts : List Token} {ms : List ℕ} {p : Spot} {key : String}
  {tail : List Char}

theorem next_key (allowed : Bool) (ts : List Token) {indent : ℕ} (h : Outline.isSimpleKey key)
    (hindent : 0 < indent) (htail : ∀ d ∈ tail.head?, endsWord d)
    (hms : ms.headD 0 ≤ p.column + 1) :
    (standing allowed ts ms p (Style.write indent key ++ ':' :: tail)).next =
      .ok (behindScalar allowed ts ms p key.toList (Style.ofText key = .plain) false
        ((p.after (Style.write indent key)).glyphs (':' :: tail))) := by
  rw [Style.write]
  cases hstyle : Style.ofText key with
  | plain =>
    exact next_plain (Style.plainText hstyle) (by simp) (by simp) hms (plain_before_colon htail)
  | single =>
    obtain ⟨hallowed, hfeed⟩ := Style.of_single hstyle
    exact next_single hindent (by simp) hallowed hfeed hms
  | double =>
    dsimp only
    rw [List.append_assoc]
    exact next_double key.toList _ hms
  | literal =>
    obtain ⟨-, hfeed⟩ := Style.of_literal hstyle
    simp only [Outline.isSimpleKey, Style.isMultiline, Bool.and_eq_true, Bool.not_eq_true',
      List.any_eq_false] at h
    exact absurd rfl (h.1 _ hfeed)

def opening (column : ℕ) (mark : Token) (ms : List ℕ) : List Token :=
  if column < ms.headD 0 then [] else [mark]

def opened (column : ℕ) (ms : List ℕ) : List ℕ :=
  if column < ms.headD 0 then ms else (column + 1) :: ms

theorem headD_opened {column : ℕ} (h : ms.headD 0 ≤ column + 1) :
    (opened column ms).headD 0 = column + 1 := by
  unfold opened
  split
  · omega
  · rfl

theorem opened_of_open {column : ℕ} (mark : Token) (h : ms.headD 0 = column + 1) :
    opening column mark ms = [] ∧ opened column ms = ms := by
  have hlt : column < ms.headD 0 := by omega
  exact ⟨if_pos hlt, if_pos hlt⟩

theorem token_colon {s : Lexer} (hrest : s.rest = p.glyphs (':' :: tail))
    (hflow : s.inFlow = false) (htail : ∀ d ∈ tail.head?, endsWord d) : s.token = s.value := by
  have hglyph : s.glyph = p.glyph ':' := by rw [glyph, hrest, glyph_glyphs]; rfl
  have hword : endsWord (tail.getD 0 endMark) := by
    cases tail with
    | nil => rfl
    | cons d tail => exact htail d rfl
  have hsecond : endsWord (Glyph.charAt s.rest 1) := by rwa [hrest, Spot.charAt_glyphs]
  rw [token, hglyph]
  simp [hrest ▸ isMarker_of_ne, hflow, hsecond, endMark]

theorem next_colon (allowed : Bool) {k : PossibleKey} (ts' : List Token) (hline : k.line = p.line)
    (hnear : p.offset ≤ k.offset + 1024) (hms : ms.headD 0 ≤ p.column + 1)
    (hbefore : k.before = ts.length) (htail : ∀ d ∈ tail.head?, endsWord d) :
    next { rest := p.glyphs (':' :: tail), tokens := ts ++ ts', margins := ms,
           keyAllowed := allowed, key := some k } =
      .ok (standing false (ts ++ (opening k.column .blockMapping ms ++ .key :: ts' ++ [.value]))
        (opened k.column ms) (p.next ':') tail) := by
  have hkey : forgetKey (isStale (p.glyph ':')) (some k) = .ok (some k) := by
    simp [forgetKey, isStale, Spot.glyph, hline, Nat.not_lt.mpr hnear]
  have hbegins : Begins (':' :: tail) := begins_cons.mpr (by decide)
  rw [next, settle_eq (toToken_begins false allowed p hbegins) hkey, leaveBlocks_of_le hms]
  refine (token_colon (s := { standing allowed (ts ++ ts') ms p (':' :: tail) with key := some k })
    rfl rfl htail).trans ?_
  -- the marks go in front of the key's own tokens, where the lexer stood when it noted the key
  have hinsert (t : Token) (ts' : List Token) :
      insert k.before t { standing allowed (ts ++ ts') ms p (':' :: tail) with key := some k } =
        { standing allowed (ts ++ t :: ts') ms p (':' :: tail) with key := some k } := by
    simp [insert, hbefore, standing]
  rw [value]
  dsimp only
  rw [hinsert, openBlock]
  by_cases hopen : k.column < ms.headD 0
  · rw [if_pos (.inr hopen), opening, if_pos hopen, opened, if_pos hopen]
    simp [take, push, standing]
    rfl
  · rw [if_neg (by simpa [inFlow, margin] using hopen), hinsert, opening, if_neg hopen, opened,
      if_neg hopen]
    simp [take, push, standing]
    rfl

theorem simpleKey_reads (ts : List Token) {n : ℕ} (h : Outline.isSimpleKey key) (hp : p.column = n)
    (hms : ms.headD 0 ≤ n + 1) (htail : ∀ d ∈ tail.head?, endsWord d) :
    ∃ q, n < q.column ∧
      Reads (standing true ts ms p (Style.write (n + 2) key ++ ':' :: tail))
        (standing false (ts ++ (opening n .blockMapping ms ++
          [.key, .scalar key (Style.ofText key = .plain), .value])) (opened n ms) q tail) := by
  obtain ⟨hline, hlength⟩ := write_line (n + 2) h
  have hafter := Spot.after_of_not_break (p := p) hline
  have hnext := next_key (p := p) true ts h (show 0 < n + 2 by omega) htail (hp ▸ hms)
  refine ⟨(p.after (Style.write (n + 2) key)).next ':', ?_, ?_⟩
  · rw [Spot.column_next rfl, hafter]
    simp only
    omega
  · refine (reads_behindScalar hnext ?_).trans ?_
    · have hpos := List.length_pos_iff.mpr (write_ne_nil (n + 2) key)
      simp only [List.length_append]
      omega
    · have hcolon := next_colon (p := p.after (Style.write (n + 2) key))
        (k := ⟨ms.headD 0 == p.column + 1, p.line, p.column, p.offset, ts.length⟩) false
        [.scalar key (Style.ofText key = .plain)] (by rw [hafter])
        (by rw [hafter]; exact Nat.add_le_add_left hlength _)
        (show ms.headD 0 ≤ _ by rw [hafter]; simp only; omega) rfl htail
      rw [hp, List.append_assoc (opening _ _ _)] at hcolon
      rw [behindScalar, String.ofList_toList, noted, if_pos rfl, hp]
      exact .of_next hcolon (by simp) (by simp [standing])

theorem take_standing (c : Char) (cs : List Char) (t : Token) :
    (standing allowed ts ms p (c :: cs)).take 1 t =
      standing allowed (ts ++ [t]) ms (p.next c) cs := by
  simp [take, push, standing]

theorem openBlock_standing (column : ℕ) (t : Token) (cs : List Char) :
    (standing allowed ts ms p cs).openBlock column ts.length t =
      standing allowed (ts ++ opening column t ms) (opened column ms) p cs := by
  rw [openBlock, opening, opened]
  by_cases hopen : column < ms.headD 0
  · rw [if_pos (.inr hopen), if_pos hopen, if_pos hopen, List.append_nil]
  · rw [if_neg (by simpa using hopen), if_neg hopen, if_neg hopen]
    simp [insert, standing]

theorem next_explicitKey (ts : List Token) (hms : ms.headD 0 ≤ p.column + 1) (cs : List Char) :
    (standing true ts ms p ('?' :: ' ' :: cs)).next =
      .ok (standing true (ts ++ opening p.column .blockMapping ms ++ [.key]) (opened p.column ms)
        (p.next '?') (' ' :: cs)) := by
  rw [next_standing (begins_cons.mpr (by decide)) hms, token_explicitKey, explicitKey]
  simp only [inFlow_standing, keyAllowed_standing, Bool.not_true, Bool.and_false,
    Bool.false_eq_true, if_false, glyph_standing, tokens_standing, openBlock_standing]
  exact congrArg Except.ok (take_standing '?' (' ' :: cs) .key)

theorem next_entry (ts : List Token) (hms : ms.headD 0 ≤ p.column + 1) (cs : List Char) :
    (standing true ts ms p ('-' :: ' ' :: cs)).next =
      .ok (standing true (ts ++ opening p.column .blockSequence ms ++ [.entry]) (opened p.column ms)
        (p.next '-') (' ' :: cs)) := by
  rw [next_standing (begins_cons.mpr (by decide)) hms, token_entry, entry]
  simp only [inFlow_standing, keyAllowed_standing, Bool.not_true, Bool.and_false,
    Bool.false_eq_true, if_false, glyph_standing, tokens_standing, openBlock_standing]
  exact congrArg Except.ok (take_standing '-' (' ' :: cs) .entry)

theorem next_value (ts : List Token) (hms : ms.headD 0 = p.column + 1)
    (htail : ∀ d ∈ tail.head?, endsWord d) :
    (standing true ts ms p (':' :: tail)).next =
      .ok (standing true (ts ++ [.value]) ms (p.next ':') tail) := by
  obtain ⟨hopening, hopened⟩ := opened_of_open .blockMapping hms
  rw [next_standing (begins_cons.mpr (by decide)) (Nat.le_of_eq hms), token_colon rfl rfl htail,
    value]
  simp only [key_standing, inFlow_standing, keyAllowed_standing, Bool.not_true, Bool.and_false,
    Bool.false_eq_true, if_false, glyph_standing, tokens_standing, openBlock_standing,
    Spot.column_glyph, hopening, hopened, List.append_nil]
  exact congrArg Except.ok (take_standing ':' tail .value)

theorem lineEnd_append (cs : List Char) {ds : List Char} (h : ds ≠ []) :
    lineEnd (cs ++ ds) = lineEnd ds := by
  rw [lineEnd, lineEnd, List.getLast?_append_of_ne_nil _ h]

theorem terminated_eq (cs : List Char) : Outline.terminated cs = cs ++ lineEnd cs := by
  rw [Outline.terminated, lineEnd]
  split <;> simp

theorem explicitKey_reads (ts : List Token) (key : String) {n : ℕ} (hp : p.column = n)
    (hms : ms.headD 0 ≤ n + 1) (htail : ∀ d ∈ tail.head?, endsWord d) :
    ∃ q, q.column = n + 1 ∧
      Reads
        (standing true ts ms p (Outline.terminated ('?' :: ' ' :: Style.write (n + 2) key) ++
          Style.margin n ++ ':' :: tail))
        (standing true (ts ++ (opening n .blockMapping ms ++
          [.key, .scalar key (Style.ofText key = .plain), .value])) (opened n ms) q tail) := by
  have hcolon : Begins (':' :: tail) := begins_cons.mpr (by decide)
  have hhead := headD_opened hms
  have hend : lineEnd ('?' :: ' ' :: Style.write (n + 2) key) = lineEnd (Style.write (n + 2) key) :=
    lineEnd_append ['?', ' '] (write_ne_nil _ _)
  obtain ⟨q, hq, hread⟩ := text_reads (p := (p.next '?').next ' ') true
    (ts ++ opening n .blockMapping ms ++ [.key]) key (Nat.le_refl n) hcolon hhead (by
      rw [Spot.column_next rfl, Spot.column_next rfl]
      omega)
  refine ⟨q.next ':', ?_, ?_⟩
  · rw [Spot.column_next rfl, hq]
  · have hmark := next_explicitKey (p := p) ts (show ms.headD 0 ≤ _ by omega)
      (Style.write (n + 2) key ++ (lineEnd (Style.write (n + 2) key) ++
        (Style.margin n ++ ':' :: tail)))
    have hvalue := next_value (p := q) (ts ++ opening n .blockMapping ms ++ [.key] ++
      [.scalar key (Style.ofText key = .plain)]) (by rw [hhead, hq]) htail
    rw [hp] at hmark
    rw [terminated_eq, hend]
    simp only [List.cons_append, List.append_assoc] at hread hmark hvalue ⊢
    refine (Reads.of_next hmark (by simp) (by simp)).trans ?_
    refine (reads_blank (begins_write _ _ _)).trans (hread.trans ?_)
    exact .of_next hvalue (by simp) (by simp)

end Lexer
end SqlGateway.Yaml
