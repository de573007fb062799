import SqlGateway.Proofs.Yaml.Keys

namespace SqlGateway.Yaml

namespace Outline

def textToken (s : String) : Token := .scalar s (Style.ofText s = .plain)

def itemTokens (texts : List String) : List Token :=
  texts.flatMap fun s => [.entry, textToken s]

mutual

/-- The tokens of a value. Items behind a simple key stand at its column, with no marks around
them. -/
def valueTokens (simple : Bool) : Outline → List Token
  | text s => [textToken s]
  | items [] => [.flowSequence, .flowSequenceEnd]
  | items texts =>
    if simple then itemTokens texts else .blockSequence :: itemTokens texts ++ [.blockEnd]
  | fields [] => [.flowMapping, .flowMappingEnd]
  | fields fs => .blockMapping :: fieldTokens fs ++ [.blockEnd]

def fieldTokens : List (String × Outline) → List Token
  | [] => []
  | (key, v) :: rest =>
    .key :: textToken key :: .value :: (v.valueTokens (isSimpleKey key) ++ fieldTokens rest)

end

theorem drop_margin (n : ℕ) (cs : List Char) : (Style.margin n ++ cs).drop n = cs :=
  List.drop_left' List.length_replicate

theorem writeItems_cons (n : ℕ) (s : String) (texts : List String) :
    writeItems n (s :: texts) =
      Style.margin n ++ '-' :: ' ' :: (Style.write (n + 2) s ++ (lineEnd (Style.write (n + 2) s) ++
        writeItems n texts)) := by
  have hend : lineEnd (Style.margin n ++ '-' :: ' ' :: Style.write (n + 2) s) =
      lineEnd (Style.write (n + 2) s) := by
    have hsplit : Style.margin n ++ '-' :: ' ' :: Style.write (n + 2) s =
        (Style.margin n ++ ['-', ' ']) ++ Style.write (n + 2) s := by simp
    rw [hsplit, Lexer.lineEnd_append _ (Lexer.write_ne_nil _ _)]
  rw [writeItems, List.flatMap_cons, Lexer.terminated_eq, hend]
  simp [writeItems]

theorem writeFields_cons (n : ℕ) (key : String) (v : Outline) (fs : List (String × Outline)) :
    writeFields n ((key, v) :: fs) =
      Style.margin n ++
        (writeKey n key ++ (v.writeValue n (isSimpleKey key) ++ writeFields n fs)) := by
  rw [writeFields]
  simp only [List.append_assoc]

theorem begins_writeKey (n : ℕ) (key : String) (tail : List Char) :
    Begins (writeKey n key ++ tail) := by
  rw [writeKey]
  split
  · rw [List.append_assoc]
    exact Lexer.begins_write _ _ _
  · rw [Lexer.terminated_eq]
    exact begins_cons.mpr (by decide)

theorem writeItems_eq (n : ℕ) (s : String) (texts : List String) :
    writeItems n (s :: texts) = Style.margin n ++ (writeItems n (s :: texts)).drop n := by
  rw [writeItems_cons, drop_margin]

theorem writeFields_eq (n : ℕ) {fs : List (String × Outline)} (h : fs ≠ []) :
    writeFields n fs = Style.margin n ++ (writeFields n fs).drop n := by
  obtain ⟨⟨key, v⟩, fs, rfl⟩ := List.exists_cons_of_ne_nil h
  rw [writeFields_cons, drop_margin]

def inward (n : ℕ) (simple : Bool) : List Char :=
  if simple then '\n' :: Style.margin (n + 2) else [' ']

theorem writeValue_items (n : ℕ) (s : String) (texts : List String) :
    (items (s :: texts)).writeValue n true =
        '\n' :: (Style.margin n ++ (writeItems n (s :: texts)).drop n) ∧
      (items (s :: texts)).writeValue n false =
        inward n false ++ (writeItems (n + 2) (s :: texts)).drop (n + 2) := by
  have hne : s :: texts ≠ [] := List.cons_ne_nil _ _
  rw [writeValue, writeValue, ← writeItems_eq]
  · exact ⟨rfl, rfl⟩
  · exact hne
  · exact hne

theorem writeValue_fields (n : ℕ) (simple : Bool) {fs : List (String × Outline)} (h : fs ≠ []) :
    (fields fs).writeValue n simple = inward n simple ++ (writeFields (n + 2) fs).drop (n + 2) := by
  rw [writeValue]
  · cases simple with
    | true => exact congrArg (List.cons '\n') (writeFields_eq (n + 2) h)
    | false => rfl
  · exact h

theorem valueTokens_items (simple : Bool) (s : String) (texts : List String) :
    (items (s :: texts)).valueTokens simple =
      if simple then itemTokens (s :: texts)
      else .blockSequence :: itemTokens (s :: texts) ++ [.blockEnd] := by
  rw [valueTokens]
  exact List.cons_ne_nil _ _

theorem valueTokens_fields (simple : Bool) {fs : List (String × Outline)} (h : fs ≠ []) :
    (fields fs).valueTokens simple = .blockMapping :: fieldTokens fs ++ [.blockEnd] := by
  rw [valueTokens]
  exact h

end Outline

namespace Lexer

variable {allowed : Bool} {ts : List Token} {ms : List ℕ} {p : Spot} {tail : List Char} {n k : ℕ}

theorem reads_newLine {cs : List Char} (h : Begins cs) :
    Reads (standing allowed ts ms p ('\n' :: (Style.margin n ++ cs)))
      (standing true ts ms (p.after ('\n' :: Style.margin n)) cs) :=
  reads_line h fun _ hkey ↦ nomatch hkey

theorem token_flowSequenceEnd {s : Lexer} (hrest : s.rest = p.glyphs (']' :: tail)) :
    s.token = s.flowEnd .flowSequenceEnd := by
  have hglyph : s.glyph = p.glyph ']' := by rw [glyph, hrest, glyph_glyphs]; rfl
  rw [token, hglyph]
  simp [hrest ▸ isMarker_of_ne, endMark]

theorem token_flowMappingEnd {s : Lexer} (hrest : s.rest = p.glyphs ('\x7d' :: tail)) :
    s.token = s.flowEnd .flowMappingEnd := by
  have hglyph : s.glyph = p.glyph '\x7d' := by rw [glyph, hrest, glyph_glyphs]; rfl
  rw [token, hglyph]
  simp [hrest ▸ isMarker_of_ne, endMark]

def inEmpty (allowed : Bool) (ts : List Token) (ms : List ℕ) (p : Spot) (c : Char)
    (cs : List Char) (t : Token) : Lexer :=
  { rest := (p.next c).glyphs cs, tokens := ts ++ [t], margins := ms, keyAllowed := true,
    outer := [noted allowed ts ms p] }

theorem flowStart_standing (c : Char) (cs : List Char) (t : Token) :
    (standing allowed ts ms p (c :: cs)).flowStart t = .ok (inEmpty allowed ts ms p c cs t) := by
  rw [flowStart, noteKey_standing]
  simp only [bind, Except.bind, pure, Except.pure, take, push, rest_standing,
    Spot.drop_one_glyphs]
  rfl

theorem settle_inEmpty {c d : Char} {t : Token} (hc : isBreak c = false)
    (hbegins : Begins (d :: tail)) :
    (inEmpty allowed ts ms p c (d :: tail) t).settle =
      .ok (inEmpty allowed ts ms p c (d :: tail) t) := by
  have hkey : forgetKey (isStale ((p.next c).glyph d)) (noted allowed ts ms p) =
      .ok (noted allowed ts ms p) := by
    cases allowed with
    | false => rfl
    | true => simp [noted, forgetKey, isStale, Spot.glyph, Spot.next, hc]
  rw [settle]
  simp only [inEmpty, inFlow, List.isEmpty_cons, Bool.not_false,
    toToken_begins true true _ hbegins, forgetStale, glyph, glyph_glyphs, List.headD_cons,
    List.mapM_cons, List.mapM_nil, hkey, pure, Except.pure, bind, Except.bind]
  rfl

theorem emptyFlow_reads (allowed : Bool) (ts : List Token) {c d : Char} (t t' : Token)
    (hc : isBreak c = false)
    (hbegins : Begins (c :: d :: '\n' :: (Style.margin k ++ tail)))
    (hbegins' : Begins (d :: '\n' :: (Style.margin k ++ tail)))
    (hopen : (standing allowed ts ms p (c :: d :: '\n' :: (Style.margin k ++ tail))).token =
      (standing allowed ts ms p (c :: d :: '\n' :: (Style.margin k ++ tail))).flowStart t)
    (hclose : ∀ s : Lexer, s.rest = (p.next c).glyphs (d :: '\n' :: (Style.margin k ++ tail)) →
      s.token = s.flowEnd t')
    (ht : t ≠ .finish) (ht' : t' ≠ .finish) (htail : Begins tail) (hms : ms.headD 0 ≤ p.column) :
    ∃ q, q.column = k ∧
      Reads (standing allowed ts ms p (c :: d :: '\n' :: (Style.margin k ++ tail)))
        (standing true (ts ++ [t, t']) ms q tail) := by
  have hd : isBreak d = false := (begins_cons.mp hbegins').2.1
  have hfirst := (next_standing hbegins (by omega)).trans (hopen.trans (flowStart_standing _ _ _))
  have hsecond : (inEmpty allowed ts ms p c (d :: '\n' :: (Style.margin k ++ tail)) t).next =
      .ok { rest := ((p.next c).next d).glyphs ('\n' :: (Style.margin k ++ tail)),
            tokens := ts ++ [t, t'], margins := ms, keyAllowed := false,
            key := noted allowed ts ms p } := by
    rw [next, settle_inEmpty hc hbegins']
    refine (hclose _ rfl).trans ?_
    simp [flowEnd, inEmpty, dropKey, forgetKey, take, push, pure, Except.pure, bind, Except.bind]
  refine ⟨((p.next c).next d).after ('\n' :: Style.margin k), by rw [Spot.after_line], ?_⟩
  refine (Reads.of_next hfirst ?_ ?_).trans ((Reads.of_next hsecond ?_ ?_).trans ?_)
  · simp [inEmpty]
  · simpa [inEmpty] using ht
  · simp [inEmpty]
  · simpa using ht'
  · refine reads_line htail (givenUp_noted (by omega) ?_)
    rw [Spot.after_line]
    simp [Spot.next, hc, hd]

theorem item_reads (ts : List Token) (s : String) (hp : p.column = n) (hms : ms.headD 0 ≤ n + 1)
    (hk : k ≤ n) (htail : Begins tail) :
    ∃ q, q.column = k ∧
      Reads
        (standing true ts ms p ('-' :: ' ' :: (Style.write (n + 2) s ++
          (lineEnd (Style.write (n + 2) s) ++ (Style.margin k ++ tail)))))
        (standing true (ts ++ (opening n .blockSequence ms ++ [.entry, Outline.textToken s]))
          (opened n ms) q tail) := by
  obtain ⟨q, hq, hread⟩ := text_reads (p := (p.next '-').next ' ') true
    (ts ++ opening n .blockSequence ms ++ [.entry]) s hk htail (headD_opened hms) (by
      rw [Spot.column_next rfl, Spot.column_next rfl]
      omega)
  have hmark := next_entry (p := p) ts (show ms.headD 0 ≤ _ by omega)
    (Style.write (n + 2) s ++ (lineEnd (Style.write (n + 2) s) ++ (Style.margin k ++ tail)))
  rw [hp] at hmark
  refine ⟨q, hq, (Reads.of_next hmark (by simp) (by simp)).trans ?_⟩
  refine (reads_blank (begins_write _ _ _)).trans ?_
  simpa only [Outline.textToken, List.append_assoc, List.cons_append, List.nil_append] using hread

theorem items_reads (ts : List Token) (s : String) (texts : List String) (hp : p.column = n)
    (hms : ms.headD 0 ≤ n + 1) (hk : k ≤ n) (htail : Begins tail) :
    ∃ q, q.column = k ∧
      Reads
        (standing true ts ms p
          ((Outline.writeItems n (s :: texts)).drop n ++ (Style.margin k ++ tail)))
        (standing true (ts ++ (opening n .blockSequence ms ++ Outline.itemTokens (s :: texts)))
          (opened n ms) q tail) := by
  induction texts generalizing s ts ms p with
  | nil =>
    rw [Outline.writeItems_cons, Outline.drop_margin]
    simpa [Outline.itemTokens, Outline.writeItems] using item_reads ts s hp hms hk htail
  | cons t texts ih =>
    rw [Outline.writeItems_cons, Outline.drop_margin, Outline.writeItems_cons]
    have hhead := headD_opened hms
    obtain ⟨hopening, hopened⟩ := opened_of_open .blockSequence hhead
    have hstart : Begins ('-' :: ' ' :: (Style.write (n + 2) t ++
        (lineEnd (Style.write (n + 2) t) ++
          (Outline.writeItems n texts ++ (Style.margin k ++ tail))))) :=
      begins_cons.mpr (by decide)
    -- the first item opens the list, in which the others stand
    obtain ⟨between, hbetween, hfirst⟩ := item_reads ts s hp hms (Nat.le_refl n) hstart
    obtain ⟨q, hq, hrest⟩ := ih (ts ++ (opening n .blockSequence ms ++
      [.entry, Outline.textToken s])) t hbetween (Nat.le_of_eq hhead)
    rw [Outline.writeItems_cons, Outline.drop_margin, hopening, hopened] at hrest
    refine ⟨q, hq, ?_⟩
    have hall := Reads.trans hfirst
      (by simpa only [List.append_assoc, List.cons_append] using hrest)
    simpa [Outline.itemTokens] using hall

theorem reads_inward (ts : List Token) (ms : List ℕ) {simple : Bool} {cs : List Char}
    (h : Begins cs) (hexplicit : simple = false → p.column = n + 1) :
    ∃ q, q.column = n + 2 ∧
      Reads (standing (!simple) ts ms p (Outline.inward n simple ++ cs))
        (standing true ts ms q cs) := by
  cases simple with
  | true => exact ⟨_, by rw [Spot.after_line], reads_newLine h⟩
  | false =>
    refine ⟨p.next ' ', ?_, reads_blank h⟩
    rw [Spot.column_next rfl, hexplicit rfl]

theorem reads_outward {mark : Token} {body : List Token} {q : Spot} (hms : ms.headD 0 = n + 1)
    (hq : q.column ≤ n) (h : Begins tail) :
    Reads (standing true (ts ++ (opening (n + 2) mark ms ++ body)) (opened (n + 2) ms) q tail)
      (standing true (ts ++ (mark :: body ++ [.blockEnd])) ms q tail) := by
  have hout : ¬ n + 2 < ms.headD 0 := by omega
  rw [opening, if_neg hout, opened, if_neg hout]
  have hclose := reads_close (p := q) (m := n + 3) true (ts ++ (mark :: body)) ms h (by omega)
  rwa [List.append_assoc] at hclose

theorem text_value (s : String) {simple : Bool} (hp : n < p.column) (hms : ms.headD 0 = n + 1)
    (hk : k ≤ n) (htail : Begins tail) :
    ∃ q, q.column = k ∧
      Reads (standing (!simple) ts ms p
          ((Outline.text s).writeValue n simple ++ (Style.margin k ++ tail)))
        (standing true (ts ++ (Outline.text s).valueTokens simple) ms q tail) := by
  have hend : lineEnd (' ' :: Style.write (n + 2) s) = lineEnd (Style.write (n + 2) s) :=
    lineEnd_append [' '] (write_ne_nil _ _)
  obtain ⟨q, hq, hread⟩ := text_reads (p := p.next ' ') (!simple) ts s hk htail hms (by
    rw [Spot.column_next rfl]
    omega)
  refine ⟨q, hq, ?_⟩
  rw [Outline.writeValue, Outline.valueTokens, terminated_eq, hend, List.append_assoc,
    List.cons_append]
  exact (reads_blank (begins_write _ _ _)).trans hread

theorem items_value (texts : List String) {simple : Bool} (hp : n < p.column)
    (hexplicit : simple = false → p.column = n + 1) (hms : ms.headD 0 = n + 1)
    (hk : k ≤ n) (htail : Begins tail) :
    ∃ q, q.column = k ∧
      Reads (standing (!simple) ts ms p
          ((Outline.items texts).writeValue n simple ++ (Style.margin k ++ tail)))
        (standing true (ts ++ (Outline.items texts).valueTokens simple) ms q tail) := by
  cases texts with
  | nil =>
    have hcolumn : ms.headD 0 ≤ (p.next ' ').column := by
      rw [Spot.column_next rfl]
      omega
    obtain ⟨q, hq, hread⟩ := emptyFlow_reads (k := k) (!simple) ts .flowSequence
      .flowSequenceEnd (by decide) (begins_cons.mpr (by decide))
      (begins_cons.mpr (by decide)) token_flowSequence (fun _ ↦ token_flowSequenceEnd) (by simp)
      (by simp) htail hcolumn
    exact ⟨q, hq, (reads_blank (begins_cons.mpr (by decide))).trans hread⟩
  | cons s texts =>
    have hstart (m : ℕ) : Begins ((Outline.writeItems m (s :: texts)).drop m ++
        (Style.margin k ++ tail)) := by
      rw [Outline.writeItems_cons, Outline.drop_margin]
      exact begins_cons.mpr (by decide)
    rw [Outline.valueTokens_items]
    cases simple with
    | true =>
      obtain ⟨hopening, hopened⟩ := opened_of_open .blockSequence hms
      obtain ⟨q, hq, hread⟩ := items_reads (p := p.after ('\n' :: Style.margin n)) ts s texts
        (by rw [Spot.after_line]) (Nat.le_of_eq hms) hk htail
      rw [hopening, hopened] at hread
      refine ⟨q, hq, ?_⟩
      rw [(Outline.writeValue_items n s texts).1, List.cons_append, List.append_assoc]
      exact (reads_newLine (hstart n)).trans hread
    | false =>
      obtain ⟨r, hr, hin⟩ := reads_inward ts ms (hstart (n + 2)) hexplicit
      obtain ⟨q, hq, hread⟩ := items_reads ts s texts hr (show ms.headD 0 ≤ n + 2 + 1 by omega)
        (show k ≤ n + 2 by omega) htail
      refine ⟨q, hq, ?_⟩
      rw [(Outline.writeValue_items n s texts).2, List.append_assoc]
      exact hin.trans (hread.trans (reads_outward hms (by omega) htail))

theorem emptyFields_value {simple : Bool} (hp : n < p.column) (hms : ms.headD 0 = n + 1)
    (htail : Begins tail) :
    ∃ q, q.column = k ∧
      Reads (standing (!simple) ts ms p
          ((Outline.fields []).writeValue n simple ++ (Style.margin k ++ tail)))
        (standing true (ts ++ (Outline.fields []).valueTokens simple) ms q tail) := by
  have hcolumn : ms.headD 0 ≤ (p.next ' ').column := by
    rw [Spot.column_next rfl]
    omega
  obtain ⟨q, hq, hread⟩ := emptyFlow_reads (k := k) (!simple) ts .flowMapping
    .flowMappingEnd (by decide) (begins_cons.mpr (by decide))
    (begins_cons.mpr (by decide)) token_flowMapping (fun _ ↦ token_flowMappingEnd) (by simp)
    (by simp) htail hcolumn
  refine ⟨q, hq, ?_⟩
  rw [Outline.writeValue, Outline.valueTokens]
  exact (reads_blank (begins_cons.mpr (by decide))).trans hread

theorem key_reads (ts : List Token) (key : String) (hp : p.column = n) (hms : ms.headD 0 ≤ n + 1)
    (htail : ∀ d ∈ tail.head?, endsWord d) :
    ∃ q, n < q.column ∧ (Outline.isSimpleKey key = false → q.column = n + 1) ∧
      Reads (standing true ts ms p (Outline.writeKey n key ++ tail))
        (standing (!Outline.isSimpleKey key) (ts ++ (opening n .blockMapping ms ++
          [.key, Outline.textToken key, .value])) (opened n ms) q tail) := by
  rw [Outline.writeKey]
  cases hsimple : Outline.isSimpleKey key with
  | true =>
    obtain ⟨q, hq, hread⟩ := simpleKey_reads ts hsimple hp hms htail
    refine ⟨q, hq, fun h ↦ (nomatch h), ?_⟩
    rw [if_pos rfl, List.append_assoc]
    exact hread
  | false =>
    obtain ⟨q, hq, hread⟩ := explicitKey_reads ts key hp hms htail
    refine ⟨q, by omega, fun _ ↦ hq, ?_⟩
    rw [if_neg Bool.false_ne_true, List.append_assoc]
    exact hread

theorem endsWord_writeValue (v : Outline) (n : ℕ) (simple : Bool) (tail : List Char) :
    ∀ d ∈ (v.writeValue n simple ++ tail).head?, endsWord d := by
  have hinward (cs : List Char) : ∀ d ∈ (Outline.inward n simple ++ cs).head?, endsWord d := by
    cases simple <;> simp [Outline.inward] <;> decide
  rcases v with s | texts | fs
  · rw [Outline.writeValue, terminated_eq]
    simp; decide
  · rcases texts with - | ⟨s, texts⟩
    · rw [Outline.writeValue]
      simp; decide
    · cases simple with
      | true =>
        rw [(Outline.writeValue_items n s texts).1]
        simp; decide
      | false =>
        rw [(Outline.writeValue_items n s texts).2, List.append_assoc]
        exact hinward _
  · rcases fs with - | ⟨f, fs⟩
    · rw [Outline.writeValue]
      simp; decide
    · rw [Outline.writeValue_fields n simple (List.cons_ne_nil _ _), List.append_assoc]
      exact hinward _

mutual

theorem value_reads (v : Outline) (simple : Bool) (ts : List Token) {ms : List ℕ} {p : Spot}
    {tail : List Char} {n k : ℕ} (hp : n < p.column) (hexplicit : simple = false → p.column = n + 1)
    (hms : ms.headD 0 = n + 1) (hk : k ≤ n) (htail : Begins tail) :
    ∃ q, q.column = k ∧
      Reads (standing (!simple) ts ms p (v.writeValue n simple ++ (Style.margin k ++ tail)))
        (standing true (ts ++ v.valueTokens simple) ms q tail) := by
  match v with
  | .text s => exact text_value s hp hms hk htail
  | .items texts => exact items_value texts hp hexplicit hms hk htail
  | .fields [] => exact emptyFields_value hp hms htail
  | .fields (f :: fs) =>
    have hne : f :: fs ≠ [] := List.cons_ne_nil _ _
    have hstart : Begins ((Outline.writeFields (n + 2) (f :: fs)).drop (n + 2) ++
        (Style.margin k ++ tail)) := by
      rw [Outline.writeFields_cons, Outline.drop_margin, List.append_assoc]
      exact Outline.begins_writeKey _ _ _
    obtain ⟨r, hr, hin⟩ := reads_inward ts ms hstart hexplicit
    obtain ⟨q, hq, hread⟩ := fields_reads (f :: fs) hne ts hr
      (show ms.headD 0 ≤ n + 2 + 1 by omega) (show k ≤ n + 2 by omega) htail
    refine ⟨q, hq, ?_⟩
    rw [Outline.writeValue_fields n simple hne, Outline.valueTokens_fields simple hne,
      List.append_assoc]
    exact hin.trans (hread.trans (reads_outward hms (by omega) htail))

theorem fields_reads (fs : List (String × Outline)) (hfs : fs ≠ []) (ts : List Token) {ms : List ℕ}
    {p : Spot} {tail : List Char} {n k : ℕ} (hp : p.column = n) (hms : ms.headD 0 ≤ n + 1)
    (hk : k ≤ n) (htail : Begins tail) :
    ∃ q, q.column = k ∧
      Reads
        (standing true ts ms p ((Outline.writeFields n fs).drop n ++ (Style.margin k ++ tail)))
        (standing true (ts ++ (opening n .blockMapping ms ++ Outline.fieldTokens fs)) (opened n ms)
          q tail) := by
  match fs with
  | (key, v) :: rest =>
    have hhead := headD_opened hms
    -- the next field stands at the same column; what follows the last one may be further out
    have hfield {k : ℕ} {tail : List Char} (hk : k ≤ n) (htail : Begins tail) : ∃ q, q.column = k ∧
        Reads
          (standing true ts ms p (Outline.writeKey n key ++
            (v.writeValue n (Outline.isSimpleKey key) ++ (Style.margin k ++ tail))))
          (standing true (ts ++ (opening n .blockMapping ms ++
            .key :: Outline.textToken key :: .value :: v.valueTokens (Outline.isSimpleKey key)))
            (opened n ms) q tail) := by
      obtain ⟨r, hr, hexplicit, hkey⟩ := key_reads ts key hp hms
        (endsWord_writeValue v n (Outline.isSimpleKey key) (Style.margin k ++ tail))
      obtain ⟨q, hq, hvalue⟩ := value_reads v (Outline.isSimpleKey key)
        (ts ++ (opening n .blockMapping ms ++ [.key, Outline.textToken key, .value])) hr hexplicit
        hhead hk htail
      refine ⟨q, hq, ?_⟩
      simpa only [List.append_assoc, List.cons_append, List.nil_append] using hkey.trans hvalue
    rw [Outline.writeFields_cons, Outline.drop_margin, Outline.fieldTokens, List.append_assoc,
      List.append_assoc]
    match rest with
    | [] =>
      obtain ⟨q, hq, hread⟩ := hfield hk htail
      refine ⟨q, hq, ?_⟩
      rwa [Outline.writeFields, List.nil_append, Outline.fieldTokens, List.append_nil]
    | next :: rest =>
      have hne : next :: rest ≠ [] := List.cons_ne_nil _ _
      obtain ⟨hopening, hopened⟩ := opened_of_open .blockMapping hhead
      have hstart : Begins ((Outline.writeFields n (next :: rest)).drop n ++
          (Style.margin k ++ tail)) := by
        rw [Outline.writeFields_cons, Outline.drop_margin, List.append_assoc]
        exact Outline.begins_writeKey _ _ _
      obtain ⟨r, hr, hread⟩ := hfield (Nat.le_refl n) hstart
      obtain ⟨q, hq, hrest⟩ := fields_reads (next :: rest) hne
        (ts ++ (opening n .blockMapping ms ++
          .key :: Outline.textToken key :: .value :: v.valueTokens (Outline.isSimpleKey key)))
        hr (Nat.le_of_eq hhead) hk htail
      rw [hopening, hopened] at hrest
      refine ⟨q, hq, ?_⟩
      rw [Outline.writeFields_eq n hne, List.append_assoc]
      simpa only [List.append_assoc, List.cons_append, List.nil_append] using hread.trans hrest

end

end Lexer
end SqlGateway.Yaml
