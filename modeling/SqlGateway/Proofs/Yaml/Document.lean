import SqlGateway.Proofs.Yaml.Decoded
import SqlGateway.Proofs.Yaml.Tree

namespace SqlGateway.Yaml

variable {cs : List Char}

theorem printable_margin (n : ℕ) : ∀ c ∈ Style.margin n, isPrintable c := by
  intro c hc
  rw [List.eq_of_mem_replicate hc]
  rfl

theorem printable_writeSingle (indent : ℕ) (broken : Bool) (h : ∀ c ∈ cs, isPrintable c) :
    ∀ c ∈ Style.writeSingle indent broken cs, isPrintable c := by
  have hindent (broken : Bool) :
      ∀ c ∈ (if broken then Style.margin indent else []), isPrintable c := by
    cases broken with
    | true => exact printable_margin indent
    | false => simp
  induction cs generalizing broken with
  | nil => exact List.forall_mem_append.mpr ⟨hindent broken, List.forall_mem_singleton.mpr rfl⟩
  | cons d cs ih =>
    obtain ⟨hd, hrest⟩ := List.forall_mem_cons.mp h
    rw [Style.writeSingle]
    split
    · exact List.forall_mem_cons.mpr ⟨hd, ih true hrest⟩
    · refine List.forall_mem_append.mpr ⟨List.forall_mem_append.mpr ⟨hindent broken, ?_⟩,
        ih false hrest⟩
      split
      · exact List.forall_mem_cons.mpr ⟨rfl, List.forall_mem_singleton.mpr rfl⟩
      · exact List.forall_mem_singleton.mpr hd

theorem printable_writeLines (indent : ℕ) (broken : Bool) (h : ∀ c ∈ cs, isPrintable c) :
    ∀ c ∈ Style.writeLines indent broken cs, isPrintable c := by
  induction cs generalizing broken with
  | nil => exact fun c hc ↦ absurd hc List.not_mem_nil
  | cons d cs ih =>
    obtain ⟨hd, hrest⟩ := List.forall_mem_cons.mp h
    rw [Style.writeLines]
    split
    · exact List.forall_mem_cons.mpr ⟨hd, ih true hrest⟩
    · refine List.forall_mem_append.mpr ⟨?_, List.forall_mem_cons.mpr ⟨hd, ih false hrest⟩⟩
      cases broken with
      | true => exact printable_margin indent
      | false => simp

theorem printable_header (cs : List Char) : ∀ c ∈ Style.header cs, isPrintable c := by
  have hwidth : ∀ c ∈ widthMark cs, isPrintable c := by
    rw [widthMark]
    split
    · exact List.forall_mem_singleton.mpr rfl
    · exact fun c hc ↦ absurd hc List.not_mem_nil
  have hhint : ∀ c ∈ hintMark (hint cs), isPrintable c := by
    cases hint cs with
    | strip => exact List.forall_mem_singleton.mpr rfl
    | clip => exact fun c hc ↦ absurd hc List.not_mem_nil
    | keep => exact List.forall_mem_singleton.mpr rfl
  rw [header_eq]
  exact List.forall_mem_cons.mpr ⟨rfl, List.forall_mem_append.mpr ⟨hwidth, hhint⟩⟩

theorem printable_write (indent : ℕ) (s : String) : ∀ c ∈ Style.write indent s, isPrintable c := by
  rw [Style.write]
  cases hstyle : Style.ofText s with
  | plain => exact fun c hc ↦ ((Style.plainText hstyle).printable c hc).1
  | single =>
    obtain ⟨hallowed, -⟩ := Style.of_single hstyle
    simp only [Style.singleAllowed, Bool.and_eq_true, Bool.not_eq_true'] at hallowed
    have hall := Style.printable_of_isEscaped hallowed.1.1
    exact List.forall_mem_cons.mpr ⟨rfl, printable_writeSingle indent false hall⟩
  | double =>
    refine List.forall_mem_append.mpr ⟨List.forall_mem_cons.mpr ⟨rfl, fun d hd ↦ ?_⟩,
      List.forall_mem_singleton.mpr rfl⟩
    obtain ⟨c, -, hc⟩ := List.mem_flatMap.mp hd
    exact (escapedAs c).printable d hc
  | literal =>
    obtain ⟨hallowed, -⟩ := Style.of_literal hstyle
    simp only [Style.literalAllowed, Bool.and_eq_true, Bool.not_eq_true'] at hallowed
    have hall := Style.printable_of_isEscaped hallowed.1.1
    exact List.forall_mem_append.mpr ⟨printable_header _,
      List.forall_mem_cons.mpr ⟨rfl, printable_writeLines indent true hall⟩⟩

namespace Outline

theorem printable_terminated (h : ∀ c ∈ cs, isPrintable c) :
    ∀ c ∈ terminated cs, isPrintable c := by
  rw [terminated]
  split
  · exact h
  · exact List.forall_mem_append.mpr ⟨h, List.forall_mem_singleton.mpr rfl⟩

theorem printable_writeKey (n : ℕ) (key : String) : ∀ c ∈ writeKey n key, isPrintable c := by
  have hwritten := printable_write (n + 2) key
  rw [writeKey]
  split
  · exact List.forall_mem_append.mpr ⟨hwritten, List.forall_mem_singleton.mpr rfl⟩
  · refine List.forall_mem_append.mpr ⟨List.forall_mem_append.mpr ⟨printable_terminated ?_,
      printable_margin n⟩, List.forall_mem_singleton.mpr rfl⟩
    exact List.forall_mem_cons.mpr ⟨rfl, List.forall_mem_cons.mpr ⟨rfl, hwritten⟩⟩

theorem printable_writeItems (n : ℕ) (texts : List String) :
    ∀ c ∈ writeItems n texts, isPrintable c := by
  intro c hc
  obtain ⟨s, -, hs⟩ := List.mem_flatMap.mp hc
  refine printable_terminated ?_ c hs
  exact List.forall_mem_append.mpr ⟨printable_margin n, List.forall_mem_cons.mpr ⟨rfl,
    List.forall_mem_cons.mpr ⟨rfl, printable_write (n + 2) s⟩⟩⟩

mutual

theorem printable_writeValue (v : Outline) (n : ℕ) (simple : Bool) :
    ∀ c ∈ v.writeValue n simple, isPrintable c := by
  match v with
  | text s =>
    rw [writeValue]
    exact printable_terminated (List.forall_mem_cons.mpr ⟨rfl, printable_write (n + 2) s⟩)
  | items [] =>
    rw [writeValue]
    simp only [List.forall_mem_cons]
    exact ⟨rfl, rfl, rfl, rfl, fun c hc ↦ absurd hc List.not_mem_nil⟩
  | items (s :: texts) =>
    rw [writeValue]
    · split
      · exact List.forall_mem_cons.mpr ⟨rfl, printable_writeItems n (s :: texts)⟩
      · exact List.forall_mem_cons.mpr ⟨rfl, fun c hc ↦
          printable_writeItems (n + 2) (s :: texts) c (List.mem_of_mem_drop hc)⟩
    · exact List.cons_ne_nil _ _
  | fields [] =>
    rw [writeValue]
    simp only [List.forall_mem_cons]
    exact ⟨rfl, rfl, rfl, rfl, fun c hc ↦ absurd hc List.not_mem_nil⟩
  | fields (f :: fs) =>
    rw [writeValue]
    · split
      · exact List.forall_mem_cons.mpr ⟨rfl, printable_writeFields (f :: fs) (n + 2)⟩
      · exact List.forall_mem_cons.mpr ⟨rfl, fun c hc ↦
          printable_writeFields (f :: fs) (n + 2) c (List.mem_of_mem_drop hc)⟩
    · exact List.cons_ne_nil _ _

theorem printable_writeFields (fs : List (String × Outline)) (n : ℕ) :
    ∀ c ∈ writeFields n fs, isPrintable c := by
  match fs with
  | [] => exact fun c hc ↦ by rw [writeFields] at hc; cases hc
  | (key, v) :: fs =>
    rw [writeFields]
    exact List.forall_mem_append.mpr ⟨List.forall_mem_append.mpr ⟨List.forall_mem_append.mpr
      ⟨printable_margin n, printable_writeKey n key⟩, printable_writeValue v n _⟩,
      printable_writeFields fs n⟩

end
end Outline

theorem isReadable_of_printable {c : Char} (h : isPrintable c) : isReadable c := by
  simp only [isPrintable, Bool.or_eq_true, beq_iff_eq, Bool.and_eq_true, decide_eq_true_eq] at h
  simp only [isReadable, Bool.or_eq_true, beq_iff_eq, Bool.and_eq_true, decide_eq_true_eq]
  rcases h with (rfl | h) | ⟨h, -⟩
  · simp
  · simp [h]
  · simp [h]

theorem unifyBreaks_of_printable (h : ∀ c ∈ cs, isPrintable c) : Glyph.unifyBreaks cs = cs := by
  induction cs with
  | nil => rfl
  | cons c cs ih =>
    obtain ⟨hc, hrest⟩ := List.forall_mem_cons.mp h
    have hreturn : c ≠ '\r' := ne_of_class hc rfl
    have hnext : c ≠ '\x85' := ne_of_class hc rfl
    rw [Glyph.unifyBreaks, ih hrest]
    · simp [hreturn, hnext]
    · rintro _ rfl
      exact absurd rfl hreturn

theorem glyphs_ofText {s : String} (h : ∀ c ∈ s.toList, isPrintable c) :
    Glyph.ofText s = .ok (Spot.glyphs ⟨0, 0, 0⟩ s.toList) := by
  have hreadable : s.toList.find? (fun c => !isReadable c) = none := by
    rw [List.find?_eq_none]
    intro c hc
    simp [isReadable_of_printable (h c hc)]
  rw [Glyph.ofText, hreadable, unifyBreaks_of_printable h]
  cases hs : s.toList with
  | nil => rfl
  | cons c cs =>
    have hmark : c ≠ '\ufeff' := ne_of_class (h c (by simp [hs])) rfl
    have hplace : Glyph.place 0 0 0 (c :: cs) = _ := Spot.glyphs_cons ⟨0, 0, 0⟩ c cs
    rw [hplace, Spot.glyphs_cons]
    simp [hmark]

namespace Lexer

theorem run_finish {fuel : ℕ} (ts : List Token) (p : Spot) (hfuel : 0 < fuel) :
    run fuel (standing true ts [1] p []) = .ok (ts ++ [.blockEnd, .finish]) := by
  obtain ⟨fuel, rfl⟩ : ∃ n, fuel = n + 1 := ⟨fuel - 1, by omega⟩
  have hbegins : Begins [] := fun _ hc ↦ (nomatch hc)
  have hnext : (standing true ts [1] p []).next = .ok
      { standing false (ts ++ [.blockEnd, .finish]) [] p [] with keyAllowed := false } := by
    rw [next_standing hbegins (by simp), token]
    simp only [glyph_standing, List.headD_nil, Spot.char_glyph, if_true]
    simp [finish, closeBlocks, standing, inFlow, dropKey, forgetKey, push, pure, Except.pure, bind,
      Except.bind]
  rw [run, hnext]
  exact if_pos (by simp [standing])

end Lexer

theorem tokens_document {fs : List (String × Outline)} (hfs : fs ≠ []) :
    Token.ofText (Outline.document fs) =
      .ok (.blockMapping :: Outline.fieldTokens fs ++ [.blockEnd, .finish]) := by
  have hchars : (Outline.document fs).toList = Outline.writeFields 0 fs := String.toList_ofList
  have hglyphs := glyphs_ofText (s := Outline.document fs) (by
    rw [hchars]
    exact Outline.printable_writeFields fs 0)
  rw [hchars] at hglyphs
  obtain ⟨q, hq, hreads⟩ := Lexer.fields_reads (p := ⟨0, 0, 0⟩) fs hfs [] rfl
    (show ([] : List ℕ).headD 0 ≤ 0 + 1 from Nat.zero_le _) (Nat.le_refl 0)
    (show Begins [] from fun _ hc ↦ (nomatch hc))
  obtain ⟨fuel, hfuel, hrun⟩ := hreads
    ((Spot.glyphs ⟨0, 0, 0⟩ (Outline.writeFields 0 fs)).length + 1) (by simp [Style.margin])
  rw [List.drop_zero, Style.margin, List.replicate_zero, List.append_nil, List.append_nil] at hrun
  rw [Token.ofText, hglyphs]
  refine hrun.trans ?_
  exact Lexer.run_finish (.blockMapping :: Outline.fieldTokens fs) q
    (Nat.lt_of_lt_of_le (by simp) hfuel)

/-- A written document is one document, and its tree is the one that it was written for. -/
theorem node_document {fs : List (String × Outline)} (hfs : fs ≠ []) :
    Node.ofText (Outline.document fs) = .ok (Outline.fields fs).node := by
  have hfields := Reader.blockFields_eq fs [.finish]
    (show _ ≤ 3 * (Outline.fieldTokens fs).length + 11 by omega)
  have hroot : Reader.document (3 * (Outline.fieldTokens fs).length + 12)
      { tokens := .blockMapping :: Outline.fieldTokens fs ++ [.blockEnd, .finish] } =
        .ok ((Outline.fields fs).node, { tokens := [.finish] }) := by
    rw [Reader.document]
    refine (Reader.bind_of_ok (a := .blockMapping) rfl).trans ?_
    refine (Reader.bind_of_ok ((Reader.node_blockMapping false _).trans
      (Reader.bind_of_ok hfields))).trans ?_
    rfl
  have hfuel : 3 * (Token.blockMapping :: Outline.fieldTokens fs ++
      [Token.blockEnd, Token.finish]).length + 3 =
      3 * (Outline.fieldTokens fs).length + 12 := by
    simp only [List.length_append, List.length_cons, List.length_nil]
    omega
  rw [Node.ofText, tokens_document hfs]
  simp only [bind, Except.bind, hfuel, hroot]
  rfl

theorem isText_textNode (s : String) : IsText s (Outline.textNode s) := by
  rw [Outline.textNode]
  cases hstyle : decide (Style.ofText s = .plain) with
  | false => exact .quoted
  | true =>
    obtain ⟨-, hambiguous⟩ := Style.of_plain (of_decide_eq_true hstyle)
    simp only [Resolution.isAmbiguous, Bool.or_eq_false_iff] at hambiguous
    have hnull : (s.isEmpty || Decoder.isNullWord s) = false := hambiguous.1.1.1.1
    rw [Bool.or_eq_false_iff] at hnull
    exact .plain (by simpa using hnull.1) hnull.2

mutual

theorem shows_node (v : Outline) : Shows v v.node := by
  cases v with
  | text s =>
    rw [Outline.node]
    exact .text (isText_textNode s)
  | items texts =>
    rw [Outline.node]
    exact .items (List.forall₂_map_right_iff.mpr (List.forall₂_same.mpr fun s _ ↦
      isText_textNode s))
  | fields fs =>
    rw [Outline.node]
    exact shows_fieldNodes fs

theorem shows_fieldNodes (fs : List (String × Outline)) :
    Shows (.fields fs) (.mapping {} (Outline.fieldNodes fs)) := by
  cases fs with
  | nil => exact .nothing
  | cons f fs =>
    obtain ⟨key, v⟩ := f
    rw [Outline.fieldNodes]
    exact .field (isText_textNode key) (shows_node v) (shows_fieldNodes fs)

end

theorem Codec.libyaml_lawful : libyaml.Lawful := by
  have hread : ∀ fs, fs ≠ [] →
      libyaml.read (libyaml.write fs) = .ok ⟨(Outline.fields fs).node⟩ := by
    intro fs hfs
    simp only [libyaml, Document.ofText, node_document hfs]
    rfl
  refine ⟨fun fs hfs ↦ ⟨_, hread fs hfs⟩, fun fs d hfs hd ↦ ?_⟩
  rw [hread fs hfs] at hd
  cases hd
  exact shows_node (.fields fs)

end SqlGateway.Yaml
