import Mathlib.Data.List.Basic
import SqlGateway.Yaml.Glyph
import SqlGateway.Yaml.Style

namespace SqlGateway.Yaml

theorem isBlank_eq_false_iff {c : Char} : isBlank c = false ↔ c ≠ ' ' ∧ c ≠ '\t' := by
  simp [isBlank]

theorem ne_of_class {f : Char → Bool} {c d : Char} (hc : f c) (hd : f d = false) : c ≠ d := by
  rintro rfl
  exact Bool.false_ne_true (hd.symm.trans hc)

theorem Style.margin_succ (n : ℕ) : Style.margin (n + 1) = ' ' :: Style.margin n :=
  List.replicate_succ

structure Spot where
  line : ℕ
  column : ℕ
  offset : ℕ

namespace Spot

def glyph (p : Spot) (c : Char) : Glyph := ⟨c, p.line, p.column, p.offset⟩

def next (p : Spot) (c : Char) : Spot :=
  if isBreak c then ⟨p.line + 1, 0, p.offset + 1⟩ else ⟨p.line, p.column + 1, p.offset + 1⟩

def after (p : Spot) (cs : List Char) : Spot := cs.foldl next p

def glyphs (p : Spot) (cs : List Char) : List Glyph := Glyph.place p.line p.column p.offset cs

@[simp]
theorem char_glyph (p : Spot) (c : Char) : (p.glyph c).char = c := rfl

@[simp]
theorem column_glyph (p : Spot) (c : Char) : (p.glyph c).column = p.column := rfl

@[simp]
theorem after_nil (p : Spot) : p.after [] = p := rfl

@[simp]
theorem after_cons (p : Spot) (c : Char) (cs : List Char) :
    p.after (c :: cs) = (p.next c).after cs := rfl

@[simp]
theorem after_append (p : Spot) (cs ds : List Char) : p.after (cs ++ ds) = (p.after cs).after ds :=
  List.foldl_append

@[simp]
theorem glyphs_nil (p : Spot) : p.glyphs [] = [p.glyph endMark] := rfl

theorem glyphs_cons (p : Spot) (c : Char) (cs : List Char) :
    p.glyphs (c :: cs) = p.glyph c :: (p.next c).glyphs cs := by
  rw [glyphs, Glyph.place]
  by_cases hc : isBreak c <;> simp [hc, next, glyphs, glyph]

@[simp]
theorem length_glyphs (p : Spot) (cs : List Char) : (p.glyphs cs).length = cs.length + 1 := by
  induction cs generalizing p with
  | nil => rfl
  | cons c cs ih => rw [glyphs_cons, List.length_cons, ih, List.length_cons]

@[simp]
theorem tail_glyphs (p : Spot) (c : Char) (cs : List Char) :
    (p.glyphs (c :: cs)).tail = (p.next c).glyphs cs := by
  rw [glyphs_cons, List.tail_cons]

theorem drop_one_glyphs (p : Spot) (c : Char) (cs : List Char) :
    (p.glyphs (c :: cs)).drop 1 = (p.next c).glyphs cs := by
  rw [List.drop_one, tail_glyphs]

theorem charAt_glyphs (p : Spot) (cs : List Char) (n : ℕ) :
    Glyph.charAt (p.glyphs cs) n = cs.getD n endMark := by
  induction cs generalizing p n with
  | nil => cases n <;> rfl
  | cons c cs ih =>
    rw [glyphs_cons]
    cases n with
    | zero => rfl
    | succ n => exact ih (p.next c) n

theorem column_next {p : Spot} {c : Char} (hc : isBreak c = false) :
    (p.next c).column = p.column + 1 := by
  simp [next, hc]

theorem column_next_pos {p : Spot} {c : Char} (hc : isBreak c = false) : 0 < (p.next c).column := by
  simp [next, hc]

theorem after_of_not_break {p : Spot} {cs : List Char} (h : ∀ c ∈ cs, isBreak c = false) :
    p.after cs = ⟨p.line, p.column + cs.length, p.offset + cs.length⟩ := by
  induction cs generalizing p with
  | nil => rfl
  | cons c cs ih =>
    rw [after_cons, ih fun d hd ↦ h d (List.mem_cons_of_mem _ hd)]
    simp only [next, h c List.mem_cons_self, Bool.false_eq_true, if_false, List.length_cons]
    congr 1 <;> omega

theorem line_le_after (p : Spot) (cs : List Char) : p.line ≤ (p.after cs).line := by
  induction cs generalizing p with
  | nil => exact Nat.le_refl _
  | cons c cs ih =>
    refine Nat.le_trans ?_ (ih (p.next c))
    rw [next]
    split
    · exact Nat.le_succ _
    · exact Nat.le_refl _

theorem after_margin (p : Spot) (n : ℕ) :
    p.after (Style.margin n) = ⟨p.line, p.column + n, p.offset + n⟩ := by
  rw [after_of_not_break, Style.margin, List.length_replicate]
  intro c hc
  rw [List.eq_of_mem_replicate hc]
  rfl

theorem after_line (p : Spot) (n : ℕ) :
    p.after ('\n' :: Style.margin n) = ⟨p.line + 1, n, p.offset + 1 + n⟩ := by
  rw [after_cons, after_margin, next, if_pos (by decide)]
  simp only [Nat.zero_add]

end Spot

theorem isDocumentMarker_glyph {p : Spot} (c : Char) (rest : List Glyph) (hp : 0 < p.column) :
    Glyph.isDocumentMarker (p.glyph c :: rest) = false := by
  simp [Glyph.isDocumentMarker, Glyph.isMarker, Nat.ne_of_gt hp]

/-- What a token or the end of the text starts with, in contrast to what stands between tokens. -/
def Begins (cs : List Char) : Prop :=
  ∀ c ∈ cs.head?, isBlank c = false ∧ isBreak c = false ∧ c ≠ '#'

theorem begins_cons {c : Char} {cs : List Char} :
    Begins (c :: cs) ↔ isBlank c = false ∧ isBreak c = false ∧ c ≠ '#' := by
  simp [Begins]

theorem Style.adjacent_cons_iff {f g : Char → Bool} {c : Char} {cs : List Char} :
    adjacent f g (c :: cs) = false ↔
      (f c → ∀ d ∈ cs.head?, g d = false) ∧ adjacent f g cs = false := by
  cases cs with
  | nil => simp [adjacent]
  | cons d cs => simp [adjacent]

end SqlGateway.Yaml
