import SqlGateway.Proofs.Catalog.Routing

namespace SqlGateway.Catalog

open Text (lowerAscii lowerAscii_cases lowerText lowerText_eq)

variable {c : Char} {url low scheme target : String}

/-- The texts that are schemes. -/
inductive Scheme : String → Prop where
  | mk {first : Char} {others : List Char} (hfirst : first.isAlpha)
      (hothers : ∀ c ∈ others, c.isAlphanum ∨ c = '+' ∨ c = '-' ∨ c = '.') :
      Scheme (String.ofList (first :: others))

/-- A scheme as spelled in the URL, and what follows its colon. -/
structure Parts (url scheme target : String) : Prop where
  legal : Scheme scheme
  whole : url = scheme ++ ":" ++ target

theorem isLetter_eq (c : Char) : isLetter c = c.isAlpha := by
  have hupper : (decide ('A' ≤ c) && decide (c ≤ 'Z')) = c.isUpper :=
    (Bool.decide_and _ _).symm
  have hlower : (decide ('a' ≤ c) && decide (c ≤ 'z')) = c.isLower := rfl
  rw [isLetter, hupper, hlower]
  exact Bool.or_comm _ _

theorem isSchemeChar_iff : isSchemeChar c ↔ c.isAlphanum ∨ c = '+' ∨ c = '-' ∨ c = '.' := by
  have hdigit : Text.isDigit c = c.isDigit := rfl
  have halphanum : c.isAlphanum = (c.isAlpha || c.isDigit) := rfl
  simp only [isSchemeChar, isLetter_eq, hdigit, halphanum, Bool.or_eq_true, beq_iff_eq, or_assoc]

theorem isScheme_iff : isScheme scheme.toList ↔ Scheme scheme := by
  constructor
  · intro h
    rw [← String.ofList_toList (s := scheme)]
    cases hscheme : scheme.toList with
    | nil => simp [hscheme, isScheme] at h
    | cons first others =>
      rw [hscheme, isScheme, Bool.and_eq_true, List.all_eq_true, isLetter_eq] at h
      exact .mk h.1 fun c hc ↦ isSchemeChar_iff.mp (h.2 c hc)
  · rintro ⟨hfirst, hothers⟩
    rw [String.toList_ofList, isScheme, Bool.and_eq_true, List.all_eq_true, isLetter_eq]
    exact ⟨hfirst, fun c hc ↦ isSchemeChar_iff.mpr (hothers c hc)⟩

theorem parts_iff : Parts url scheme target ↔ Splits url scheme target :=
  ⟨fun h ↦ ⟨isScheme_iff.mpr h.legal, h.whole⟩, fun h ↦ ⟨isScheme_iff.mp h.1, h.2⟩⟩

theorem isLetter_lowerAscii (c : Char) : isLetter (lowerAscii c) = isLetter c := by
  rcases lowerAscii_cases c with ⟨hlow, -⟩ | ⟨n, hlo, hhi, rfl⟩
  · rw [hlow]
  · interval_cases n <;> rfl

theorem isSchemeChar_lowerAscii (c : Char) : isSchemeChar (lowerAscii c) = isSchemeChar c := by
  rcases lowerAscii_cases c with ⟨hlow, -⟩ | ⟨n, hlo, hhi, rfl⟩
  · rw [hlow]
  · interval_cases n <;> rfl

theorem isScheme_map_lowerAscii (cs : List Char) : isScheme (cs.map lowerAscii) = isScheme cs := by
  cases cs with
  | nil => rfl
  | cons first others =>
    have hfun : isSchemeChar ∘ lowerAscii = isSchemeChar := funext isSchemeChar_lowerAscii
    rw [List.map_cons, isScheme, isScheme, isLetter_lowerAscii, List.all_map, hfun]

theorem lowerAscii_eq_colon : lowerAscii c = ':' ↔ c = ':' := by
  rcases lowerAscii_cases c with ⟨hlow, -⟩ | ⟨n, hlo, hhi, rfl⟩
  · rw [hlow]
  · interval_cases n <;> decide

theorem colon_mem_lowerText : ':' ∈ (lowerText scheme).toList ↔ ':' ∈ scheme.toList := by
  simp [lowerText, lowerAscii_eq_colon]

theorem splitScheme_congr {other : String} (h : ':' ∉ scheme.toList)
    (hcase : lowerText scheme = lowerText other) (target : String) :
    splitScheme (scheme ++ ":" ++ target) = splitScheme (other ++ ":" ++ target) := by
  have hother : ':' ∉ other.toList := by
    rw [← colon_mem_lowerText, ← hcase, colon_mem_lowerText]
    exact h
  have hlegal : isScheme scheme.toList = isScheme other.toList := by
    have hlow := congrArg (isScheme ·.toList) hcase
    simpa only [lowerText, String.toList_ofList, isScheme_map_lowerAscii] using hlow
  rw [splitScheme_append h, splitScheme_append hother, hlegal, hcase]

theorem splitScheme_eq_some_iff :
    splitScheme url = some (low, target) ↔
      ∃ scheme, Parts url scheme target ∧ low = scheme.toLower := by
  constructor
  · intro h
    obtain ⟨scheme, hurl, rfl⟩ := exists_splits h
    exact ⟨scheme, parts_iff.mpr hurl, lowerText_eq scheme⟩
  · rintro ⟨scheme, hurl, rfl⟩
    rw [(parts_iff.mp hurl).splitScheme_eq, lowerText_eq]

theorem Parts.no_colon (h : Parts url scheme target) : ':' ∉ scheme.toList := by
  intro hc
  exact ne_colon_of_isScheme (isScheme_iff.mpr h.legal) ':' hc rfl

theorem Parts.unique {scheme' target' : String} (h : Parts url scheme target)
    (h' : Parts url scheme' target') : scheme' = scheme ∧ target' = target := by
  obtain ⟨htake, hdrop⟩ := takeWhile_append_colon h.no_colon target
  obtain ⟨htake', hdrop'⟩ := takeWhile_append_colon h'.no_colon target'
  rw [← h.whole] at htake hdrop
  rw [← h'.whole] at htake' hdrop'
  exact ⟨String.toList_injective (htake'.symm.trans htake),
    String.toList_injective (List.cons.inj (hdrop'.symm.trans hdrop)).2⟩

/-- A URL is split into the scheme before its first colon, in lower case, and all that follows the
colon, and not at all where no scheme stands there. The parts put together again are split into
themselves, and so is the URL with its scheme in any letter case. -/
theorem scheme_split (url : String) :
    (∀ low target, splitScheme url = some (low, target) ↔
      ∃ scheme, Parts url scheme target ∧ low = scheme.toLower) ∧
    (splitScheme url = none ↔ ∀ scheme target, ¬ Parts url scheme target) ∧
    (∀ scheme target, Parts url scheme target →
      scheme.toList = url.toList.takeWhile (· ≠ ':') ∧
      ∀ scheme' target', Parts url scheme' target' → scheme' = scheme ∧ target' = target) ∧
    (∀ low target, splitScheme url = some (low, target) →
      splitScheme (low ++ ":" ++ target) = some (low, target)) ∧
    (∀ scheme target other, url = scheme ++ ":" ++ target → ':' ∉ scheme.toList →
      other.toLower = scheme.toLower → splitScheme (other ++ ":" ++ target) = splitScheme url) := by
  have hiff (low target : String) : splitScheme url = some (low, target) ↔
      ∃ scheme, Parts url scheme target ∧ low = scheme.toLower := splitScheme_eq_some_iff
  refine ⟨hiff, ?_, ?_, ?_, ?_⟩
  · rw [Option.eq_none_iff_forall_ne_some]
    constructor
    · intro h scheme target hurl
      exact h _ ((hiff _ _).mpr ⟨scheme, hurl, rfl⟩)
    · rintro h ⟨low, target⟩ hsplit
      obtain ⟨scheme, hurl, -⟩ := (hiff _ _).mp hsplit
      exact h scheme target hurl
  · intro scheme target hurl
    obtain ⟨htake, -⟩ := takeWhile_append_colon hurl.no_colon target
    rw [← hurl.whole] at htake
    exact ⟨htake.symm, fun _ _ ↦ hurl.unique⟩
  · intro low target hsplit
    obtain ⟨scheme, hurl, rfl⟩ := (hiff _ _).mp hsplit
    have hlow := splitScheme_congr hurl.no_colon (Text.lowerText_lowerText scheme).symm target
    rw [← hurl.whole, hsplit, lowerText_eq] at hlow
    exact hlow.symm
  · rintro scheme target other rfl hcolon hcase
    rw [← lowerText_eq, ← lowerText_eq] at hcase
    exact (splitScheme_congr hcolon hcase.symm target).symm

theorem scheme_split_mixed :
    let url := "My-SQL+x.1://h:3306"
    Parts url "My-SQL+x.1" "//h:3306" ∧ splitScheme url = some ("my-sql+x.1", "//h:3306") ∧
    (∀ scheme target, Parts url scheme target → scheme = "My-SQL+x.1" ∧ target = "//h:3306") ∧
    splitScheme "my-sql+x.1://h:3306" = some ("my-sql+x.1", "//h:3306") ∧
    splitScheme "mY-sQL+X.1://h:3306" = some ("my-sql+x.1", "//h:3306") := by
  intro url
  obtain ⟨hiff, -, hparts, hback, hcase⟩ := scheme_split url
  have hurl : Parts url "My-SQL+x.1" "//h:3306" := ⟨isScheme_iff.mp (by decide), by decide⟩
  have hlow : "my-sql+x.1" = "My-SQL+x.1".toLower := by
    rw [← lowerText_eq]
    decide
  have hother : "mY-sQL+X.1".toLower = "My-SQL+x.1".toLower := by
    rw [← lowerText_eq, ← lowerText_eq]
    decide
  have hsplit := (hiff "my-sql+x.1" "//h:3306").mpr ⟨_, hurl, hlow⟩
  refine ⟨hurl, hsplit, (hparts _ _ hurl).2, hback _ _ hsplit, ?_⟩
  rw [← hsplit]
  exact hcase _ _ _ hurl.whole hurl.no_colon hother

end SqlGateway.Catalog
