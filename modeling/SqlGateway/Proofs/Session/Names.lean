import SqlGateway.Proofs.Session.Statistics

namespace SqlGateway

namespace Sqlite

/-- A full name. -/
def IsMarked (name : String) : Prop := ∃ c ∈ [':', '@', '$', '?'], name.toList.head? = some c

/-- What the engine promises of the names of parameters, the nameless ones aside: every name is a
full one without NUL, and no two parameters have the same. -/
structure NameTable (names : List (Option String)) : Prop where
  distinct : names.Pairwise fun a b ↦ a = b → a = none
  marked : ∀ {name : String}, some name ∈ names → IsMarked name
  terminated : ∀ {name : String}, some name ∈ names → '\x00' ∉ name.toList

/-- Which parameter a name stands for. Parameters count from one. -/
inductive Resolves (names : List (Option String)) (name : String) : Nat → Prop
  | full {i : Nat} (hmark : IsMarked name) (h : names[i]? = some (some name)) :
      Resolves names name (i + 1)
  | colon {i : Nat} (hbare : ¬ IsMarked name) (h : names[i]? = some (some (":" ++ name))) :
      Resolves names name (i + 1)
  | at {i : Nat} (hbare : ¬ IsMarked name) (hcolon : some (":" ++ name) ∉ names)
      (h : names[i]? = some (some ("@" ++ name))) : Resolves names name (i + 1)
  | dollar {i : Nat} (hbare : ¬ IsMarked name) (hcolon : some (":" ++ name) ∉ names)
      (hat : some ("@" ++ name) ∉ names) (h : names[i]? = some (some ("$" ++ name))) :
      Resolves names name (i + 1)

variable {σ : Type} {E : Engine σ} {t : Statement} {s : σ} {name : String} {index : Nat}

namespace Statement

theorem parameterName?_eq_some_iff : t.parameterName? E index s = some name ↔
    ∃ i, index = i + 1 ∧ (E.parameters t.native s)[i]? = some (some name) := by
  cases index with
  | zero => simp [parameterName?]
  | succ i => simp [parameterName?, Option.join_eq_some_iff]

theorem any_isNul_iff : name.toList.any Engine.isNul ↔ '\x00' ∈ name.toList := by
  have hnul : ∀ c : Char, Engine.isNul c ↔ c = '\x00' := by
    intro c
    rw [Engine.isNul, decide_eq_true_eq, ← Char.toNat_inj]
    rfl
  simp [hnul]

theorem exactIndex?_eq_some_iff (T : NameTable (E.parameters t.native s)) :
    t.exactIndex? E name s = some index ↔
      ∃ i, index = i + 1 ∧ (E.parameters t.native s)[i]? = some (some name) := by
  unfold exactIndex?
  split
  · rename_i hnul
    constructor
    · intro h
      cases h
    · rintro ⟨i, -, hi⟩
      exact absurd (any_isNul_iff.mp hnul) (T.terminated (List.mem_of_getElem? hi))
  · rw [Option.map_eq_some_iff]
    constructor
    · rintro ⟨i, hfound, rfl⟩
      obtain ⟨hlt, hi, -⟩ := List.findIdx?_eq_some_iff_getElem.mp hfound
      exact ⟨i, rfl, by rw [List.getElem?_eq_getElem hlt, of_decide_eq_true hi]⟩
    · rintro ⟨i, rfl, hi⟩
      refine ⟨i, List.findIdx?_eq_some_iff_getElem.mpr ?_, rfl⟩
      obtain ⟨hlt, hget⟩ := List.getElem?_eq_some_iff.mp hi
      refine ⟨hlt, decide_eq_true hget, fun j hj hfirst ↦ ?_⟩
      have hsame := of_decide_eq_true hfirst
      have hnone := List.pairwise_iff_getElem.mp T.distinct j i (hj.trans hlt) hlt hj
        (hsame.trans hget.symm)
      rw [hsame] at hnone
      cases hnone

theorem exactIndex?_eq_none_iff (T : NameTable (E.parameters t.native s)) :
    t.exactIndex? E name s = none ↔ some name ∉ E.parameters t.native s := by
  rw [Option.eq_none_iff_forall_ne_some, List.mem_iff_getElem?]
  constructor
  · rintro h ⟨i, hi⟩
    exact h (i + 1) ((exactIndex?_eq_some_iff T).mpr ⟨i, rfl, hi⟩)
  · intro h index hindex
    obtain ⟨i, -, hi⟩ := (exactIndex?_eq_some_iff T).mp hindex
    exact h ⟨i, hi⟩

theorem findSome?_marks {α : Type} (f : Char → Option α) :
    marks.findSome? f = (f ':').or ((f '@').or (f '$')) := by
  rw [marks, List.findSome?_cons, List.findSome?_cons, List.findSome?_cons, List.findSome?_nil]
  cases f ':' <;> cases f '@' <;> cases f '$' <;> rfl

theorem isMarked_cons {c : Char} {rest : List Char} (hname : name.toList = c :: rest) :
    IsMarked name ↔ c = '?' ∨ c ∈ marks := by
  rw [IsMarked, hname]
  simp only [List.head?_cons, Option.some_inj, marks, List.mem_cons, List.not_mem_nil, or_false]
  grind

theorem parameterIndex?_marked (hmark : IsMarked name) :
    t.parameterIndex? E name s = t.exactIndex? E name s := by
  unfold parameterIndex?
  cases hexact : t.exactIndex? E name s with
  | some index => rfl
  | none =>
    cases hname : name.toList with
    | nil => simp [IsMarked, hname] at hmark
    | cons c rest => exact if_pos ((isMarked_cons hname).mp hmark)

theorem parameterIndex?_bare (hbare : ¬ IsMarked name) (hexact : t.exactIndex? E name s = none) :
    t.parameterIndex? E name s = (t.exactIndex? E (":" ++ name) s).or
      ((t.exactIndex? E ("@" ++ name) s).or (t.exactIndex? E ("$" ++ name) s)) := by
  have hcolon : String.ofList (':' :: name.toList) = ":" ++ name :=
    String.toList_injective (by simp)
  have hat : String.ofList ('@' :: name.toList) = "@" ++ name := String.toList_injective (by simp)
  have hdollar : String.ofList ('$' :: name.toList) = "$" ++ name :=
    String.toList_injective (by simp)
  rw [parameterIndex?, hexact, ← hcolon, ← hat, ← hdollar]
  cases hname : name.toList with
  | nil => exact findSome?_marks _
  | cons c rest =>
    simp only [if_neg fun h ↦ hbare ((isMarked_cons hname).mpr h)]
    exact findSome?_marks _

theorem parameterIndex?_eq_some_iff (T : NameTable (E.parameters t.native s)) :
    t.parameterIndex? E name s = some index ↔ Resolves (E.parameters t.native s) name index := by
  by_cases hmark : IsMarked name
  · rw [parameterIndex?_marked hmark, exactIndex?_eq_some_iff T]
    constructor
    · rintro ⟨i, rfl, hi⟩
      exact .full hmark hi
    · intro h
      cases h with
      | full _ hi => exact ⟨_, rfl, hi⟩
      | colon hbare => exact absurd hmark hbare
      | «at» hbare => exact absurd hmark hbare
      | dollar hbare => exact absurd hmark hbare
  · have hnone : t.exactIndex? E name s = none :=
      (exactIndex?_eq_none_iff T).mpr fun hmem ↦ hmark (T.marked hmem)
    rw [parameterIndex?_bare hmark hnone]
    simp only [Option.or_eq_some_iff, exactIndex?_eq_some_iff T, exactIndex?_eq_none_iff T]
    constructor
    · rintro (⟨i, rfl, hi⟩ | ⟨hcolon, ⟨i, rfl, hi⟩ | ⟨hat, i, rfl, hi⟩⟩)
      · exact .colon hmark hi
      · exact .at hmark hcolon hi
      · exact .dollar hmark hcolon hat hi
    · intro h
      cases h with
      | full h => exact absurd h hmark
      | colon _ hi => exact .inl ⟨_, rfl, hi⟩
      | «at» _ hcolon hi => exact .inr ⟨hcolon, .inl ⟨_, rfl, hi⟩⟩
      | dollar _ hcolon hat hi => exact .inr ⟨hcolon, .inr ⟨hat, _, rfl, hi⟩⟩

end Statement

theorem Resolves.terminated {names : List (Option String)} (T : NameTable names)
    (h : Resolves names name index) : '\x00' ∉ name.toList := by
  have hbehind : ∀ mark : String, some (mark ++ name) ∈ names → '\x00' ∉ name.toList := by
    intro mark hmem hnul
    exact T.terminated hmem (by simp [hnul])
  cases h with
  | full _ h => exact T.terminated (List.mem_of_getElem? h)
  | colon _ h => exact hbehind ":" (List.mem_of_getElem? h)
  | «at» _ _ h => exact hbehind "@" (List.mem_of_getElem? h)
  | dollar _ _ _ h => exact hbehind "$" (List.mem_of_getElem? h)

end Sqlite

namespace Session

variable {σ : Type} {E : Sqlite.Engine σ} {s : Session σ} {id index : Nat} {name : String}
  {t : Sqlite.Statement}

theorem parameterIndex?_embedded (ht : s.statement? id = some (.embedded t)) :
    parameterIndex? E id name s = t.parameterIndex? E name s.engine := by
  rw [parameterIndex?, ht]

theorem parameterName?_embedded (ht : s.statement? id = some (.embedded t)) :
    parameterName? E id index s = t.parameterName? E index s.engine := by
  rw [parameterName?, ht]

/-- A parameter is found by its own name, and binding by name is binding the parameter that the name
stands for. If it stands for none, nothing of the session changes. -/
theorem names_resolved (ht : s.statement? id = some (.embedded t))
    (T : Sqlite.NameTable (E.parameters t.native s.engine)) (name : String) (index : Nat)
    (v : Value) :
    let names := E.parameters t.native s.engine
    (parameterName? E id index s = some name ↔
        ∃ i, index = i + 1 ∧ names[i]? = some (some name)) ∧
      (parameterName? E id index s = some name → parameterIndex? E id name s = some index) ∧
      (parameterIndex? E id name s = some index ↔ Sqlite.Resolves names name index) ∧
      (Sqlite.Resolves names name index → bindNamed E id name v s = bind E id index v s) ∧
      ((∀ i, ¬ Sqlite.Resolves names name i) →
        bindNamed E id name v s =
          (.error (.bind ("unknown parameter name '" ++ name ++ "'")), s)) ∧
      ('\x00' ∈ name.toList → ∀ i, ¬ Sqlite.Resolves names name i) := by
  intro names
  have hresolves : ∀ i, parameterIndex? E id name s = some i ↔ Sqlite.Resolves names name i := by
    intro i
    rw [parameterIndex?_embedded ht]
    exact Sqlite.Statement.parameterIndex?_eq_some_iff T
  have hnamed : parameterName? E id index s = some name ↔
      ∃ i, index = i + 1 ∧ names[i]? = some (some name) := by
    rw [parameterName?_embedded ht]
    exact Sqlite.Statement.parameterName?_eq_some_iff
  refine ⟨hnamed, fun hname ↦ ?_, hresolves index, fun h ↦ ?_, fun hnone ↦ ?_, fun hnul i h ↦ ?_⟩
  · obtain ⟨i, rfl, hi⟩ := hnamed.mp hname
    exact (hresolves _).mpr (.full (T.marked (List.mem_of_getElem? hi)) hi)
  · rw [bindNamed, (hresolves index).mpr h]
  · have hindex : parameterIndex? E id name s = none :=
      Option.eq_none_iff_forall_ne_some.mpr fun i hi ↦ hnone i ((hresolves i).mp hi)
    rw [bindNamed, hindex]
    rfl
  · exact h.terminated T hnul

def marked : String := "SELECT $a, @a, @b, ?, ?7"

def preparedMarks : Result Nat × Session Sql.World := prepare Sql.engine 0 marked (openOn [] 0)

theorem preparedMarks_parameters : ∃ t : Sqlite.Statement,
    preparedMarks.2.statement? 0 = some (.embedded t) ∧
      Sql.engine.parameters t.native preparedMarks.2.engine =
        [some "$a", some "@a", some "@b", none, none, none, some "?7"] := by
  have hok : preparedMarks.1.toOption = some 0 := by decide +kernel
  have hprepare : preparedMarks = (.ok 0, preparedMarks.2) :=
    Prod.ext (Sqlite.eq_ok_of_toOption hok) rfl
  obtain ⟨-, n, rest, hn, ht⟩ := prepare_embedded rfl hprepare
  refine ⟨_, ht, ?_⟩
  have hnative : (Sql.engine.prepare 0 marked.toList (openOn [] 0).engine).1.toOption.map Prod.fst =
      some (some 0) := by decide +kernel
  obtain rfl : n = 0 := by simpa [hn, Except.toOption] using hnative
  decide +kernel

theorem names_resolved_marks :
    parameterIndex? Sql.engine 0 "a" preparedMarks.2 = some 2 ∧
      bindNamed Sql.engine 0 "7" (.int 5) preparedMarks.2 =
        (.error (.bind "unknown parameter name '7'"), preparedMarks.2) := by
  obtain ⟨t, ht, hnames⟩ := preparedMarks_parameters
  have T : Sqlite.NameTable (Sql.engine.parameters t.native preparedMarks.2.engine) := by
    rw [hnames]
    refine ⟨by decide, ?_, ?_⟩
    · simp [Sqlite.IsMarked]
    · simp
  obtain ⟨-, -, hindex, -, -, -⟩ := names_resolved ht T "a" 2 (.int 5)
  obtain ⟨-, -, -, -, hnone, -⟩ := names_resolved ht T "7" 0 (.int 5)
  constructor
  · refine hindex.mpr (.at ?_ ?_ ?_) <;> simp [Sqlite.IsMarked, hnames]
  · refine hnone fun i h ↦ ?_
    rw [hnames] at h
    cases h with
    | full h => exact absurd h (by simp [Sqlite.IsMarked])
    | colon _ h => exact absurd (List.mem_of_getElem? h) (by decide)
    | «at» _ _ h => exact absurd (List.mem_of_getElem? h) (by decide)
    | dollar _ _ _ h => exact absurd (List.mem_of_getElem? h) (by decide)

end Session
end SqlGateway
