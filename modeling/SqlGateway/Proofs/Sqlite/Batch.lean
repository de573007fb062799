import SqlGateway.Sqlite.Engine

namespace SqlGateway

def Stats.followedBy (stats own : Stats) : Stats :=
  ⟨stats.affectedRows + own.affectedRows,
    if own.lastInsertId = 0 then stats.lastInsertId else own.lastInsertId⟩

theorem Stats.followedBy_empty (own : Stats) : ({} : Stats).followedBy own = own := by
  cases own
  simp [followedBy, eq_comm]

namespace Sqlite

variable {σ : Type} {E : Engine σ} {n : Nat} {s s' : σ}

theorem complete_eq (E : Engine σ) (n : Nat) (s : σ) :
    E.complete n s =
      match E.step n s with
      | (.row, s) => E.complete n s
      | ended => ended := by
  have : Nonempty (Outcome × σ) := ⟨.done, s⟩
  have hunfold : E.complete n s =
      repeatM.body (m := Id) (E.stepOn n) (fun s ↦ E.complete n s) s := repeatM_eq_of_monadTail _
  rw [hunfold]
  rcases hstep : E.step n s with ⟨outcome, s'⟩
  cases outcome <;> simp only [repeatM.body, Engine.stepOn, hstep, bind, pure]

/-- A statement that is stepped to its end, with the states that its later steps set out from. -/
inductive Engine.Completes (E : Engine σ) (n : Nat) : σ → List σ → σ → Prop
  | done {s s' : σ} : E.step n s = (.done, s') → Completes E n s [] s'
  | row {s s' s'' : σ} {later : List σ} :
      E.step n s = (.row, s') → Completes E n s' later s'' → Completes E n s (s' :: later) s''

theorem Engine.Completes.complete {later : List σ} (h : E.Completes n s later s') :
    E.complete n s = (.done, s') := by
  induction h with
  | done hstep => rw [complete_eq, hstep]
  | row hstep _ ih =>
    rw [complete_eq, hstep]
    exact ih

structure Ran (σ : Type) where
  native : Nat
  start : σ
  later : List σ
  finish : σ

def Ran.stats (E : Engine σ) (db : Nat) (r : Ran σ) : Stats :=
  E.statsSince (E.counters db r.start) db r.finish

/-- The statements of a text that is carried out to its end. -/
inductive Engine.CarriedOut (E : Engine σ) (db : Nat) : List Char → σ → List (Ran σ) → σ → Prop
  | finished {text : List Char} {s : σ} : text = [] → CarriedOut E db text s [] s
  | nothing {text rest : List Char} {s s' : σ} :
      text ≠ [] → E.prepare db text s = (.ok (none, rest), s') → ¬ rest.length < text.length →
      CarriedOut E db text s [] s'
  | blank {text rest : List Char} {s s' s'' : σ} {runs : List (Ran σ)} :
      E.prepare db text s = (.ok (none, rest), s') → rest.length < text.length →
      CarriedOut E db rest s' runs s'' → CarriedOut E db text s runs s''
  | statement {text rest : List Char} {n : Nat} {s s₁ s₂ s₃ : σ} {later : List σ}
      {runs : List (Ran σ)} :
      E.prepare db text s = (.ok (some n, rest), s₁) → rest.length < text.length →
      E.Completes n s₁ later s₂ → CarriedOut E db rest (E.finalize n s₂) runs s₃ →
      CarriedOut E db text s (⟨n, s₁, later, s₂⟩ :: runs) s₃

theorem eq_ok_of_toOption {ε α : Type} {x : Except ε α} {a : α} (h : x.toOption = some a) :
    x = .ok a := by
  cases x with
  | error e => cases h
  | ok b =>
    cases h
    rfl

theorem Engine.CarriedOut.single {db : Nat} {text : List Char} {later : List σ}
    (hprepare : (E.prepare db text s).1.toOption = some (some n, [])) (htext : text ≠ [])
    (hcomplete : E.Completes n (E.prepare db text s).2 later s') :
    E.CarriedOut db text s [⟨n, (E.prepare db text s).2, later, s'⟩] (E.finalize n s') :=
  .statement (Prod.ext (eq_ok_of_toOption hprepare) rfl) (List.length_pos_iff.mpr htext) hcomplete
    (.finished rfl)

theorem ne_nil_of_length_lt {text rest : List Char} (h : rest.length < text.length) : text ≠ [] :=
  List.ne_nil_of_length_pos (Nat.zero_lt_of_lt h)

/-- A text reports what its statements changed, one after the other. -/
theorem Engine.CarriedOut.executeText {db : Nat} {text : List Char} {runs : List (Ran σ)}
    (h : E.CarriedOut db text s runs s') (stats : Stats) :
    E.executeText db text stats s =
      (.ok (runs.foldl (fun stats r ↦ stats.followedBy (r.stats E db)) stats), s') := by
  induction h generalizing stats with
  | finished htext => simp [Engine.executeText, htext]
  | nothing htext hprepare hrest =>
    rw [Engine.executeText, if_neg htext, hprepare]
    simp [hrest]
  | blank hprepare hrest _ ih =>
    rw [Engine.executeText, if_neg (ne_nil_of_length_lt hrest), hprepare]
    simp only [hrest, if_true]
    exact ih stats
  | statement hprepare hrest hcomplete _ ih =>
    rw [Engine.executeText, if_neg (ne_nil_of_length_lt hrest), hprepare]
    simp only [hrest, if_true, hcomplete.complete, List.foldl_cons]
    exact ih _

theorem Engine.CarriedOut.execute {db : Nat} {sql : String} {runs : List (Ran σ)}
    (h : E.CarriedOut db sql.toList s runs s') (hnul : sql.toList.any Engine.isNul = false) :
    E.execute db sql s =
      (.ok (runs.foldl (fun stats r ↦ stats.followedBy (r.stats E db)) {}), s') := by
  rw [Engine.execute, hnul]
  exact h.executeText {}

end Sqlite
end SqlGateway
