import SqlGateway.Proofs.Rows.Sources
import SqlGateway.Proofs.Session.History
import SqlGateway.Proofs.Session.Reading

namespace SqlGateway.Session

variable {σ : Type} {E : Sqlite.Engine σ} {s s₁ : Session σ} {t c : Nat} {g : UInt64}

def ticket? (s : Session σ) (id : Nat) : Option (Nat × UInt64) := (s.cursor? id).bind Cursor.ticket?

/-- A cursor of a statement whose turn it is. -/
def IsCurrent (s : Session σ) (id : Nat) : Prop := ∃ t, s.ticket? id = some (t, s.generation t)

theorem ticket?_eq (s : Session σ) (id : Nat) : s.ticket? id = (s.labels[id]?).bind (·.1) := by
  rw [getElem?_labels, ticket?]
  cases s.cursor? id <;> rfl

theorem isCurrent_iff (h : s.ticket? c = some (t, g)) : s.IsCurrent c ↔ g = s.generation t := by
  constructor
  · rintro ⟨t', h'⟩
    rw [h] at h'
    cases h'
    rfl
  · rintro rfl
    exact ⟨t, h⟩

theorem lost_cases (h : s.ticket? c = some (t, g)) (hg : g ≠ s.generation t) :
    (∃ f, s.cursor? c = some (.fetched t f) ∧ f.isCurrent (s.generation t) = false) ∨
    (∃ f n, s.cursor? c = some (.stepping t f) ∧ s.statement? t = some (.embedded n) ∧
      f.isCurrent n = false) ∨
    ∃ f, s.cursor? c = some (.stepping t f) ∧ ∀ n, s.statement? t ≠ some (.embedded n) := by
  obtain ⟨cursor, hc, hticket⟩ := Option.bind_eq_some_iff.mp h
  cases cursor with
  | fetched t' f =>
    cases hticket
    exact .inl ⟨f, hc, by simpa [Fetched.isCurrent] using hg⟩
  | stepping t' f =>
    cases hticket
    by_cases hn : ∃ n, s.statement? t = some (.embedded n)
    · obtain ⟨n, hn⟩ := hn
      refine .inr (.inl ⟨f, n, hc, hn, ?_⟩)
      simpa [Sqlite.Cursor.isCurrent, generation, hn, Statement.generation] using hg
    · exact .inr (.inr ⟨f, hc, fun n h ↦ hn ⟨n, h⟩⟩)
  | buffered b => cases hticket
  | faulty f => cases hticket

theorem hasRow_of_lost (h : s.ticket? c = some (t, g)) (hg : g ≠ s.generation t) :
    hasRow c s = false := by
  rcases lost_cases h hg with ⟨f, hc, hf⟩ | ⟨f, n, hc, hn, hf⟩ | ⟨f, hc, hn⟩
  · simp [hasRow, hc, Fetched.hasRow_stale hf]
  · simp [hasRow, hc, hn, Sqlite.Cursor.hasRow_stale hf]
  · simp only [hasRow, hc]

theorem position_of_lost (h : s.ticket? c = some (t, g)) (hg : g ≠ s.generation t) :
    position c s = .atEnd := by simp [position, hasRow_of_lost h hg]

theorem current_of_lost (h : s.ticket? c = some (t, g)) (hg : g ≠ s.generation t) :
    current E c s = .error .invalidIterator := by
  rcases lost_cases h hg with ⟨f, hc, hf⟩ | ⟨f, n, hc, hn, hf⟩ | ⟨f, hc, hn⟩
  · simp [current, hc, Fetched.current_stale hf]
  · simp [current, hc, hn, Sqlite.Cursor.current_stale hf]
  · simp only [current, hc]

theorem advance_of_lost (h : s.ticket? c = some (t, g)) (hg : g ≠ s.generation t) :
    advance E c s = (.error .invalidIterator, s) := by
  rcases lost_cases h hg with ⟨f, hc, hf⟩ | ⟨f, n, hc, hn, hf⟩ | ⟨f, hc, hn⟩
  · rw [advance_fetched hc, Fetched.advance_stale hf, setCursor_self hc]
  · rw [advance_stepping hc hn, Sqlite.Cursor.advance_stale hf, setStatement_self hn]
    exact congrArg (Prod.mk _) (setCursor_self hc)
  · simp only [advance, hc]

theorem getElem?_labels_performAll (hc : c < s.labels.length) (ops : List (Operation σ)) :
    (performAll E s ops).labels[c]? = s.labels[c]? := by
  obtain ⟨new, hnew⟩ := labels_performAll (E := E) s ops
  rw [← hnew, List.getElem?_append_left hc]

theorem lt_length_labels (h : s.ticket? c = some (t, g)) : c < s.labels.length := by
  rw [ticket?_eq] at h
  obtain ⟨label, hlabel, -⟩ := Option.bind_eq_some_iff.mp h
  exact (List.getElem?_eq_some_iff.mp hlabel).1

theorem ticket?_performAll (h : s.ticket? c = some (t, g)) (ops : List (Operation σ)) :
    (performAll E s ops).ticket? c = some (t, g) := by
  rw [ticket?_eq, getElem?_labels_performAll (lt_length_labels h), ← ticket?_eq, h]

theorem ticket?_run (h : run E t s = (.ok c, s₁)) :
    s₁.ticket? c = some (t, s₁.generation t) := by
  rcases run_cases (E := E) t s with ⟨e, hr, -⟩ | ⟨cursor, hr, hcursors, hticket⟩
  · rw [h] at hr
    cases hr
  · rw [h] at hr hcursors hticket
    simp only at hr hcursors hticket
    cases hr
    simpa [ticket?, cursor?, hcursors] using hticket

/-- The generation of a statement that has moved on by `n` is a later one, unless it went once round
all generations. -/
theorem add_ofNat_eq_self_iff (g : UInt64) (n : Nat) :
    g + UInt64.ofNat n = g ↔ n % UInt64.size = 0 := by
  rw [UInt64.add_eq_left, ← UInt64.toNat_inj]
  simp

theorem isCurrent_performAll_iff (h : run E t s = (.ok c, s₁)) (ops : List (Operation σ)) :
    (performAll E s₁ ops).IsCurrent c ↔ touches E t s₁ ops % UInt64.size = 0 := by
  rw [isCurrent_iff (ticket?_performAll (ticket?_run h) ops), generation_performAll, eq_comm,
    add_ofNat_eq_self_iff]

end SqlGateway.Session
