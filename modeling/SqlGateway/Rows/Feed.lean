import SqlGateway.Rows.Row

namespace SqlGateway

/-- A source of rows with state `σ` that stands on a row or at the end. -/
structure Feed (σ : Type) where
  hasRow : σ → Bool
  current : σ → Result LiveRow
  advance : σ → Result Bool × σ

inductive Verdict where
  | more
  | enough
  | fail (e : Error)

/-- How a walk ended: no row was left, the visitor had enough, or something failed. -/
inductive Ending where
  | exhausted
  | stopped
  | failed (e : Error)
deriving DecidableEq, Repr, Inhabited

namespace Feed

variable {σ κ : Type}

/-- The next row of a walk. The first one is where the source stands; later ones are behind an
advance. -/
def next (f : Feed σ) (started : Bool) (s : σ) : Result (Option LiveRow) × σ :=
  if started then
    match f.advance s with
    | (.error e, s) => (.error e, s)
    | (.ok false, s) => (.ok none, s)
    | (.ok true, s) => ((f.current s).map some, s)
  else if f.hasRow s then ((f.current s).map some, s)
  else (.ok none, s)

/-- One turn of the loop of a walk: what the next one begins with, or how the walk ended. -/
def turn (f : Feed σ) (visit : κ → LiveRow → Verdict × κ) :
    Bool × κ × σ → (Bool × κ × σ) ⊕ (Ending × κ × σ)
  | (started, k, s) =>
    match f.next started s with
    | (.error e, s) => .inr (.failed e, k, s)
    | (.ok none, s) => .inr (.exhausted, k, s)
    | (.ok (some row), s) =>
      match visit k row with
      | (.more, k) => .inl (true, k, s)
      | (.enough, k) => .inr (.stopped, k, s)
      | (.fail e, k) => .inr (.failed e, k, s)

/-- The loop of a walk. A source that never runs out of rows keeps it going. -/
def walkFrom (f : Feed σ) (visit : κ → LiveRow → Verdict × κ) (started : Bool) (k : κ) (s : σ) :
    Ending × κ × σ :=
  have : Nonempty (Ending × κ × σ) := ⟨.exhausted, k, s⟩
  repeatM (m := Id) (f.turn visit) (started, k, s)

def walk (f : Feed σ) (visit : κ → LiveRow → Verdict × κ) (k : κ) (s : σ) : Ending × κ × σ :=
  walkFrom f visit false k s

/-- Reads at most `limit` rows, and does not look for a row after the last of them. -/
def take (f : Feed σ) (limit : Option Nat) (s : σ) : Ending × List LiveRow × σ :=
  if limit = some 0 then (.stopped, [], s)
  else
    let visit (rows : List LiveRow) (row : LiveRow) :=
      (if limit = some (rows.length + 1) then Verdict.enough else .more, row :: rows)
    let (ending, rows, s) := f.walk visit [] s
    (ending, rows.reverse, s)

/-- Hands each row to the callback as a detached copy and counts the calls. -/
def forEach (f : Feed σ) (callback : κ → Row → Verdict × κ) (k : κ) (s : σ) :
    Result Nat × κ × σ :=
  let visit (k : Nat × κ) (row : LiveRow) : Verdict × Nat × κ :=
    match LiveRow.detach row with
    | .error e => (.fail e, k)
    | .ok row =>
      let (verdict, inner) := callback k.2 row
      (verdict, k.1 + 1, inner)
  match f.walk visit (0, k) s with
  | (.failed e, (_, k), s) => (.error e, k, s)
  | (_, (n, k), s) => (.ok n, k, s)

def collect (f : Feed σ) (s : σ) : Result (List Row) × σ :=
  let keep (rows : List Row) (row : Row) : Verdict × List Row := (.more, row :: rows)
  match f.forEach keep [] s with
  | (.error e, _, s) => (.error e, s)
  | (.ok _, rows, s) => (.ok rows.reverse, s)

end Feed
end SqlGateway
