import SqlGateway.Value.Convert

namespace SqlGateway

abbrev Row := List Value

/-- A column that the database sent in a form that cannot be read fails on its own. -/
abbrev LiveRow := List (Result Value)

def Row.live (row : Row) : LiveRow := row.map .ok

namespace LiveRow

def value (row : LiveRow) (index : Nat) : Result Value :=
  match row[index]? with
  | some cell => cell
  | none => .error (.outOfRange index row.length)

/-- The values in column order, or the failure of the first column that has one. -/
def detach : LiveRow → Result Row
  | [] => .ok []
  | .error e :: _ => .error e
  | .ok v :: cells => (detach cells).map (v :: ·)

theorem detach_live (row : Row) : detach (Row.live row) = .ok row := by
  induction row with
  | nil => rfl
  | cons v row ih =>
    have step : detach (Row.live (v :: row)) = (detach (Row.live row)).map (v :: ·) := rfl
    rw [step, ih]; rfl

end LiveRow

def Row.setValue (row : Row) (index : Nat) (v : Value) : Result Row :=
  if index < row.length then .ok (row.set index v) else .error (.outOfRange index row.length)

end SqlGateway
