import SqlGateway.Error
import SqlGateway.Value.Basic

namespace SqlGateway

/-- Parameters count from one; one that was never bound is absent. -/
def parameterSlot (index count : Nat) : Result Nat :=
  if index = 0 ∨ count < index then
    .error (.bind ("parameter index " ++ toString index ++ " out of range 1..=" ++ toString count))
  else .ok (index - 1)

def unknownParameter (name : String) : Error :=
  .bind ("unknown parameter name '" ++ name ++ "'")

abbrev Parameters := List Value

namespace Parameters

def unbound (count : Nat) : Parameters := List.replicate count .absent

def set (ps : Parameters) (index : Nat) (v : Value) : Result Parameters :=
  (parameterSlot index ps.length).map fun slot => List.set ps slot v

def get (ps : Parameters) (index : Nat) : Result Value :=
  (parameterSlot index ps.length).map fun slot => ps.getD slot .absent

def clear (ps : Parameters) : Parameters := unbound ps.length

end Parameters
end SqlGateway
