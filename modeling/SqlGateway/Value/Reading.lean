import SqlGateway.Value.Convert

namespace SqlGateway

class OfValue (α : Type) where
  ofValue : Value → Result α

instance : OfValue Value := ⟨fun v => .ok v⟩

instance : OfValue String := ⟨fun v => .ok v.toText⟩

instance : OfValue Blob := ⟨fun v => .ok v.toBlob⟩

instance : OfValue Bool := ⟨fun v => .ok v.toBool⟩

instance : OfValue Int32 := ⟨Value.toInt⟩

instance : OfValue Int64 := ⟨Value.toInt64⟩

instance : OfValue Double := ⟨Value.toDouble⟩

instance {α : Type} [OfValue α] : OfValue (Option α) := ⟨Value.optional OfValue.ofValue⟩

namespace Value

def get (α : Type) [OfValue α] (v : Value) : Result α := OfValue.ofValue v

def whenPresent {α : Type} (read : Value → α) (v : Value) : Option α :=
  if v.isEmpty then none else some (read v)

def toTextOpt (v : Value) : Option String := v.whenPresent toText

def toBlobOpt (v : Value) : Option Blob := v.whenPresent toBlob

def toBoolOpt (v : Value) : Option Bool := v.whenPresent toBool

def toIntOpt (v : Value) : Result (Option Int32) := v.optional toInt

def toInt64Opt (v : Value) : Result (Option Int64) := v.optional toInt64

def toDoubleOpt (v : Value) : Result (Option Double) := v.optional toDouble

end Value
end SqlGateway
