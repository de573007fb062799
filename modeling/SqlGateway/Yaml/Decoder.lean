import SqlGateway.Yaml.Node.Reader

namespace SqlGateway.Yaml

structure Document where
  root : Node
deriving Repr, Inhabited

namespace Document

def ofText (text : String) : Except Failure Document := do return ⟨← Node.ofText text⟩

def target? (d : Document) (number : Nat) : Option Node := d.root.anchored.reverse.lookup number

def budget (d : Document) : Nat := 100 * d.root.size

end Document

/-- The state is a budget that every alias spends from when it is followed, so nested aliases cannot
blow a short text up. -/
abbrev Decoder := ReaderT Document (StateT Nat (Except Failure))

namespace Decoder

def run {α : Type} (x : Decoder α) (d : Document) : Except Failure α := do
  let (a, _) ← StateT.run (ReaderT.run x d) d.budget
  return a

def follow (n : Node) : Decoder Node := do
  match n with
  | .reference number =>
    match ← get with
    | 0 => throw .tooManyAliases
    | left + 1 => set left
    match (← read).target? number with
    | some target => return target
    | none => throw (.unknownAnchor (toString number))
  | n => return n

def isNullWord (text : String) : Bool := ["null", "Null", "NULL", "~"].contains text

def isLeftOut : Node → Bool
  | .scalar _ text plain => plain && text.isEmpty
  | _ => false

def text (n : Node) : Decoder String := do
  match ← follow n with
  | .scalar _ text _ => return text
  | _ => throw (.wrongKind "a string")

def optionalText (n : Node) : Decoder (Option String) := do
  match ← follow n with
  | .scalar p text plain =>
    if !plain then return some text
    else if p.tag = some Tag.null then
      if isNullWord text then return none else throw (.wrongKind "null")
    else if p.tag.isNone && (text.isEmpty || isNullWord text) then return none
    else return some text
  | _ => throw (.wrongKind "a string")

def items (n : Node) : Decoder (List Node) := do
  match ← follow n with
  | .sequence _ items => return items
  | n => if isLeftOut n then return [] else throw (.wrongKind "a sequence")

def entries (n : Node) : Decoder (List (Node × Node)) := do
  match ← follow n with
  | .mapping _ entries => return entries
  | n => if isLeftOut n then return [] else throw (.wrongKind "a mapping")

def findField (names : List String) (found : List (String × Node)) (entry : Node × Node) :
    Decoder (List (String × Node)) := do
  let name ← text entry.1
  if !names.contains name then return found
  if (found.lookup name).isSome then throw (.repeatedField name)
  return found ++ [(name, entry.2)]

/-- The nodes of the named fields. Other fields are passed over; none of the named ones comes
twice. -/
def fields (names : List String) (n : Node) : Decoder (List (String × Node)) := do
  (← entries n).foldlM (findField names) []

def field {α : Type} (found : List (String × Node)) (name : String) (missing : α)
    (decode : Node → Decoder α) : Decoder α :=
  match found.lookup name with
  | some n => decode n
  | none => return missing

/-- A name out of several, written as a text or as a tag of a null value. -/
def variant {α : Type} (names : List (String × α)) (n : Node) : Decoder α := do
  let choose (name : String) : Decoder α :=
    match names.lookup name with
    | some a => return a
    | none => throw (.unknownVariant name)
  match ← follow n with
  | .scalar p text plain =>
    match localTag? p.tag with
    | none => choose text
    | some name =>
      let a ← choose name
      if plain && (text.isEmpty || isNullWord text) then return a
      else throw (.wrongKind "no value")
  | _ => throw (.wrongKind "a name")
where
  localTag? (tag : Option Octets) : Option String :=
    match tag with
    | some (0x21 :: name) => Text.Utf8.decode? (if name.isEmpty then [0x21] else name)
    | _ => none

end Decoder
end SqlGateway.Yaml
