import SqlGateway.Text.Utf8
import SqlGateway.Yaml.Scalar

namespace SqlGateway.Yaml

abbrev Octets := List UInt8

namespace Tag

def isUriChar (verbatim : Bool) (c : Char) : Bool :=
  isWordChar c ||
    [';', '/', '?', ':', '@', '&', '=', '+', '$', '.', '!', '~', '*', '\'', '(', ')'].contains c
    || (verbatim && (c == ',' || c == '[' || c == ']'))

def following? (octet : Nat) : Option Nat :=
  if octet < 0x80 then some 0
  else if octet < 0xc0 then none
  else if octet < 0xe0 then some 1
  else if octet < 0xf0 then some 2
  else if octet < 0xf8 then some 3
  else none

inductive Escape where
  | outside
  | firstDigit
  | secondDigit (value : Nat)
deriving DecidableEq, Repr

def uri (verbatim : Bool) (owed : Nat) (stage : Escape) :
    List Glyph → Except Failure (Octets × List Glyph)
  | [] => .error .tag
  | g :: rest =>
    match stage with
    | .outside =>
      if g.char = '%' then uri verbatim owed .firstDigit rest
      else if 0 < owed then .error .tag
      else if isUriChar verbatim g.char then
        (uri verbatim 0 .outside rest).map fun (os, r) => (g.char.toNat.toUInt8 :: os, r)
      else .ok ([], g :: rest)
    | .firstDigit =>
      match Text.Hex.digitValue? g.char with
      | some d => uri verbatim owed (.secondDigit d) rest
      | none => .error .tag
    | .secondDigit value =>
      match Text.Hex.digitValue? g.char with
      | none => .error .tag
      | some d =>
        let octet := 16 * value + d
        let owed? := if 0 < owed then
            if octet / 0x40 = 2 then some (owed - 1) else none
          else following? octet
        match owed? with
        | none => .error .tag
        | some owed => (uri verbatim owed .outside rest).map fun (os, r) => (octet.toUInt8 :: os, r)

def nonEmptyUri (verbatim : Bool) (gs : List Glyph) : Except Failure (Octets × List Glyph) := do
  let (os, rest) ← uri verbatim 0 .outside gs
  if os.isEmpty then throw .tag
  return (os, rest)

def chars (gs : List Glyph) : List Char := gs.map (·.char)

/-- Handle and suffix of the tag that starts here, with an empty handle for a complete one. -/
def read (flow : Bool) (gs : List Glyph) : Except Failure (String × Octets × List Glyph) := do
  let word := chars ((gs.drop 1).takeWhile fun g => isWordChar g.char)
  let behind := gs.drop (word.length + 1)
  let (handle, suffix, rest) ←
    if Glyph.charAt gs 1 = '<' then do
      let (os, rest) ← nonEmptyUri true (gs.drop 2)
      if Glyph.charAt rest 0 ≠ '>' then throw .tag
      pure ("", os, rest.drop 1)
    else if Glyph.charAt behind 0 = '!' then do
      let (os, rest) ← nonEmptyUri false (behind.drop 1)
      pure (String.ofList ('!' :: word ++ ['!']), os, rest)
    else do
      let (os, rest) ← uri false 0 .outside (gs.drop 1)
      pure (if os.isEmpty then ("", [0x21], rest) else ("!", os, rest))
  let next := Glyph.charAt rest 0
  if !endsWord next && !(flow && next == ',') then throw .tag
  return (handle, suffix, rest)

def standardHandles : List (String × Octets) :=
  [("!", Text.Utf8.encode "!"), ("!!", Text.Utf8.encode "tag:yaml.org,2002:")]

def null : Octets := Text.Utf8.encode "tag:yaml.org,2002:null"

end Tag

inductive Directive where
  | version
  | handle (name : String) (text : Octets)
deriving DecidableEq, Repr

namespace Directive

def number (gs : List Glyph) : Except Failure (Nat × List Glyph) :=
  let ds := Tag.chars (gs.takeWhile fun g => Text.isDigit g.char)
  if ds.isEmpty ∨ 9 < ds.length then .error .directive
  else .ok (Text.digitsFrom 0 ds, gs.drop ds.length)

/-- Versions 1.1 and 1.2 are read alike, and no other is. -/
def readVersion (gs : List Glyph) : Except Failure (Directive × List Glyph) := do
  let (major, gs) ← number (Glyph.dropBlanks gs)
  if Glyph.charAt gs 0 ≠ '.' then throw .directive
  let (minor, gs) ← number (gs.drop 1)
  if major ≠ 1 ∨ (minor ≠ 1 ∧ minor ≠ 2) then throw .directive
  return (.version, gs)

def readHandle (gs : List Glyph) : Except Failure (Directive × List Glyph) := do
  let gs := Glyph.dropBlanks gs
  if Glyph.charAt gs 0 ≠ '!' then throw .directive
  let word := Tag.chars ((gs.drop 1).takeWhile fun g => isWordChar g.char)
  let gs := gs.drop (word.length + 1)
  let closed := Glyph.charAt gs 0 = '!'
  if !closed && !word.isEmpty then throw .directive
  let gs := if closed then gs.drop 1 else gs
  if !isBlank (Glyph.charAt gs 0) then throw .directive
  let (os, gs) ← Tag.nonEmptyUri true (Glyph.dropBlanks gs)
  if !endsWord (Glyph.charAt gs 0) then throw .directive
  return (.handle (String.ofList ('!' :: word ++ if closed then ['!'] else [])) os, gs)

def read (gs : List Glyph) : Except Failure (Directive × List Glyph) := do
  let name := Tag.chars (gs.takeWhile fun g => isWordChar g.char)
  let gs := gs.drop name.length
  if !endsWord (Glyph.charAt gs 0) then throw .directive
  let (d, gs) ← match String.ofList name with
    | "YAML" => readVersion gs
    | "TAG" => readHandle gs
    | _ => throw .directive
  return (d, ← Glyph.endLine .directive gs)

end Directive
end SqlGateway.Yaml
