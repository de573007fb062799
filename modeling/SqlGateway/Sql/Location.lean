import SqlGateway.Sql.Failure
import SqlGateway.Text.Hex
import SqlGateway.Text.Utf8

namespace SqlGateway.Sql

structure Path where
  absolute : Bool
  parts : List String
deriving DecidableEq, Repr, Inhabited

def splitAtChar (mark : Char) (cs : List Char) : List (List Char) :=
  cs.foldr (fun c parts => if c = mark then [] :: parts else match parts with
    | part :: rest => (c :: part) :: rest
    | [] => [[c]]) [[]]

namespace Path

def ofChars (cs : List Char) : Path where
  absolute := cs.head? = some '/'
  parts := (((splitAtChar '/' cs).map String.ofList).foldl (fun parts part =>
    if part = "" ∨ part = "." then parts else if part = ".." then parts.drop 1 else part :: parts)
    []).reverse

def parent (p : Path) : Path := { p with parts := p.parts.dropLast }

end Path

inductive AccessMode where
  | readOnly
  | readWrite
  | create
deriving DecidableEq, Repr

inductive Location where
  | memory
  | file (path : Path) (mode : AccessMode)
deriving DecidableEq, Repr

namespace Location

def decodePercent : List Char → List Char
  | '%' :: a :: b :: cs =>
    match Text.Hex.digitValue? a, Text.Hex.digitValue? b with
    | some a, some b => Char.ofNat (16 * a + b) :: decodePercent cs
    | _, _ => '%' :: decodePercent (a :: b :: cs)
  | c :: cs => c :: decodePercent cs
  | [] => []

def ofPath (cs : List Char) (mode : AccessMode) : Location :=
  if cs.isEmpty ∨ String.ofList cs = ":memory:" then memory else file (Path.ofChars cs) mode

def options (cs : List Char) : List (String × String) :=
  (splitAtChar '&' cs).map fun item =>
    (String.ofList (decodePercent (item.takeWhile (· ≠ '='))),
      String.ofList (decodePercent ((item.dropWhile (· ≠ '=')).drop 1)))

/-- A URI behind its scheme. Of an authority only the local one is known. -/
def ofUri (cs : List Char) : Except Failure Location := do
  let cs ← match cs with
    | '/' :: '/' :: rest =>
      let authority := String.ofList (rest.takeWhile (· ≠ '/'))
      if authority ≠ "" ∧ authority ≠ "localhost" then
        throw (.badLocation ("invalid uri authority: " ++ authority))
      pure (rest.dropWhile (· ≠ '/'))
    | cs => pure cs
  let cs := cs.takeWhile (· ≠ '#')
  let path := decodePercent (cs.takeWhile (· ≠ '?'))
  (options ((cs.dropWhile (· ≠ '?')).drop 1)).foldlM (fun place (key, value) =>
    match key, value with
    | "mode", "ro" => return ofPath path .readOnly
    | "mode", "rw" => return ofPath path .readWrite
    | "mode", "rwc" => return ofPath path .create
    | "mode", "memory" => return memory
    | "mode", _ => throw (.badLocation ("no such access mode: " ++ value))
    | "cache", "shared" | "cache", "private" => return place
    | "cache", _ => throw (.badLocation ("no such cache mode: " ++ value))
    | "vfs", _ => throw (.badLocation ("no such vfs: " ++ value))
    | _, _ => return place) (ofPath path .create)

def ofText (text : String) : Except Failure Location :=
  match text.toList with
  | 'f' :: 'i' :: 'l' :: 'e' :: ':' :: rest => ofUri rest
  | cs => .ok (ofPath cs .create)

end Location
end SqlGateway.Sql
