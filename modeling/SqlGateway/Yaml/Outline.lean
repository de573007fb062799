import SqlGateway.Text.Utf8
import SqlGateway.Yaml.Style

namespace SqlGateway.Yaml

inductive Outline where
  | text (s : String)
  | items (texts : List String)
  | fields (fs : List (String × Outline))

namespace Outline

def terminated (cs : List Char) : List Char :=
  if (cs.getLast?.map isBreak).getD false then cs else cs ++ ['\n']

def isSimpleKey (key : String) : Bool :=
  !Style.isMultiline key.toList && Text.Utf8.size key.toList ≤ 128

/-- A key and its colon. A key that is not simple has a question mark and lines of its own. -/
def writeKey (indent : Nat) (key : String) : List Char :=
  let written := Style.write (indent + 2) key
  if isSimpleKey key then written ++ [':']
  else terminated ('?' :: ' ' :: written) ++ Style.margin indent ++ [':']

def writeItems (indent : Nat) (texts : List String) : List Char :=
  texts.flatMap fun s =>
    terminated (Style.margin indent ++ '-' :: ' ' :: Style.write (indent + 2) s)

mutual

def writeFields (indent : Nat) : List (String × Outline) → List Char
  | [] => []
  | (key, v) :: rest =>
    Style.margin indent ++ writeKey indent key ++ v.writeValue indent (isSimpleKey key)
      ++ writeFields indent rest

/-- The value behind the colon of a key at a column. Behind a key that is not simple, a collection
starts on the line of the colon. -/
def writeValue (indent : Nat) (simple : Bool) : Outline → List Char
  | text s => terminated (' ' :: Style.write (indent + 2) s)
  | items [] => [' ', '[', ']', '\n']
  | items texts =>
    if simple then '\n' :: writeItems indent texts
    else ' ' :: (writeItems (indent + 2) texts).drop (indent + 2)
  | fields [] => [' ', '\x7b', '\x7d', '\n']
  | fields fs =>
    if simple then '\n' :: writeFields (indent + 2) fs
    else ' ' :: (writeFields (indent + 2) fs).drop (indent + 2)

end

def document (fs : List (String × Outline)) : String := String.ofList (writeFields 0 fs)

end Outline
end SqlGateway.Yaml
