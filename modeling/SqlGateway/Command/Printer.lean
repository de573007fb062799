import SqlGateway.Config.Basic
import SqlGateway.Rows.Column
import SqlGateway.Rows.Row

namespace SqlGateway.Command

structure Printer where
  style : OutputStyle
  names : List String

namespace Printer

def line (s : String) : String := s ++ "\n"

def separated (p : Printer) (cells : List String) : String := p.style.separator.intercalate cells

def header (p : Printer) : String :=
  match p.style.format with
  | .text => if p.names.isEmpty then "" else line (p.separated p.names)
  | .json => ""

def cell (p : Printer) (v : Value) : String := if v.isNull then p.style.nullText else v.display

/-- The members of a row's object by name; of two columns with one name the last is shown. -/
def members (p : Printer) (row : Row) : List (String × String) :=
  Keyed.ofList (row.zipIdx.map fun (v, i) => (p.names.getD i (toString i), v.json))

def row (p : Printer) (row : Row) : String :=
  line (match p.style.format with
    | .text => p.separated (row.map p.cell)
    | .json => Text.Json.object (p.members row))

end Printer
end SqlGateway.Command
