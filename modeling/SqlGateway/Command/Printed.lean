import SqlGateway.Command.Invocation
import SqlGateway.Command.Parameter
import SqlGateway.Command.Printer
import SqlGateway.Rows.Feed

namespace SqlGateway.Command

structure Printed where
  text : String := ""
  count : Nat := 0
deriving DecidableEq, Repr, Inhabited

namespace Printed

variable {σ : Type}

def addRow (p : Printer) (row : Row) (out : Printed) : Printed :=
  ⟨out.text ++ p.row row, out.count + 1⟩

def verdict (limit : Option Nat) (out : Printed) : Verdict :=
  if limit = some out.count then .enough else .more

def byCursor (f : Feed σ) (p : Printer) (limit : Option Nat) (s : σ) :
    Result Nat × String × σ :=
  let out : Printed := { text := p.header }
  let visit (out : Printed) (row : LiveRow) : Verdict × Printed :=
    match row.detach with
    | .error e => (.fail e, out)
    | .ok row => let out := out.addRow p row; (out.verdict limit, out)
  if limit = some 0 then (.ok 0, out.text, s)
  else
    match f.walk visit out s with
    | (.failed e, out, s) => (.error e, out.text, s)
    | (_, out, s) => (.ok out.count, out.text, s)

def byCallback (f : Feed σ) (p : Printer) (limit : Option Nat) (s : σ) :
    Result Nat × String × σ :=
  let out : Printed := { text := p.header }
  let print (out : Printed) (row : Row) : Verdict × Printed :=
    let out := out.addRow p row
    (out.verdict limit, out)
  if limit = some 0 then (.ok 0, out.text, s)
  else
    match f.forEach print out s with
    | (.error e, out, s) => (.error e, out.text, s)
    | (.ok _, out, s) => (.ok out.count, out.text, s)

def ofRows (p : Printer) (limit : Option Nat) (rows : List Row) : Printed :=
  let rows := match limit with
    | some n => rows.take n
    | none => rows
  rows.foldl (fun out row => out.addRow p row) { text := p.header }

end Printed
end SqlGateway.Command
