import SqlGateway.Rows.Column
import SqlGateway.Rows.Feed

namespace SqlGateway

structure Fetched where
  columns : Columns
  rows : List LiveRow
  stats : Stats
  generation : UInt64
  index : Nat := 0

namespace Fetched

variable (live : UInt64)

def isCurrent (c : Fetched) : Bool := c.generation = live

def hasRow (c : Fetched) : Bool := c.isCurrent live && c.index < c.rows.length

def current (c : Fetched) : Result LiveRow :=
  if c.isCurrent live then
    match c.rows[c.index]? with
    | some row => .ok row
    | none => .error .invalidIterator
  else .error .invalidIterator

def advance (c : Fetched) : Result Bool × Fetched :=
  if c.isCurrent live then
    let c := if c.index < c.rows.length then { c with index := c.index + 1 } else c
    (.ok (decide (c.index < c.rows.length)), c)
  else (.error .invalidIterator, c)

def feed : Feed Fetched where
  hasRow := hasRow live
  current := current live
  advance := advance live

end Fetched

/-- Rows from a source that breaks: moving on to row `breakAt` fails each time, and the source stays
where it is. -/
structure Faulty where
  columns : Columns
  rows : List Row
  stats : Stats
  breakAt : Option Nat
  failure : Error
  index : Nat := 0

namespace Faulty

def hasRow (c : Faulty) : Bool := c.index < c.rows.length

def current (c : Faulty) : Result LiveRow :=
  match c.rows[c.index]? with
  | some row => .ok row.live
  | none => .error .invalidIterator

def advance (c : Faulty) : Result Bool × Faulty :=
  if c.breakAt = some (c.index + 1) then (.error c.failure, c)
  else
    let c := if c.index < c.rows.length then { c with index := c.index + 1 } else c
    (.ok c.hasRow, c)

def feed : Feed Faulty where
  hasRow := hasRow
  current := current
  advance := advance

end Faulty
end SqlGateway
