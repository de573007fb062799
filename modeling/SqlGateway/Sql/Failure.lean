namespace SqlGateway.Sql

inductive ObjectKind where
  | table
  | view
  | index
  | column
  | function
  | savepoint
deriving DecidableEq, Repr

def ObjectKind.name : ObjectKind → String
  | table => "table"
  | view => "view"
  | index => "index"
  | column => "column"
  | function => "function"
  | savepoint => "savepoint"

inductive KeyKind where
  | primary
  | unique
  | rowid
deriving DecidableEq, Repr

inductive TransactionFault where
  | nested
  | nothingToCommit
  | nothingToRollBack
  | statementsInProgress
deriving DecidableEq, Repr

inductive ColumnFault where
  | primaryKey
  | unique
  | notNullWithoutDefault
  | computedDefault
deriving DecidableEq, Repr

inductive Failure where
  | near (token : String)
  | incomplete
  | unrecognized (token : String)
  | tooDeep
  | noSuch (kind : ObjectKind) (name : String)
  | ambiguous (column : String)
  | argumentCount (function : String)
  | misplacedAggregate (function : String)
  | nothingToExpand
  | unequalRows
  | orderTerm (position columns : Nat)
  | hexTooBig (literal : String)
  | parameterNumber
  | tooManyParameters
  | alreadyExists (kind : ObjectKind) (name : String)
  | nameTaken (kind : ObjectKind) (name : String)
  | reservedName (name : String)
  | duplicateColumn (name : String)
  | noColumn (table column : String)
  | columnCount (table : String) (columns values : Nat)
  | valueCount (values columns : Nat)
  | viewChanged (name : String)
  | dropOther (kind : ObjectKind) (name : String)
  | viewIndexed
  | viewExtended
  | cannotAdd (fault : ColumnFault)
  | secondPrimaryKey (table : String)
  | badAutoincrement
  | transaction (fault : TransactionFault)
  | integerOverflow
  | locked
  | tableLocked
  | readOnly
  | cannotOpen
  | badLocation (reason : String)
  | datatypeMismatch
  | notNull (column : String)
  | check (constraint : String)
  | repeated (kind : KeyKind) (columns : List String)
  | parameterOutOfRange
deriving DecidableEq, Repr

def ordinalEnding (n : Nat) : String :=
  if n % 100 / 10 = 1 then "th"
  else match n % 10 with
    | 1 => "st"
    | 2 => "nd"
    | 3 => "rd"
    | _ => "th"

def TransactionFault.message : TransactionFault → String
  | nested => "cannot start a transaction within a transaction"
  | nothingToCommit => "cannot commit - no transaction is active"
  | nothingToRollBack => "cannot rollback - no transaction is active"
  | statementsInProgress => "cannot commit transaction - SQL statements in progress"

def ColumnFault.message : ColumnFault → String
  | primaryKey => "Cannot add a PRIMARY KEY column"
  | unique => "Cannot add a UNIQUE column"
  | notNullWithoutDefault => "Cannot add a NOT NULL column with default value NULL"
  | computedDefault => "Cannot add a column with non-constant default"

namespace Failure

def code : Failure → Nat
  | transaction .statementsInProgress | locked => 5
  | tableLocked => 6
  | readOnly => 8
  | cannotOpen => 14
  | datatypeMismatch => 20
  | parameterOutOfRange => 25
  | check _ => 275
  | notNull _ => 1299
  | repeated .primary _ => 1555
  | repeated .unique _ => 2067
  | repeated .rowid _ => 2579
  | _ => 1

def message : Failure → String
  | near token => "near \"" ++ token ++ "\": syntax error"
  | incomplete => "incomplete input"
  | unrecognized token => "unrecognized token: \"" ++ token ++ "\""
  | tooDeep => "parser stack overflow"
  | noSuch kind name => "no such " ++ kind.name ++ ": " ++ name
  | ambiguous column => "ambiguous column name: " ++ column
  | argumentCount function => "wrong number of arguments to function " ++ function ++ "()"
  | misplacedAggregate function => "misuse of aggregate function " ++ function ++ "()"
  | nothingToExpand => "no tables specified"
  | unequalRows => "all VALUES must have the same number of terms"
  | orderTerm position columns =>
    toString position ++ ordinalEnding position
      ++ " ORDER BY term out of range - should be between 1 and " ++ toString columns
  | hexTooBig literal => "hex literal too big: " ++ literal
  | parameterNumber => "variable number must be between ?1 and ?32766"
  | tooManyParameters => "too many SQL variables"
  | alreadyExists kind name => kind.name ++ " " ++ name ++ " already exists"
  | nameTaken kind name =>
    "there is already " ++ (if kind = .index then "an " else "a ") ++ kind.name ++ " named " ++ name
  | reservedName name => "object name reserved for internal use: " ++ name
  | duplicateColumn name => "duplicate column name: " ++ name
  | noColumn table column => "table " ++ table ++ " has no column named " ++ column
  | columnCount table columns values =>
    "table " ++ table ++ " has " ++ toString columns ++ " columns but " ++ toString values
      ++ " values were supplied"
  | valueCount values columns => toString values ++ " values for " ++ toString columns ++ " columns"
  | viewChanged name => "cannot modify " ++ name ++ " because it is a view"
  | dropOther kind name =>
    "use DROP " ++ (if kind = .view then "VIEW" else "TABLE") ++ " to delete " ++ kind.name ++ " "
      ++ name
  | viewIndexed => "views may not be indexed"
  | viewExtended => "Cannot add a column to a view"
  | cannotAdd fault => fault.message
  | secondPrimaryKey table => "table \"" ++ table ++ "\" has more than one primary key"
  | badAutoincrement => "AUTOINCREMENT is only allowed on an INTEGER PRIMARY KEY"
  | transaction fault => fault.message
  | integerOverflow => "integer overflow"
  | locked => "database is locked"
  | tableLocked => "database table is locked"
  | readOnly => "attempt to write a readonly database"
  | cannotOpen => "unable to open database file"
  | badLocation reason => reason
  | datatypeMismatch => "datatype mismatch"
  | notNull column => "NOT NULL constraint failed: " ++ column
  | check constraint => "CHECK constraint failed: " ++ constraint
  | repeated _ columns => "UNIQUE constraint failed: " ++ ", ".intercalate columns
  | parameterOutOfRange => "column index out of range"

end Failure
end SqlGateway.Sql
