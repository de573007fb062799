import SqlGateway.Catalog.Scheme
import SqlGateway.Error
import SqlGateway.Keyed
import SqlGateway.Text.Blank

namespace SqlGateway

structure Profile where
  url : String
  init : List String := []
  description : Option String := none
deriving DecidableEq, Repr, Inhabited

inductive OutputFormat where
  | text
  | json
deriving DecidableEq, Repr, Inhabited

structure OutputStyle where
  nullText : String := "NULL"
  format : OutputFormat := .text
  separator : String := " | "
deriving DecidableEq, Repr, Inhabited

structure Config where
  defaultConnection : Option String := none
  connections : List (String × Profile) := []
  output : OutputStyle := {}
deriving DecidableEq, Repr, Inhabited

def OutputFormat.name : OutputFormat → String
  | .text => "text"
  | .json => "json"

namespace Config

def checkProfile (name : String) (p : Profile) : Result Unit :=
  if Text.isBlankText name then .error (.config "connection profile names cannot be empty")
  else if Text.isBlankText p.url then
    .error (.config ("connections." ++ name ++ ".url is required"))
  else if (Catalog.splitScheme p.url).isNone then
    .error (.config ("connections." ++ name ++ ".url must start with a scheme such as 'sqlite:' or "
      ++ "'postgresql:', got '" ++ p.url ++ "'"))
  else .ok ()

/-- Fails on the first fault: in a profile, by name, then in the default, then in the output. -/
def validate (c : Config) : Result Unit := do
  c.connections.forM fun (name, p) => checkProfile name p
  if let some name := c.defaultConnection then
    if (c.connections.lookup name).isNone then
      throw (.config ("default_connection '" ++ name ++ "' is not a configured connection"))
  if c.output.separator.isEmpty then throw (.config "output.separator cannot be empty")

def profile (c : Config) (name : Option String) : Result Profile :=
  match name.or c.defaultConnection with
  | none => .error (.config "no connection named and no default_connection configured")
  | some name =>
    match c.connections.lookup name with
    | some p => .ok p
    | none => .error (.notFound ("connection profile '" ++ name ++ "'"))

end Config
end SqlGateway
