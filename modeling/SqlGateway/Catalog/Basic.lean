import SqlGateway.Catalog.Scheme
import SqlGateway.Error
import SqlGateway.Keyed
import SqlGateway.Rows.Column

namespace SqlGateway

structure Driver (σ κ : Type) where
  name : String
  /-- The schemes it declares, in its own order and spelling. -/
  schemes : List String
  connect : String → String → σ → Result κ × σ

/-- Routes by scheme in lower case, sorted by scheme. -/
structure Catalog (σ κ : Type) where
  routes : List (String × Driver σ κ) := []

namespace Catalog

variable {σ κ : Type}

def register (c : Catalog σ κ) (d : Driver σ κ) : Catalog σ κ :=
  ⟨d.schemes.foldl (fun routes scheme => Keyed.insert (Text.lowerText scheme) d routes) c.routes⟩

def driver? (c : Catalog σ κ) (scheme : String) : Option (Driver σ κ) :=
  c.routes.lookup (Text.lowerText scheme)

def hasScheme (c : Catalog σ κ) (scheme : String) : Bool := (c.driver? scheme).isSome

def schemes (c : Catalog σ κ) : List String := c.routes.map (·.1)

/-- Every driver name with the schemes that the first driver of this name declares, by name. -/
def drivers (c : Catalog σ κ) : List (String × List String) :=
  c.routes.foldl (fun known (_, d) =>
    if (known.lookup d.name).isSome then known else Keyed.insert d.name d.schemes known) []

def describe (c : Catalog σ κ) : String :=
  "DriverCatalog \x7b schemes: [" ++ ", ".intercalate (c.schemes.map Text.quoted) ++ "] \x7d"

/-- Nothing is opened, and nobody asked, where no driver has the scheme. -/
def create (c : Catalog σ κ) (url : String) (s : σ) : Result (Option κ) × σ :=
  match splitScheme url with
  | none => (.ok none, s)
  | some (scheme, target) =>
    match c.driver? scheme with
    | none => (.ok none, s)
    | some d =>
      let (r, s) := d.connect scheme target s
      (r.map some, s)

def noDriver (c : Catalog σ κ) (url : String) : Error :=
  let scheme := match splitScheme url with
    | some (scheme, _) => scheme
    | none => ""
  .config ("No driver for scheme '" ++ scheme ++ "'. Supported schemes: "
    ++ ", ".intercalate c.schemes)

def require (c : Catalog σ κ) (url : String) (s : σ) : Result κ × σ :=
  match c.create url s with
  | (.error e, s) => (.error e, s)
  | (.ok none, s) => (.error (c.noDriver url), s)
  | (.ok (some conn), s) => (.ok conn, s)

def executeAll (execute : String → σ → Result Stats × σ) : List String → σ → Result Unit × σ
  | [], s => (.ok (), s)
  | sql :: rest, s =>
    match execute sql s with
    | (.error e, s) => (.error e, s)
    | (.ok _, s) => executeAll execute rest s

/-- Opens a URL and executes the statements that a fresh connection has to see first. -/
def openWith (c : Catalog σ κ) (execute : κ → String → σ → Result Stats × σ) (url : String)
    (init : List String) (s : σ) : Result κ × σ :=
  match c.require url s with
  | (.error e, s) => (.error e, s)
  | (.ok conn, s) =>
    match executeAll (execute conn) init s with
    | (.error e, s) => (.error e, s)
    | (.ok _, s) => (.ok conn, s)

end Catalog
end SqlGateway
