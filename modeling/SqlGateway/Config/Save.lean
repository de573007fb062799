import SqlGateway.Config.Basic
import SqlGateway.Yaml.Codec

namespace SqlGateway

open Yaml

def optionalField (name : String) (value : Option String) : List (String × Outline) :=
  match value with
  | some s => [(name, .text s)]
  | none => []

/-- What is missing or empty is left out; what has a default is written all the same. -/
def Profile.written (p : Profile) : List (String × Outline) :=
  ("url", .text p.url) :: (if p.init.isEmpty then [] else [("init", .items p.init)])
    ++ optionalField "description" p.description

def OutputStyle.written (o : OutputStyle) : List (String × Outline) :=
  [("null_text", .text o.nullText), ("format", .text o.format.name),
    ("separator", .text o.separator)]

namespace Config

def written (c : Config) : List (String × Outline) :=
  optionalField "default_connection" c.defaultConnection
    ++ [("connections", .fields (c.connections.map fun (name, p) => (name, .fields p.written))),
      ("output", .fields c.output.written)]

def toYamlBy (C : Codec) (c : Config) : String := C.write c.written

def toYaml (c : Config) : String := c.toYamlBy .libyaml

end Config
end SqlGateway
