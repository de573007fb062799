import SqlGateway.Config.Basic
import SqlGateway.Yaml.Codec

namespace SqlGateway

open Yaml

def OutputFormat.decode (n : Node) : Decoder OutputFormat :=
  Decoder.variant [("text", .text), ("json", .json)] n

def OutputStyle.decode (n : Node) : Decoder OutputStyle := do
  let found ← Decoder.fields ["null_text", "format", "separator"] n
  return {
    nullText := ← Decoder.field found "null_text" "NULL" Decoder.text
    format := ← Decoder.field found "format" .text OutputFormat.decode
    separator := ← Decoder.field found "separator" " | " Decoder.text }

def Profile.decode (n : Node) : Decoder Profile := do
  let found ← Decoder.fields ["url", "init", "description"] n
  let url ← match found.lookup "url" with
    | some n => Decoder.text n
    | none => throw (.missingField "url")
  return {
    url
    init := ← Decoder.field found "init" [] fun n => do (← Decoder.items n).mapM Decoder.text
    description := ← Decoder.field found "description" none Decoder.optionalText }

namespace Config

/-- Profiles by name; of two with one name the last counts. -/
def decodeProfiles (n : Node) : Decoder (List (String × Profile)) := do
  let profiles ← (← Decoder.entries n).mapM fun (k, v) => do
    return (← Decoder.text k, ← Profile.decode v)
  return Keyed.ofList profiles

def decode (n : Node) : Decoder Config := do
  let found ← Decoder.fields ["default_connection", "connections", "output"] n
  return {
    defaultConnection := ← Decoder.field found "default_connection" none Decoder.optionalText
    connections := ← Decoder.field found "connections" [] decodeProfiles
    output := ← Decoder.field found "output" {} OutputStyle.decode }

def parseBy (C : Codec) (text : String) : Except Failure Config := do
  let d ← C.read text
  (decode d.root).run d

def parse (text : String) : Except Failure Config := parseBy .libyaml text

def ofYamlBy (C : Codec) (text : String) : Result Config := do
  let c ← (parseBy C text).mapError fun failure => Error.yaml failure.message
  c.validate
  return c

def ofYaml (text : String) : Result Config := ofYamlBy .libyaml text

/-- The configuration of a file whose content is given; nothing, if there is no such file. -/
def load (content : Option Text.Utf8.Bytes) : Result Config := do
  let some content := content | throw (.io "No such file or directory (os error 2)")
  let some text := Text.Utf8.decode? content
    | throw (.io "stream did not contain valid UTF-8")
  ofYaml text

end Config
end SqlGateway
