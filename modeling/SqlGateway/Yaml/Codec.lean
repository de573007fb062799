import SqlGateway.Yaml.Decoder
import SqlGateway.Yaml.Outline

namespace SqlGateway.Yaml

/-- A library that writes named fields as a document and reads documents. -/
structure Codec where
  write : List (String × Outline) → String
  read : String → Except Failure Document

/-- libyaml 0.2.5 as serde_yaml 0.9 drives it. -/
def Codec.libyaml : Codec := ⟨Outline.document, Document.ofText⟩

end SqlGateway.Yaml
