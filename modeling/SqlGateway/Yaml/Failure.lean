namespace SqlGateway.Yaml

inductive Failure where
  | control (code : Nat)
  | strayCharacter (c : Char)
  | tab
  | missingColon
  | misplaced (what : String)
  | openQuote
  | escape
  | colon
  | blockHeader
  | anchorName
  | tag
  | directive
  | expected (what : String)
  | unknownAnchor (name : String)
  | unknownHandle (handle : String)
  | severalDocuments
  | tooManyAliases
  | tooDeep
  | wrongKind (wanted : String)
  | missingField (name : String)
  | repeatedField (name : String)
  | unknownVariant (name : String)
deriving DecidableEq, Repr

def Failure.message : Failure → String
  | control _ => "control characters are not allowed"
  | strayCharacter c => "character " ++ String.singleton c ++ " cannot start a token"
  | tab => "a tab cannot indent"
  | missingColon => "a key lacks its colon"
  | misplaced what => what ++ " is not allowed here"
  | openQuote => "a quoted scalar is not closed"
  | escape => "unknown escape"
  | colon => "unexpected colon"
  | blockHeader => "malformed header of a block scalar"
  | anchorName => "malformed anchor"
  | tag => "malformed tag"
  | directive => "malformed directive"
  | expected what => "expected " ++ what
  | unknownAnchor name => "unknown anchor " ++ name
  | unknownHandle handle => "unknown tag handle " ++ handle
  | severalDocuments => "more than one document"
  | tooManyAliases => "too many aliases"
  | tooDeep => "nested too deep"
  | wrongKind wanted => "expected " ++ wanted
  | missingField name => "missing field " ++ name
  | repeatedField name => "repeated field " ++ name
  | unknownVariant name => "unknown variant " ++ name

end SqlGateway.Yaml
