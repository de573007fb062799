import SqlGateway.Catalog.Scheme

namespace SqlGateway.Yaml

def isBreak (c : Char) : Bool :=
  c == '\n' || c == '\r' || c == '\x85' || c == '\u2028' || c == '\u2029'

def isBlank (c : Char) : Bool := c == ' ' || c == '\t'

/-- Stands behind the last character; no text holds it. -/
def endMark : Char := '\x00'

def endsWord (c : Char) : Bool := isBlank c || isBreak c || c == endMark

def isWordChar (c : Char) : Bool :=
  Catalog.isLetter c || Text.isDigit c || c == '_' || c == '-'

def isReadable (c : Char) : Bool :=
  let n := c.toNat
  c == '\t' || c == '\n' || c == '\r' || (0x20 ≤ n && n ≤ 0x7e) || n == 0x85
    || (0xa0 ≤ n && n ≤ 0xfffd) || 0x10000 ≤ n

def isPrintable (c : Char) : Bool :=
  let n := c.toNat
  c == '\n' || (0x20 ≤ n && n ≤ 0x7e) || (0xa0 ≤ n && n ≤ 0xfffd && n != 0xfeff)

def isFlowMark (c : Char) : Bool := c == ',' || c == '[' || c == ']' || c == '\x7b' || c == '\x7d'

end SqlGateway.Yaml
