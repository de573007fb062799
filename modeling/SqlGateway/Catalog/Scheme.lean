import SqlGateway.Text.Number

namespace SqlGateway.Catalog

def isLetter (c : Char) : Bool := ('a' ≤ c && c ≤ 'z') || ('A' ≤ c && c ≤ 'Z')

def isSchemeChar (c : Char) : Bool :=
  isLetter c || Text.isDigit c || c == '+' || c == '-' || c == '.'

def isScheme : List Char → Bool
  | [] => false
  | c :: cs => isLetter c && cs.all isSchemeChar

def splitSchemeChars (url : List Char) : Option (List Char × List Char) :=
  let scheme := url.takeWhile (· ≠ ':')
  match url.dropWhile (· ≠ ':') with
  | [] => none
  | _ :: rest => if isScheme scheme then some (scheme.map Text.lowerAscii, rest) else none

def splitScheme (url : String) : Option (String × String) :=
  (splitSchemeChars url.toList).map fun (s, rest) => (String.ofList s, String.ofList rest)

end SqlGateway.Catalog
