import SqlGateway.Yaml.Token

namespace SqlGateway.Yaml

structure Properties where
  anchor : Option Nat := none
  tag : Option Octets := none
deriving DecidableEq, Repr, Inhabited

inductive Node where
  | reference (number : Nat)
  | scalar (p : Properties) (text : String) (plain : Bool)
  | sequence (p : Properties) (items : List Node)
  | mapping (p : Properties) (entries : List (Node × Node))
deriving Repr, Inhabited

namespace Node

def empty : Node := scalar {} "" true

def ofProperties (p : Properties) (n : Node) : List (Nat × Node) :=
  match p.anchor with
  | some number => [(number, n)]
  | none => []

mutual

/-- The anchored nodes with their numbers, in the order in which they start. -/
def anchored : Node → List (Nat × Node)
  | reference _ => []
  | scalar p text plain => ofProperties p (scalar p text plain)
  | sequence p items => ofProperties p (sequence p items) ++ anchoredItems items
  | mapping p entries => ofProperties p (mapping p entries) ++ anchoredEntries entries

def anchoredItems : List Node → List (Nat × Node)
  | [] => []
  | n :: ns => n.anchored ++ anchoredItems ns

def anchoredEntries : List (Node × Node) → List (Nat × Node)
  | [] => []
  | (k, v) :: rest => k.anchored ++ v.anchored ++ anchoredEntries rest

end

mutual

def size : Node → Nat
  | reference _ | scalar .. => 1
  | sequence _ items => sizeItems items + 2
  | mapping _ entries => sizeEntries entries + 2

def sizeItems : List Node → Nat
  | [] => 0
  | n :: ns => n.size + sizeItems ns

def sizeEntries : List (Node × Node) → Nat
  | [] => 0
  | (k, v) :: rest => k.size + v.size + sizeEntries rest

end
end Node
end SqlGateway.Yaml
