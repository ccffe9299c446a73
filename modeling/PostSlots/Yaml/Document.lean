import PostSlots.Yaml.Lexer
import PostSlots.Yaml.Node
import PostSlots.Yaml.Scalar

/-!
# Documents

The names of anchors become numbers: an anchor's number is the number of different names before
it, and an alias stands for the last node of the document that carries the number its name has at
that place. Following aliases is limited in all, and nesting in depth.
-/

namespace PostSlots.Yaml

/-- The numbers that names have at some place, each name once. -/
abbrev Names := List (String × Nat)

/-- A name given again receives a new number. -/
def Names.give (names : Names) (name : String) : Names :=
  (name, names.length) :: names.filter fun entry => entry.1 != name

namespace Node

/-- A step of numbering. -/
abbrev Numbering := StateT Names (Except Fault)

def numberAnchor (p : Properties String) : Numbering (Properties Nat) := do
  match p.anchor with
  | none => pure ⟨none, p.tag⟩
  | some name =>
    let names ← get
    set (names.give name)
    pure ⟨some names.length, p.tag⟩

mutual
/-- Replaces names by numbers. An alias needs an anchor before it. -/
def number : Node String → Numbering (Node Nat)
  | aliasTo name => do
    match (← get).lookup name with
    | some n => pure (aliasTo n)
    | none => throw .unknownAlias
  | scalar p plain text => do pure (scalar (← numberAnchor p) plain text)
  | sequence p items => do
    let p ← numberAnchor p
    pure (sequence p (← numberItems items))
  | mapping p pairs => do
    let p ← numberAnchor p
    pure (mapping p (← numberPairs pairs))

def numberItems : List (Node String) → Numbering (List (Node Nat))
  | [] => pure []
  | item :: items => do
    let item ← number item
    pure (item :: (← numberItems items))

def numberPairs : List (Node String × Node String) → Numbering (List (Node Nat × Node Nat))
  | [] => pure []
  | (name, value) :: pairs => do
    let name ← number name
    let value ← number value
    pure ((name, value) :: (← numberPairs pairs))
end

variable {ν : Type}

/-- A node under the name of its anchor. -/
def target (p : Properties ν) (n : Node ν) : List (ν × Node ν) :=
  p.anchor.toList.map (·, n)

mutual
/-- The nodes with anchors, in document order. -/
def targets : Node ν → List (ν × Node ν)
  | aliasTo _ => []
  | scalar p plain text => target p (scalar p plain text)
  | sequence p items => target p (sequence p items) ++ targetsOfItems items
  | mapping p pairs => target p (mapping p pairs) ++ targetsOfPairs pairs

def targetsOfItems : List (Node ν) → List (ν × Node ν)
  | [] => []
  | item :: items => targets item ++ targetsOfItems items

def targetsOfPairs : List (Node ν × Node ν) → List (ν × Node ν)
  | [] => []
  | (name, value) :: pairs => targets name ++ targets value ++ targetsOfPairs pairs
end

mutual
/-- How many scalars, aliases, and starts and ends of collections a node has. -/
def size : Node ν → Nat
  | aliasTo _ | scalar .. => 1
  | sequence _ items => 2 + sizeOfItems items
  | mapping _ pairs => 2 + sizeOfPairs pairs

def sizeOfItems : List (Node ν) → Nat
  | [] => 0
  | item :: items => size item + sizeOfItems items

def sizeOfPairs : List (Node ν × Node ν) → Nat
  | [] => 0
  | (name, value) :: pairs => size name + size value + sizeOfPairs pairs
end

end Node

/-- The tree of a document, and the nodes that its aliases stand for. -/
structure Document where
  root : Node Nat
  targets : List (Nat × Node Nat)

/-- Reading data out of a document: the number of aliases that may still be followed. -/
abbrev Extract := StateT Nat (Except Fault)

namespace Document

/-- How deep collections may be nested. -/
def depthLimit : Nat := 128

/-- How often aliases may be followed. -/
def aliasLimit (d : Document) : Nat := 100 * d.root.size

/-- The node that stands here. -/
def follow (d : Document) : Node Nat → Extract (Node Nat)
  | .aliasTo n => do
    match ← get, d.targets.lookup n with
    | left + 1, some node => do
      set left
      pure node
    | 0, _ => throw .depth
    | _, none => throw .unknownAlias
  | node => pure node

/-- The data of a node that is nested at most as deep as given. -/
def datum (d : Document) : (depth : Nat) → Node Nat → Extract Datum
  | 0, node => do
    match ← d.follow node with
    | .scalar p plain text => Scalar.datum p.tag plain text
    | _ => throw .depth
  | depth + 1, node => do
    match ← d.follow node with
    | .scalar p plain text => Scalar.datum p.tag plain text
    | .sequence p items =>
      if Scalar.isLocal p.tag then throw .shape
      else pure (.list (← items.mapM fun item => datum d depth item))
    | .mapping p pairs =>
      if Scalar.isLocal p.tag then throw .shape
      else pure (.fields (← pairs.mapM fun (name, value) => do
        let name ← datum d depth name
        let value ← datum d depth value
        pure (name, value)))
    | .aliasTo _ => throw .unknownAlias

end Document

/-- Reads a text that holds one document, or none. -/
def parse (text : String) : Except Fault (Option Document) := do
  match ← readDocument (← tokens text.toList) with
  | none => pure none
  | some node =>
    let (root, _) ← (Node.number node).run []
    pure (some ⟨root, root.targets.reverse⟩)

end PostSlots.Yaml
