import PostSlots.Yaml.Token

/-!
# Nodes of YAML

A document is a tree of nodes. Anchors give nodes names, and an alias stands for the node that its
name was given to; the names are of a type of their own, so that they can be replaced by numbers.
-/

namespace PostSlots.Yaml

/-- What may stand in front of a node. A tag is in its full form here. -/
structure Properties (ν : Type) where
  anchor : Option ν
  tag : Option String
deriving DecidableEq

inductive Node (ν : Type) where
  | aliasTo (name : ν)
  | scalar (p : Properties ν) (plain : Bool) (text : String)
  | sequence (p : Properties ν) (items : List (Node ν))
  | mapping (p : Properties ν) (pairs : List (Node ν × Node ν))

namespace Node

variable {ν : Type}

instance : Inhabited (Node ν) := ⟨scalar ⟨none, none⟩ true ""⟩

/-- The node that stands where nothing is written. -/
def blank : Node ν := scalar ⟨none, none⟩ true ""

/-- Handles and what they stand for. -/
abbrev Handles := List (String × String)

/-- The handles that need no directive. -/
def standardHandles : Handles := [("!", "!"), ("!!", "tag:yaml.org,2002:")]

/-- The full form of a tag. -/
def fullTag? (handles : Handles) (t : RawTag) : Option String :=
  if t.handle.isEmpty then some t.suffix
  else (handles.lookup t.handle).map fun expansion => expansion ++ t.suffix

/-- The full form of a tag, if one is written. -/
def tagOf (handles : Handles) : Option RawTag → Except Fault (Option String)
  | none => .ok none
  | some t =>
    match fullTag? handles t with
    | some tag => .ok (some tag)
    | none => .error .tag

/-- Reads an anchor and a tag in any order. -/
def readProperties (handles : Handles) (ts : List Token) :
    Except Fault (Properties String × List Token) :=
  let (anchor, tag, rest) : Option String × Option RawTag × List Token :=
    match ts with
    | .anchor name :: .tag t :: rest => (some name, some t, rest)
    | .tag t :: .anchor name :: rest => (some name, some t, rest)
    | .anchor name :: rest => (some name, none, rest)
    | .tag t :: rest => (none, some t, rest)
    | rest => (none, none, rest)
  (tagOf handles tag).map fun tag => (⟨anchor, tag⟩, rest)

/-- A scalar with its properties. The tag `!` alone leaves a scalar without one. -/
def scalarOf (p : Properties String) (plain : Bool) (text : String) : Node String :=
  let tag := if p.tag == some "!" then none else p.tag
  scalar { p with tag := tag } plain text

/-- Tokens before which a block's entry is empty. -/
def endsEntry : List Token → Bool
  | .blockEntry :: _ | .blockEnd :: _ => true
  | _ => false

/-- Tokens before which a key or a value in a block is empty. -/
def endsBlockPart : List Token → Bool
  | .key :: _ | .value :: _ | .blockEnd :: _ => true
  | _ => false

/-- Tokens before which a key or a value in braces is empty. -/
def endsFlowPart : List Token → Bool
  | .flowEntry :: _ | .flowMappingEnd :: _ => true
  | _ => false

/-- A node without content needs properties. -/
def readEmpty (p : Properties String) (ts : List Token) :
    Except Fault (Node String × List Token) :=
  if p.anchor.isSome || p.tag.isSome then .ok (scalar p true "", ts) else .error .structural

mutual
/-- Reads a node. In a block it may be a block collection, and behind a key of a block also a
sequence that is not indented. -/
def read (handles : Handles) (block dense : Bool) : (fuel : Nat) → List Token →
    Except Fault (Node String × List Token)
  | 0, _ => .error .structural
  | _ + 1, .aliasTo name :: ts => .ok (aliasTo name, ts)
  | fuel + 1, ts => do
    let (p, ts) ← readProperties handles ts
    match ts with
    | .scalar plain text :: ts => pure (scalarOf p plain text, ts)
    | .flowSequenceStart :: ts =>
      let (items, ts) ← readFlowItems handles true fuel ts
      pure (sequence p items, ts)
    | .flowMappingStart :: ts =>
      let (pairs, ts) ← readFlowPairs handles true fuel ts
      pure (mapping p pairs, ts)
    | .blockEntry :: _ =>
      if dense then
        let (items, ts) ← readDense handles fuel ts
        pure (sequence p items, ts)
      else readEmpty p ts
    | .blockSequenceStart :: rest =>
      if block then
        let (items, ts) ← readEntries handles fuel rest
        pure (sequence p items, ts)
      else readEmpty p ts
    | .blockMappingStart :: rest =>
      if block then
        let (pairs, ts) ← readPairs handles fuel rest
        pure (mapping p pairs, ts)
      else readEmpty p ts
    | ts => readEmpty p ts

/-- Reads the entries of a block sequence. -/
def readEntries (handles : Handles) : (fuel : Nat) → List Token →
    Except Fault (List (Node String) × List Token)
  | 0, _ => .error .structural
  | _ + 1, .blockEnd :: ts => .ok ([], ts)
  | fuel + 1, .blockEntry :: ts => do
    let (item, ts) ←
      if endsEntry ts then pure (blank, ts) else read handles true false fuel ts
    let (items, ts) ← readEntries handles fuel ts
    pure (item :: items, ts)
  | _ + 1, _ => .error .structural

/-- Reads the entries of a sequence that is not indented. -/
def readDense (handles : Handles) : (fuel : Nat) → List Token →
    Except Fault (List (Node String) × List Token)
  | 0, _ => .error .structural
  | fuel + 1, .blockEntry :: ts => do
    let (item, ts) ←
      if endsEntry ts || endsBlockPart ts then pure (blank, ts)
      else read handles true false fuel ts
    let (items, ts) ← readDense handles fuel ts
    pure (item :: items, ts)
  | _ + 1, ts => .ok ([], ts)

/-- Reads the pairs of a block mapping. -/
def readPairs (handles : Handles) : (fuel : Nat) → List Token →
    Except Fault (List (Node String × Node String) × List Token)
  | 0, _ => .error .structural
  | _ + 1, .blockEnd :: ts => .ok ([], ts)
  | fuel + 1, .key :: ts => do
    let (name, ts) ← if endsBlockPart ts then pure (blank, ts) else read handles true true fuel ts
    let (value, ts) ← readBlockValue handles fuel ts
    let (pairs, ts) ← readPairs handles fuel ts
    pure ((name, value) :: pairs, ts)
  | _ + 1, _ => .error .structural

/-- Reads what stands behind the colon of a block mapping, if there is one. -/
def readBlockValue (handles : Handles) : (fuel : Nat) → List Token →
    Except Fault (Node String × List Token)
  | 0, _ => .error .structural
  | fuel + 1, .value :: ts =>
    if endsBlockPart ts then .ok (blank, ts) else read handles true true fuel ts
  | _ + 1, ts => .ok (blank, ts)

/-- Reads the items in brackets. An item may be a single pair. -/
def readFlowItems (handles : Handles) (first : Bool) : (fuel : Nat) → List Token →
    Except Fault (List (Node String) × List Token)
  | 0, _ => .error .structural
  | _ + 1, .flowSequenceEnd :: ts => .ok ([], ts)
  | fuel + 1, ts => do
    let ts ← match first, ts with
      | true, ts => pure ts
      | false, .flowEntry :: ts => pure ts
      | false, _ => throw .structural
    match ts with
    | .flowSequenceEnd :: ts => pure ([], ts)
    | .key :: ts =>
      let (pair, ts) ← readSinglePair handles fuel ts
      let (items, ts) ← readFlowItems handles false fuel ts
      pure (mapping ⟨none, none⟩ [pair] :: items, ts)
    | ts =>
      let (item, ts) ← read handles false false fuel ts
      let (items, ts) ← readFlowItems handles false fuel ts
      pure (item :: items, ts)

/-- Reads a pair that stands in brackets without braces. An empty key takes the token behind it
along, so that no value can follow. -/
def readSinglePair (handles : Handles) : (fuel : Nat) → List Token →
    Except Fault ((Node String × Node String) × List Token)
  | 0, _ => .error .structural
  | fuel + 1, ts => do
    let (name, ts) ← match ts with
      | .value :: ts | .flowEntry :: ts | .flowSequenceEnd :: ts => pure (blank, ts)
      | ts => read handles false false fuel ts
    match ts with
    | .value :: .flowEntry :: ts => pure ((name, blank), .flowEntry :: ts)
    | .value :: .flowSequenceEnd :: ts => pure ((name, blank), .flowSequenceEnd :: ts)
    | .value :: ts =>
      let (value, ts) ← read handles false false fuel ts
      pure ((name, value), ts)
    | ts => pure ((name, blank), ts)

/-- Reads the pairs in braces. A key may stand alone. -/
def readFlowPairs (handles : Handles) (first : Bool) : (fuel : Nat) → List Token →
    Except Fault (List (Node String × Node String) × List Token)
  | 0, _ => .error .structural
  | _ + 1, .flowMappingEnd :: ts => .ok ([], ts)
  | fuel + 1, ts => do
    let ts ← match first, ts with
      | true, ts => pure ts
      | false, .flowEntry :: ts => pure ts
      | false, _ => throw .structural
    match ts with
    | .flowMappingEnd :: ts => pure ([], ts)
    | .key :: ts =>
      let (name, ts) ← match ts with
        | .value :: rest => pure (blank, .value :: rest)
        | ts => if endsFlowPart ts then pure (blank, ts) else read handles false false fuel ts
      let (value, ts) ← readFlowValue handles fuel ts
      let (pairs, ts) ← readFlowPairs handles false fuel ts
      pure ((name, value) :: pairs, ts)
    | ts =>
      let (name, ts) ← read handles false false fuel ts
      let (pairs, ts) ← readFlowPairs handles false fuel ts
      pure ((name, blank) :: pairs, ts)

/-- Reads what stands behind the colon in braces, if there is one. -/
def readFlowValue (handles : Handles) : (fuel : Nat) → List Token →
    Except Fault (Node String × List Token)
  | 0, _ => .error .structural
  | fuel + 1, .value :: ts =>
    if endsFlowPart ts then .ok (blank, ts) else read handles false false fuel ts
  | _ + 1, ts => .ok (blank, ts)
end

end Node

/-! ## Documents -/

/-- Reads directives: handles, and at most one version, which must be known. -/
def readDirectives (handles : Node.Handles) (versioned : Bool) :
    List Token → Except Fault (Node.Handles × List Token)
  | .directive (.version major minor) :: ts =>
    if versioned || major ≠ 1 || (minor ≠ 1 && minor ≠ 2) then .error .directive
    else readDirectives handles true ts
  | .directive (.tag handle expansion) :: ts =>
    if (handles.lookup handle).isSome then .error .directive
    else readDirectives (handles ++ [(handle, expansion)]) versioned ts
  | ts => .ok (handles, ts)

/-- Reads what stands behind a document's start. -/
def readContent (handles : Node.Handles) (ts : List Token) :
    Except Fault (Node String × List Token) :=
  match ts with
  | [] | .directive _ :: _ | .documentStart :: _ | .documentEnd :: _ => .ok (Node.blank, ts)
  | ts => Node.read handles true false (2 * ts.length + 2) ts

/-- Whether only ends of documents are left. -/
def atEnd (ts : List Token) : Bool :=
  ts.all (· == .documentEnd)

/-- Reads tokens that hold one document, or none. -/
def readDocument (ts : List Token) : Except Fault (Option (Node String)) := do
  match ts with
  | [] => pure none
  | .directive _ :: _ | .documentStart :: _ =>
    let (handles, ts) ← readDirectives [] false ts
    match ts with
    | .documentStart :: ts =>
      let (node, ts) ← readContent (handles ++ Node.standardHandles) ts
      if atEnd ts then pure (some node) else throw .documents
    | _ => throw .directive
  | ts =>
    let (node, ts) ← Node.read Node.standardHandles true false (2 * ts.length + 2) ts
    if atEnd ts then pure (some node) else throw .documents

end PostSlots.Yaml
