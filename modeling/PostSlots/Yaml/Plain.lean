import PostSlots.Yaml.Gap

/-!
# Plain scalars

A scalar without quotes goes on until a colon before a gap, a comment, a line that is not indented
enough, or inside brackets one of their signs.
-/

namespace PostSlots.Yaml.Plain

/-- The signs that end a scalar inside brackets. -/
def isFlowSign (c : Char) : Bool :=
  c == ',' || c == '[' || c == ']' || c == '\x7b' || c == '\x7d'

/-- The characters of a scalar up to the next gap. Inside brackets a colon must not stand right
before one of their signs. -/
def readRun (flow : Bool) : List Char → Except Fault (List Char × List Char)
  | [] => .ok ([], [])
  | c :: cs =>
    if atGap (c :: cs) || (c == ':' && atGap cs) || (flow && isFlowSign c) then .ok ([], c :: cs)
    else if flow && c == ':' && (cs.head?.map fun d => isFlowSign d || d == '?').getD false then
      .error .scalar
    else do
      let (run, rest) ← readRun flow cs
      pure (c :: run, rest)

/-- The text of a scalar, whether the gap behind it goes over lines, and what follows. -/
structure Result where
  text : List Char
  broken : Bool
  rest : List Char

/-- Reads further runs behind a gap. -/
def readRuns (flow : Bool) (indent : Nat) : (fuel : Nat) → List Char → Except Fault Result
  | 0, cs => .ok ⟨[], false, cs⟩
  | fuel + 1, cs =>
    if cs.isEmpty || !atGap cs then .ok ⟨[], false, cs⟩
    else do
      let (gap, cs) ← Gap.empty.extend indent cs
      let ends := (!flow && gap.broken && gap.column < indent) || cs.head? == some '#' ||
        (gap.endsLine && isDocumentMark cs)
      if ends then pure ⟨[], gap.broken, cs⟩
      else
        let (run, rest) ← readRun flow cs
        if run.isEmpty then pure ⟨[], gap.broken, rest⟩
        else
          let more ← readRuns flow indent fuel rest
          pure { more with text := gap.text ++ run ++ more.text }

/-- Reads a scalar whose further lines have at least `indent` blanks. -/
def read (flow : Bool) (indent : Nat) (cs : List Char) : Except Fault Result := do
  let (run, rest) ← readRun flow cs
  let more ← readRuns flow indent (rest.length + 1) rest
  pure { more with text := run ++ more.text }

end PostSlots.Yaml.Plain
