import PostSlots.Yaml.Tag

/-!
# Tokens of YAML

Indentation has become explicit: block collections have tokens at their start and at their end.
-/

namespace PostSlots.Yaml

inductive Token where
  | directive (d : Directive)
  | documentStart
  | documentEnd
  | blockSequenceStart
  | blockMappingStart
  | blockEnd
  | flowSequenceStart
  | flowSequenceEnd
  | flowMappingStart
  | flowMappingEnd
  | blockEntry
  | flowEntry
  | key
  | value
  | aliasTo (name : String)
  | anchor (name : String)
  | tag (t : RawTag)
  | scalar (plain : Bool) (text : String)
deriving DecidableEq

end PostSlots.Yaml
