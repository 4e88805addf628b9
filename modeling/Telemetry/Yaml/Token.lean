/-!
The tokens of a YAML text. Where the indentation opens or closes a block there is a token for it,
and before a key that no mark announces there is one too.
-/

namespace Telemetry.Yaml

inductive Token
  | versionDirective
  | tagDirective (handle replacement : String)
  | documentStart
  | documentEnd
  | blockSequenceStart
  | blockMappingStart
  | blockEnd
  | flowSequenceStart
  | flowSequenceEnd
  | flowMappingStart
  | flowMappingEnd
  | blockEntry
  | flowEntry
  | key
  | value
  | reference (name : String)
  | anchor (name : String)
  | tag (handle suffix : String)
  | scalar (plain : Bool) (text : String)
deriving DecidableEq, Repr

end Telemetry.Yaml
