import Telemetry.Rule.Basic

/-!
Why a configuration is refused: a cause, and the places around it from the innermost out.
-/

namespace Telemetry

inductive ConfigError
  | malformed
  | keyNotText
  | notBool
  | unknownBool (text : String)
  | notText
  | notNode
  | invalidNode (cause : NameError)
  | notName
  | invalidName (cause : NameError)
  | notPath
  | emptyPath
  | missingFile (path : String)
  | notRegularFile (path : String)
  | unreadableFile (path : String)
  | fileNotMap (path : String)
  | notRule
  | noMatchValue
  | unknownMatchType (text : String)
  | invalidRule (cause : RuleError)
  | unknownKey (key : String)
  | notOptions
  | nestedFile (key : String)
  | inKey (key : String) (cause : ConfigError)
  | inElement (index : Nat) (cause : ConfigError)
  | inSingle (cause : ConfigError)
  | inRuleList (cause : ConfigError)
  | inValue (kind key : String) (cause : ConfigError)
  | inYamlFile (path : String) (cause : ConfigError)
  | inConfigFile (path : String) (cause : ConfigError)
deriving DecidableEq, Repr

namespace ConfigError

def message : ConfigError → String
  | .malformed => "invalid yaml content: malformed document"
  | .keyNotText => "key in hash should be string"
  | .notBool => "yaml value type for 'bool' should be 'boolean' / 'string' / 'integer'"
  | .unknownBool s => "invalid yaml string value for 'bool': " ++ s
  | .notText => "yaml value type for string should be 'string' / 'integer' / 'real'"
  | .notNode => "yaml value type for 'metric node name' should be 'string'"
  | .invalidNode e => "invalid metric node name: " ++ e.message
  | .notName => "yaml value type for 'metric name' should be 'string'"
  | .invalidName e => "invalid metric name: " ++ e.message
  | .notPath => "yaml value type for path should be string"
  | .emptyPath => "empty path"
  | .missingFile p => "path " ++ p ++ " is not existed"
  | .notRegularFile p => "the path " ++ p ++ " is existed but not a regular file"
  | .unreadableFile p => "failed to read file " ++ p ++ ": not a text file"
  | .fileNotMap p => "the metrics config file " ++ p ++ " should contain a map"
  | .notRule => "yaml value type for 'match rule' should be 'string' or 'map'"
  | .noMatchValue => "no match value set"
  | .unknownMatchType s => "invalid match type " ++ s
  | .invalidRule e => "invalid match rule: " ++ e.message
  | .unknownKey k => "invalid key " ++ k
  | .notOptions => "yaml value type for 'metrics options' should be 'map'"
  | .nestedFile k => "nested config file is not allowed, found key " ++ k
  | .inKey k _ => "failed to parse value of key " ++ k
  | .inElement i _ => "invalid value for list element #" ++ toString i
  | .inSingle _ => "invalid single value for the list"
  | .inRuleList _ => "invalid match rule list"
  | .inValue kind k _ => "invalid " ++ kind ++ " value for key " ++ k
  | .inYamlFile p _ => "invalid yaml file " ++ p
  | .inConfigFile p _ => "invalid metrics config file " ++ p

/-- The messages from the outermost place to the cause. -/
def chain : ConfigError → List String
  | e@(.inKey _ c) | e@(.inElement _ c) | e@(.inSingle c) | e@(.inRuleList c)
  | e@(.inValue _ _ c) | e@(.inYamlFile _ c) | e@(.inConfigFile _ c) => e.message :: chain c
  | e => [e.message]

end ConfigError

end Telemetry
