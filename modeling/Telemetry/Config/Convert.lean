import Telemetry.Config.Files
import Telemetry.Config.Key
import Telemetry.Name.Basic
import Telemetry.Rule.List

/-!
What the values of a configuration stand for.
-/

namespace Telemetry.Config

abbrev Result (α : Type) := Except ConfigError α

/-- Puts the cause of a failure into its place. -/
def within {α : Type} (place : ConfigError → ConfigError) : Result α → Result α
  | .ok a => .ok a
  | .error e => .error (place e)

def bool : Yaml → Result Bool
  | .string s =>
    match String.ofList (s.toList.map Numeral.lowerAscii) with
    | "on" | "true" | "yes" | "1" => .ok true
    | "off" | "false" | "no" | "0" => .ok false
    | _ => .error (.unknownBool s)
  | .bool b => .ok b
  | .int i => .ok (i != 0)
  | _ => .error .notBool

def text : Yaml → Result String
  | .string s => .ok s
  | .int i => .ok (toString i)
  | .real s => .ok s
  | _ => .error .notText

def elements {α : Type} (convert : Yaml → Result α) (index : Nat) : List Yaml → Result (List α)
  | [] => .ok []
  | v :: vs =>
    match within (.inElement index) (convert v) with
    | .error e => .error e
    | .ok a => (elements convert (index + 1) vs).map (a :: ·)

/-- A value that is no list counts as a list of one element. -/
def list {α : Type} (convert : Yaml → Result α) : Yaml → Result (List α)
  | .list vs => elements convert 0 vs
  | v => (within .inSingle (convert v)).map ([·])

def node : Yaml → Result Node
  | .string s => (Node.parse s).mapError .invalidNode
  | _ => .error .notNode

def name : Yaml → Result MetricName
  | .string s => (MetricName.parse s).mapError .invalidName
  | _ => .error .notName

/-- The path of a regular file that is there. -/
def filePath (fs : Files) (lookup : Option String) : Yaml → Result String
  | .string s =>
    if s = "" then .error .emptyPath
    else
      let path := lookup.elim s (Files.joinPath · s)
      match fs.find? path with
      | none => .error (.missingFile path)
      | some .directory => .error (.notRegularFile path)
      | some (.file _) => .ok path
  | _ => .error .notPath

/-- Goes through the entries of a map in their order, up to the first that fails. -/
def forEntries {σ : Type} (f : σ → String → Yaml → Result σ) :
    σ → List (Yaml × Yaml) → σ × Option ConfigError
  | s, [] => (s, none)
  | s, (.string k, v) :: rest =>
    match f s k v with
    | .ok s => forEntries f s rest
    | .error e => (s, some (.inKey k e))
  | s, _ :: _ => (s, some .keyNotText)

def foldEntries {σ : Type} (f : σ → String → Yaml → Result σ) (s : σ)
    (entries : List (Yaml × Yaml)) : Result σ :=
  match forEntries f s entries with
  | (s, none) => .ok s
  | (_, some e) => .error e

variable [Pattern.Engine]

/-- The parts of a rule that is written as a map. -/
structure RuleDraft where
  value : Option String
  type : MatchType
  nickname : Option Node

def RuleDraft.empty : RuleDraft := ⟨none, .equals, none⟩

def RuleDraft.set (d : RuleDraft) (key : String) (v : Yaml) : Result RuleDraft :=
  match Key.normalize key with
  | "exact" | "equals" => (text v).map fun s => { d with value := some s, type := .equals }
  | "regex" => (text v).map fun s => { d with value := some s, type := .regex }
  | "value" => (text v).map fun s => { d with value := some s }
  | "type" => (text v).bind fun s =>
    match MatchType.parse? s with
    | some t => .ok { d with type := t }
    | none => .error (.unknownMatchType s)
  | "alias" => (node v).map fun n => { d with nickname := some n }
  | _ => .error (.unknownKey key)

def RuleDraft.rule (d : RuleDraft) : Result MatchRule :=
  match d.value with
  | none => .error .noMatchValue
  | some value =>
    ((MatchRule.ofType d.type value).mapError .invalidRule).map (·.setNickname d.nickname)

/-- A text to compare with, or a map with the parts of a rule. -/
def rule : Yaml → Result MatchRule
  | .string s => .ok (.exact s)
  | .map entries => (foldEntries RuleDraft.set .empty entries).bind RuleDraft.rule
  | _ => .error .notRule

def rules (v : Yaml) : Result RuleList := within .inRuleList (list rule v)

end Telemetry.Config
