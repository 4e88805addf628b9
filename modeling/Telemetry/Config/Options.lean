import Telemetry.Config.Convert

/-!
The options of the metrics: whether anything is measured, under which base name, in which shared
registry, and which dynamic values are monitored.
-/

namespace Telemetry

variable [Pattern.Engine]

structure MeasureOptions where
  enabled : Bool
  registryName : Option String
  jmxEnabled : Bool
  jmxDomain : Option String
  configPath : Option String
  baseName : MetricName
  eventBusHandlers : RuleList
  httpServerUris : RuleList
  httpClientUris : RuleList
  httpClientEndpoints : RuleList
deriving DecidableEq

namespace MeasureOptions

def defaultBaseName : MetricName := .ofNode (Node.escape "vertx")

def default : MeasureOptions :=
  ⟨false, none, false, none, none, defaultBaseName, [], [], [], []⟩

/-- The options, each of which may have more than one key. -/
inductive Field
  | enabled
  | registryName
  | jmxEnabled
  | jmxDomain
  | configPath
  | baseName
  | eventBusHandlers
  | httpServerUris
  | httpClientUris
  | httpClientEndpoints
deriving DecidableEq, Repr

def Field.ofKey? (key : String) : Option Field :=
  match Config.Key.normalize key with
  | "enabled" | "enable" => some .enabled
  | "registry_name" | "registry" => some .registryName
  | "jmx_enabled" => some .jmxEnabled
  | "jmx_domain" => some .jmxDomain
  | "config_path" | "config_file" => some .configPath
  | "base_name" => some .baseName
  | "monitored_event_bus_handlers" | "monitored_handlers" => some .eventBusHandlers
  | "monitored_http_server_uris" | "monitored_server_uris" => some .httpServerUris
  | "monitored_http_client_uris" | "monitored_client_uris" => some .httpClientUris
  | "monitored_http_client_endpoints" | "monitored_endpoints" => some .httpClientEndpoints
  | _ => none

open Config in
def setField (fs : Files) (lookup : Option String) (o : MeasureOptions) (field : Field)
    (key : String) (v : Yaml) : Result MeasureOptions :=
  let bool := within (.inValue "bool" key) (bool v)
  let text := within (.inValue "string" key) (text v)
  let rules := within (.inValue "match rules" key) (rules v)
  match field with
  | .enabled => bool.map fun b => { o with enabled := b }
  | .registryName => text.map fun s => { o with registryName := some s }
  | .jmxEnabled => bool.map fun b => { o with jmxEnabled := b }
  | .jmxDomain => text.map fun s => { o with jmxDomain := some s }
  | .configPath =>
    (within (.inValue "file path" key) (filePath fs lookup v)).map fun p =>
      { o with configPath := some p }
  | .baseName =>
    (within (.inValue "metric name" key) (name v)).map fun n => { o with baseName := n }
  | .eventBusHandlers => rules.map fun rs => { o with eventBusHandlers := rs }
  | .httpServerUris => rules.map fun rs => { o with httpServerUris := rs }
  | .httpClientUris => rules.map fun rs => { o with httpClientUris := rs }
  | .httpClientEndpoints => rules.map fun rs => { o with httpClientEndpoints := rs }

/-- Sets the option that a key names. -/
def setKey (fs : Files) (lookup : Option String) (o : MeasureOptions) (key : String) (v : Yaml) :
    Config.Result MeasureOptions :=
  match Field.ofKey? key with
  | some field => o.setField fs lookup field key v
  | none => .error (.unknownKey key)

def parse (fs : Files) (lookup : Option String) : Yaml → Config.Result MeasureOptions
  | .map entries => Config.foldEntries (setKey fs lookup) default entries
  | _ => .error .notOptions

/-- Sets an option from a configuration file, which may not name another one. -/
def setFileKey (fs : Files) (o : MeasureOptions) (key : String) (v : Yaml) :
    Config.Result MeasureOptions :=
  if Field.ofKey? key = some .configPath then .error (.nestedFile key)
  else o.setKey fs none key v

/-- Options in the file take the place of those that are set already. -/
def mergeFile (fs : Files) (o : MeasureOptions) (path : String) : Config.Result MeasureOptions :=
  match fs.load path with
  | .error e => .error e
  | .ok (.map entries) =>
    Config.within (.inConfigFile path) (Config.foldEntries (setFileKey fs) o entries)
  | .ok .null => .ok o
  | .ok _ => .error (.fileNotMap path)

/-- Reads the options, then those in the configuration file that they name. -/
def load (fs : Files) (lookup : Option String) (v : Yaml) : Config.Result MeasureOptions :=
  match parse fs lookup v with
  | .error e => .error e
  | .ok o => o.configPath.elim (.ok o) (o.mergeFile fs)

end MeasureOptions

end Telemetry
