import Telemetry.Config.Options
import Telemetry.Registry.Basic

/-!
All registries of a program, some of them shared under a name, and the contexts that measure into
them. A registry outlives its shared name: a context that has it keeps it.
-/

namespace Telemetry

/-- The identity of a registry. -/
abbrev RegistryId := Nat

structure Registries where
  all : Array Registry
  shared : Table String RegistryId

namespace Registries

def empty : Registries := ⟨#[], .empty⟩

def get? (rs : Registries) (id : RegistryId) : Option Registry := rs.all[id]?

def modify (rs : Registries) (id : RegistryId) (f : Registry → Registry) : Registries :=
  { rs with all := rs.all.modify id f }

/-- Adds a registry that is not shared. -/
def add (rs : Registries) (r : Registry) : RegistryId × Registries :=
  (rs.all.size, { rs with all := rs.all.push r })

/-- A registry whose clock starts now. -/
def addNew (rs : Registries) : RegistryId × Registries := rs.add (.withClock (.startingAt 0))

def shared? (rs : Registries) (name : String) : Option RegistryId := rs.shared.find? name

def getOrCreate (rs : Registries) (name : String) : RegistryId × Registries :=
  match rs.shared? name with
  | some id => (id, rs)
  | none =>
    let (id, rs) := rs.addNew
    (id, { rs with shared := rs.shared.insert name id })

/-- Ends the sharing under a name, and tells which registry it was. -/
def remove (rs : Registries) (name : String) : Option RegistryId × Registries :=
  (rs.shared? name, { rs with shared := rs.shared.erase name })

def sharedNames (rs : Registries) : List String := rs.shared.keys

end Registries

variable [Pattern.Engine]

/-- What the components of a program measure with. -/
structure Context where
  options : MeasureOptions
  registry : RegistryId

namespace Context

/-- There is no context if nothing is to be measured. -/
def withRegistry (o : MeasureOptions) (id : RegistryId) : Option Context :=
  if o.enabled then some ⟨o, id⟩ else none

/-- A context with a registry of its own. -/
def new (o : MeasureOptions) (rs : Registries) : Option Context × Registries :=
  if o.enabled then
    let (id, rs) := rs.addNew
    (withRegistry o id, rs)
  else (none, rs)

/-- A context with the shared registry that the options name, or else with one of its own. -/
def withShared (o : MeasureOptions) (rs : Registries) : Option Context × Registries :=
  match o.enabled, o.registryName with
  | true, some name =>
    let (id, rs) := rs.getOrCreate name
    (withRegistry o id, rs)
  | _, _ => new o rs

end Context

end Telemetry
