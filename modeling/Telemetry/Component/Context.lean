import Telemetry.Component.Site
import Telemetry.Registry.Shared

/-!
What a context measures. Its components are named below the base name of its options, and their rules
are those of its options.
-/

namespace Telemetry.Context

variable [Pattern.Engine]

/-- What can be measured, but for the rules by which it is done. -/
inductive Subject
  | runtime (eventLoops workers : Nat)
  | eventBus
  | netServer (host : String) (port : Nat)
  | netClient (id? : Option String)
  | httpServer (host : String) (port : Nat)
  | httpClient (id? : Option String) (maxPoolSize : Nat)
  | datagram
  | pool (type name : String) (maxSize : Nat)

def plan (c : Context) : Subject → Plan
  | .runtime eventLoops workers => .runtime eventLoops workers
  | .eventBus => .eventBus c.options.eventBusHandlers
  | .netServer host port => .netServer host port
  | .netClient id? => .netClient id?
  | .httpServer host port => .httpServer host port c.options.httpServerUris
  | .httpClient id? maxPoolSize =>
    .httpClient id? maxPoolSize c.options.httpClientUris c.options.httpClientEndpoints
  | .datagram => .datagram
  | .pool type name maxSize => .pool type name maxSize

def build (c : Context) (s : Subject) : Setup Component := (c.plan s).build c.options.baseName

end Telemetry.Context
