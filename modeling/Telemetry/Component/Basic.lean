import Telemetry.Component.Datagram
import Telemetry.Component.EventBus
import Telemetry.Component.HttpClient
import Telemetry.Component.HttpServer
import Telemetry.Component.Pool
import Telemetry.Component.Runtime

/-!
Components of any kind. Each measures under a base name.
-/

namespace Telemetry

variable [Pattern.Engine]

inductive Component
  | runtime (c : Component.Runtime)
  | eventBus (c : Component.EventBus)
  | tcp (c : Component.Tcp)
  | httpServer (c : Component.HttpServer)
  | httpClient (c : Component.HttpClient)
  | endpoint (c : Component.Endpoint)
  | datagram (c : Component.Datagram)
  | pool (c : Component.Pool)

namespace Component

def base : Component → MetricName
  | .runtime c => c.base
  | .eventBus c => c.base
  | .tcp c => c.base
  | .httpServer c => c.base
  | .httpClient c => c.base
  | .endpoint c => c.base
  | .datagram c => c.base
  | .pool c => c.base

/-- The measures of the sockets of a component that has them. -/
def sockets? : Component → Option Tcp
  | .tcp c => some c
  | .httpServer c => some c.tcp
  | .httpClient c => some c.tcp
  | _ => none

/-- Removes the metrics of a component, and tells how many there were. -/
def close (c : Component) (r : Registry) : Nat × Registry :=
  match c with
  | .runtime c => c.close r
  | .eventBus c => c.close r
  | .tcp c => c.close r
  | .httpServer c => c.close r
  | .httpClient c => c.close r
  | .endpoint c => c.close r
  | .datagram c => c.close r
  | .pool c => c.close r

end Component

end Telemetry
