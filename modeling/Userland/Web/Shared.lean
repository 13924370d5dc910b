import Userland.Log.Entry
import Userland.Monitor.Metrics

namespace Userland

/-! # State a server shares across requests

Every request a server serves sees the same metrics, the same token buckets
of its rate limits and the same log. A request served beside others changes
them one step at a time, so this state lives wherever the requests' effects
live: beside a single run of requests, or in the machine the server runs on.
-/

namespace Web

/-- A token bucket of a rate limit, for one client or for all. -/
structure Bucket where
  /-- The number of the limit among the server's links. -/
  limit : Nat
  /-- The client it is for, empty for a limit shared by all. -/
  client : String
  /-- The tokens it holds, in billionths of a token. -/
  fill : Nat
  /-- When it was last filled, in nanoseconds of the clock. -/
  filledAt : Nat
  deriving Inhabited, Repr

/-- State shared by every request a server serves. -/
structure Shared where
  metrics : Monitor.Metrics
  buckets : List Bucket
  logs : Array LogEntry
  deriving Inhabited

/-- Fresh shared state. -/
def Shared.empty : Shared := ⟨Monitor.Metrics.new, [], #[]⟩

end Web

end Userland
