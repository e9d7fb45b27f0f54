import Pintle.Go.Values

/-!
# Provider messages

Model of `internal/provider/provider.go`: the records the providers send to the aggregator. All
fields are kept except the JSON and YAML names.
-/

namespace Pintle
open Go

/-- An active probe of a static pool (Go `HealthCheck`). -/
structure HealthCheck where
  path : GoString
  intervalSeconds : Int
  timeoutSeconds : Int
  deriving DecidableEq, Repr

/-- An HTTP route (Go `Route`). A nil `Health` is `none`. -/
structure Route where
  hostname : GoString
  isRegexp : Bool := false
  path : GoString
  target : GoString
  backendPool : GoString := []
  health : Option HealthCheck := none
  stripPath : Bool := false
  h2c : Bool := false
  source : GoString := []
  containerName : GoString := []
  deriving DecidableEq, Repr

/-- A TCP route (Go `TcpRoute`). -/
structure TcpRoute where
  hostname : GoString
  targetHost : GoString
  targetPort : Int
  listenPort : Int
  source : GoString := []
  containerName : GoString := []
  deriving DecidableEq, Repr

/-- A domain forwarded without termination (Go `PassthroughDomain`). -/
structure PassthroughDomain where
  domain : GoString
  target : GoString
  deriving DecidableEq, Repr

/-- A hostname this machine is supposed to serve (Go `ExpectedHost`). -/
structure ExpectedHost where
  host : GoString
  why : GoString := []
  project : GoString := []
  deriving DecidableEq, Repr

/-- One provider update (Go `Message`). The error is kept as its text. -/
structure Message where
  providerName : GoString
  err : Option GoString := none
  routes : List Route := []
  tcpRoutes : List TcpRoute := []
  passthrough : List PassthroughDomain := []
  expected : List ExpectedHost := []
  deriving DecidableEq, Repr

end Pintle
