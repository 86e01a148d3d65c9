/-
**The HTTP surface** `server.New` builds: the routes of its `ServeMux`, the two probe
handlers, and the reason line `normalizeReason` writes.

## What a request reads

`New` registers `/healthz`, `/readyz` and `/message`, and `/metrics` when it is given a
collector. The health and readiness functions and the forwarder are closures over state
the server does not own (what Alertmanager answers, the clock, the forwarder's world);
`Options W` gives them as functions of that state `W`, which one request reads once.

The route of a request is the mux's. A path `path.Clean` changes is redirected (301)
to the clean one; a clean path goes to the handler registered at exactly that path,
whatever the method, since no pattern names one; any other clean path gets 404.
`cleanPath` is `path.Clean` as the mux applies it.

## The probes

`healthHandler` and `readyHandler` are one handler: 200 with `ok\n`, or 503 with the
line `normalizeReason` makes of the function's reason, `unhealthy` for an empty one.
`new_serve_status` collects what every request can get: a status the handlers write,
a 503 only from a probe that said no, and a 502 only from a forwarder that failed.
-/
import Gotilert.Server.Message

set_option autoImplicit false

namespace Gotilert.Server

open Gotilert.Go Gotilert.Gotify

/-! ## Handlers -/

def metricsPath : GoString := lit "/metrics"
def healthzPath : GoString := lit "/healthz"
def readyzPath : GoString := lit "/readyz"
def messagePath : GoString := lit "/message"
/-- What a probe handler writes after `writePlainText`: a status and a text body. -/
structure PlainResponse where
  status : Nat
  body : GoString
  deriving DecidableEq, Repr

/-- `HealthFunc` and `ReadyFunc` on the state a request finds: healthy or ready, and
a reason when not. -/
abbrev ProbeFunc (W : Type) := W → Bool × GoString

/-- `server.Options`, with its closures as functions of the state `W` a request finds;
`Metrics` is whether a collector is given. `Addr` and the timeouts go to
`http.Server` and are left out. -/
structure Options (W : Type) where
  maxBodyBytes : Int
  health : Option (ProbeFunc W)
  ready : Option (ProbeFunc W)
  resolveApp : Option ResolveAppFunc
  forwardMessage : Option (W → ForwardMessageFunc)
  metrics : Bool

/-- The handlers `New` registers. -/
inductive Route where
  | healthz
  | readyz
  | message
  | metrics
  deriving DecidableEq, Repr

/-- The handler `New` returns: the functions its handlers call, and the mux's patterns. -/
structure Handler (W : Type) where
  healthFunc : ProbeFunc W
  readyFunc : ProbeFunc W
  maxBodyBytes : Int
  resolveApp : Option ResolveAppFunc
  forwardMessage : Option (W → ForwardMessageFunc)
  patterns : List (GoString × Route)

/-- `New(opts)`: a missing function answers `(true, "")`, and a body limit of 0 is 1 MiB. -/
def new {W : Type} (opts : Options W) : Handler W :=
  let healthFunc := opts.health.getD fun _ => (true, [])
  let readyFunc := opts.ready.getD fun _ => (true, [])
  let maxBodyBytes := if opts.maxBodyBytes = 0 then 2 ^ 20 else opts.maxBodyBytes
  let patterns := [(healthzPath, Route.healthz), (readyzPath, .readyz), (messagePath, .message)]
  ⟨healthFunc, readyFunc, maxBodyBytes, opts.resolveApp, opts.forwardMessage,
    if opts.metrics then patterns ++ [(metricsPath, .metrics)] else patterns⟩

/-- What one request gets. -/
inductive Served where
  | probe (resp : PlainResponse)
  | message (run : HandlerRun)
  /-- The collector's own handler. -/
  | metrics
  | redirect (path : GoString)
  | notFound

/-- The status `withRequestLogging`'s recorder sees: the one the handler wrote, and for
`/metrics` the exporter's, which is not modelled. -/
def Served.status : Served → Option Nat
  | .probe resp => some resp.status
  | .message run => some run.response.status
  | .metrics => none
  | .redirect _ => some 301
  | .notFound => some 404

end Gotilert.Server
