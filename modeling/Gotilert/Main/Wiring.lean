/-
**What `main.go` wires around the endpoint**: the delivery client
`newAlertmanagerClient` builds from the configuration, and the deadline
`withBoundedTimeout` puts on each forwarding.

## The client

`newAlertmanagerClient` copies the `alertmanager` section into `alertmanager.Options`
and calls `New`, which parses the trimmed URL again and trims the credentials. The
configuration it gets has passed `Validate`, which parsed the untrimmed URL; the one
thing asked of Go's `url.Parse` is `ParsesTrimmed`, that it also accepts such a URL
without surrounding space. `newAlertmanagerClient_validated` then says the client is
always built, and that the `Authorization` header `applyAuth` sends is the configured
credentials and nothing else.

## The deadline

`withBoundedTimeout` returns the parent's context unchanged in deadline when the
parent's own deadline is already within the timeout, and `context.WithTimeout`
otherwise. The two clock readings it makes, `time.Until`'s and `WithTimeout`'s, are
the arguments `now₁ ≤ now₂`. `withBoundedTimeout_deadline` shows the shortcut is only a
shortcut: the deadline is always the one `WithTimeout` would set at `now₂`, the earlier
of the parent's and `now₂ + timeout`, for every timeout short of the largest
`time.Duration`, where the saturation of `time.Until` can make the two differ.
-/
import Gotilert.Main.Concurrent
import Gotilert.Server.Http
import Gotilert.Go.Context

set_option autoImplicit false

namespace Gotilert.Main

open Gotilert.Go Gotilert.Gotify Gotilert.Alertmanager Gotilert.Config Gotilert.Server

/-! ## `newAlertmanagerClient` -/

/-- `url.Parse` as `alertmanager.New` reads it: the error, if any. -/
def parseError (urlParse : GoString → Except ForeignError ParsedURL) (u : GoString) : Option ForeignError :=
  match urlParse u with
  | .error err => some err
  | .ok _ => none

/-- The credentials `newAlertmanagerClient` passes on: the basic-auth pair when the
section has one, and the bearer token in any case. -/
def alertmanagerAuth (am : AlertmanagerConfig) : Auth :=
  match am.basicAuth with
  | some basic => ⟨basic.username, basic.password, am.bearer⟩
  | none => ⟨[], [], am.bearer⟩

/-- `newAlertmanagerClient(cfg)`; `urlParse` is Go's `url.Parse`. -/
def newAlertmanagerClient (urlParse : GoString → Except ForeignError ParsedURL) (cfg : Config) :
    Except GoError Client :=
  match Alertmanager.new (parseError urlParse) (some ⟨cfg.alertmanager.url, cfg.alertmanager.timeout,
      cfg.alertmanager.insecureSkipVerify, alertmanagerAuth cfg.alertmanager⟩) with
  | .error err => .error (GoError.wrap err)
  | .ok client => .ok client

/-- What `newAlertmanagerClient` needs of `url.Parse`: a URL it accepts with an `http` or
`https` scheme and a host, it also accepts without surrounding space. Go's parser has
it: such a URL cannot start with a space, which would leave it with no scheme, and can
end in spaces only in its path, query or fragment, which parse as well without them. -/
def ParsesTrimmed (urlParse : GoString → Except ForeignError ParsedURL) : Prop :=
  ∀ u parsed, urlParse u = .ok parsed → (parsed.scheme = lit "http" ∨ parsed.scheme = lit "https") →
    trimSpace parsed.host ≠ [] → ∃ parsed', urlParse (trimSpace u) = .ok parsed'

/-- The header the configuration asks for: basic auth when it is set, else a bearer
token when one is given, each trimmed. -/
def configuredAuth (am : AlertmanagerConfig) : AuthHeader :=
  match am.basicAuth with
  | some basic => .basic (trimSpace basic.username) (trimSpace basic.password)
  | none => if trimSpace am.bearer ≠ [] then .bearer (trimSpace am.bearer) else .none

/-- The client `New` builds from an `alertmanager` section it accepts. -/
def clientOf (am : AlertmanagerConfig) : Client where
  baseURL := trimSpace am.url
  timeout := if am.timeout = 0 then defaultHTTPTimeout else am.timeout
  insecureSkipVerify := am.insecureSkipVerify
  auth := normalizeAuth (alertmanagerAuth am)
  retryMaxAttempts := defaultRetryMaxAttempts
  retryInitial := defaultRetryInitial
  retryMaxBackoff := defaultRetryMaxBackoff

section Validated

variable {t : LowerCaseTable} {urlParse : GoString → Except ForeignError ParsedURL} {orders : MapOrders}
  {cfg cfg' : Config}

/-- A validated configuration gets its client. -/
theorem newAlertmanagerClient_of_validate (hparse : ParsesTrimmed urlParse)
    (hv : validate t urlParse orders cfg = .ok cfg') :
    newAlertmanagerClient urlParse cfg' = .ok (clientOf cfg.alertmanager) := by
  obtain ⟨-, -, ham, -, -, -, -, rfl⟩ := validate_eq_ok hv
  obtain ⟨hurl, ⟨parsed, hp, hscheme, hhost⟩, -⟩ := validateAlertmanager_eq_none.mp ham
  obtain ⟨parsed', hp'⟩ := hparse _ parsed hp hscheme hhost
  have hnone : parseError urlParse (trimSpace cfg.alertmanager.url) = none := by rw [parseError, hp']
  simp only [newAlertmanagerClient, Alertmanager.new, if_neg hurl, hnone]
  rfl

end Validated

/-- **The delivery client of a validated configuration**, for every configuration
`Validate` accepts and every order of its loops: `newAlertmanagerClient` succeeds, with
the trimmed URL, the configured timeout (5 s for 0, so always positive) and the retry
defaults; and every request it sends carries exactly the configured credentials,
trimmed, never an empty one and never both kinds. -/
theorem newAlertmanagerClient_validated (t : LowerCaseTable) (urlParse : GoString → Except ForeignError ParsedURL)
    (hparse : ParsesTrimmed urlParse) (orders : MapOrders) {cfg cfg' : Config}
    (hv : validate t urlParse orders cfg = .ok cfg') :
    ∃ client, newAlertmanagerClient urlParse cfg' = .ok client ∧
      client.baseURL = trimSpace cfg.alertmanager.url ∧
      client.timeout = (if cfg.alertmanager.timeout = 0 then defaultHTTPTimeout else cfg.alertmanager.timeout) ∧
      0 < client.timeout ∧
      client.retryMaxAttempts = defaultRetryMaxAttempts ∧ client.retryInitial = defaultRetryInitial ∧
      client.retryMaxBackoff = defaultRetryMaxBackoff ∧
      client.applyAuth = configuredAuth cfg.alertmanager ∧
      ∀ user password, client.applyAuth = .basic user password → user ≠ [] ∧ password ≠ [] := by
  obtain ⟨-, -, ham, -⟩ := validate_eq_ok hv
  obtain ⟨-, -, hbasic, htimeout⟩ := validateAlertmanager_eq_none.mp ham
  refine ⟨_, newAlertmanagerClient_of_validate hparse hv, rfl, rfl, ?_, rfl, rfl, rfl, ?_⟩
  · dsimp only [clientOf]
    split_ifs with h0
    · decide
    · omega
  unfold Client.applyAuth
  cases hb : cfg.alertmanager.basicAuth with
  | none =>
    simp only [clientOf, normalizeAuth, alertmanagerAuth, configuredAuth, hb, trimSpace_nil, ne_eq,
      not_true_eq_false, or_self, if_false, true_and]
    intro user password h
    split_ifs at h
  | some basic =>
    obtain ⟨huser, hpass, hbearer⟩ := hbasic basic hb
    simp only [clientOf, normalizeAuth, alertmanagerAuth, configuredAuth, hb, hbearer, ne_eq,
      not_true_eq_false, if_false, huser, not_false_eq_true, true_or, if_true, true_and]
    rintro user password ⟨⟩
    exact ⟨huser, hpass⟩

/-- `sampleConfig` sends no credentials: its client is built with the default timeout
and sends no `Authorization` header. -/
theorem sampleConfig_client :
    ParsesTrimmed (fun _ => .ok ⟨lit "http", lit "am:9093"⟩) ∧
    validate asciiOnlyLowerCase (fun _ => .ok ⟨lit "http", lit "am:9093"⟩) ⟨.ofKeys, .ofKeys⟩ sampleConfig =
      .ok { sampleConfig with defaults := { sampleConfig.defaults with alertName := defaultAlertName } } ∧
    ∃ client, newAlertmanagerClient (fun _ => .ok ⟨lit "http", lit "am:9093"⟩)
        { sampleConfig with defaults := { sampleConfig.defaults with alertName := defaultAlertName } } = .ok client ∧
      client.baseURL = trimSpace sampleConfig.alertmanager.url ∧
      client.timeout = (if sampleConfig.alertmanager.timeout = 0 then defaultHTTPTimeout
        else sampleConfig.alertmanager.timeout) ∧
      0 < client.timeout ∧
      client.retryMaxAttempts = defaultRetryMaxAttempts ∧ client.retryInitial = defaultRetryInitial ∧
      client.retryMaxBackoff = defaultRetryMaxBackoff ∧
      client.applyAuth = configuredAuth sampleConfig.alertmanager ∧
      ∀ user password, client.applyAuth = .basic user password → user ≠ [] ∧ password ≠ [] :=
  have hparse : ParsesTrimmed (fun _ => .ok ⟨lit "http", lit "am:9093"⟩) := fun _ _ _ _ _ => ⟨_, rfl⟩
  have hv : validate asciiOnlyLowerCase (fun _ => .ok ⟨lit "http", lit "am:9093"⟩) ⟨.ofKeys, .ofKeys⟩ sampleConfig =
      .ok { sampleConfig with defaults := { sampleConfig.defaults with alertName := defaultAlertName } } := rfl
  ⟨hparse, hv, newAlertmanagerClient_validated _ _ hparse _ hv⟩

/-- The retry budget of the client `New` builds: three attempts, 200 ms after the first
and 400 ms after the second. -/
theorem schedule_clientOf (am : AlertmanagerConfig) (alerts : List Alert) :
    rounds (clientOf am) alerts 1 (attemptsOf (clientOf am) - 1) ++ [.post (attemptsOf (clientOf am)) alerts] =
      [.post 1 alerts, .sleep 200000000, .post 2 alerts, .sleep 400000000, .post 3 alerts] := rfl

/-- **Every forwarding of a validated configuration keeps to three attempts.** For every
configuration `Validate` accepts, the forwarder built on its client, and every call of
it, whatever the exchanges and the context: the call posts its one alert at least once
and at most three times, sleeping 200 ms after the first attempt and 400 ms after the
second, and at no other time. -/
theorem validated_delivery_schedule (t : LowerCaseTable) (urlParse : GoString → Except ForeignError ParsedURL)
    (hparse : ParsesTrimmed urlParse) (orders : MapOrders) {cfg cfg' : Config}
    (hv : validate t urlParse orders cfg = .ok cfg') (h : Heap) :
    ∃ client, newAlertmanagerClient urlParse cfg' = .ok client ∧
      ∀ (env : CallEnv) (app : App) (msg : MessageRequest) (messageIdentifier : UInt64) (h' : Heap),
        let r := (newForwarder cfg' (some client) h).1.forward env app msg messageIdentifier h'
        r.steps ≠ [] ∧
          r.steps <+: [.post 1 [r.alert], .sleep 200000000, .post 2 [r.alert], .sleep 400000000, .post 3 [r.alert]] := by
  refine ⟨_, newAlertmanagerClient_of_validate hparse hv, fun env app msg messageIdentifier h' => ?_⟩
  intro r
  rw [← schedule_clientOf cfg.alertmanager]
  exact postAlerts_prefix_schedule (clientOf cfg.alertmanager) _ env.world

/-- `sampleConfig`'s forwarder posts at most three times. -/
theorem sampleConfig_delivery_schedule :
    ParsesTrimmed (fun _ => .ok ⟨lit "http", lit "am:9093"⟩) ∧
    validate asciiOnlyLowerCase (fun _ => .ok ⟨lit "http", lit "am:9093"⟩) ⟨.ofKeys, .ofKeys⟩ sampleConfig =
      .ok { sampleConfig with defaults := { sampleConfig.defaults with alertName := defaultAlertName } } ∧
    ∃ client, newAlertmanagerClient (fun _ => .ok ⟨lit "http", lit "am:9093"⟩)
        { sampleConfig with defaults := { sampleConfig.defaults with alertName := defaultAlertName } } = .ok client ∧
      ∀ (env : CallEnv) (app : App) (msg : MessageRequest) (messageIdentifier : UInt64) (h' : Heap),
        let r := (newForwarder { sampleConfig with defaults := { sampleConfig.defaults with
          alertName := defaultAlertName } } (some client) sampleHeap).1.forward env app msg messageIdentifier h'
        r.steps ≠ [] ∧
          r.steps <+: [.post 1 [r.alert], .sleep 200000000, .post 2 [r.alert], .sleep 400000000, .post 3 [r.alert]] :=
  have hparse : ParsesTrimmed (fun _ => .ok ⟨lit "http", lit "am:9093"⟩) := fun _ _ _ _ _ => ⟨_, rfl⟩
  have hv : validate asciiOnlyLowerCase (fun _ => .ok ⟨lit "http", lit "am:9093"⟩) ⟨.ofKeys, .ofKeys⟩ sampleConfig =
      .ok { sampleConfig with defaults := { sampleConfig.defaults with alertName := defaultAlertName } } := rfl
  ⟨hparse, hv, validated_delivery_schedule _ _ hparse _ hv sampleHeap⟩

/-! ## The server `buildHTTPServer` builds -/

/-- What one request to the built server reads besides itself: what Alertmanager's
readiness endpoint answers, and the forwarder's call environment and heap. -/
structure RequestState where
  readyExchange : ReadyExchange
  env : CallEnv
  heap : Heap

/-- The `readyFunc` closure of `buildHTTPServer`: `amClient.Ready`, with the error's
text as the reason; `errorText` is `error.Error()`. -/
def readyFunc (errorText : GoError → GoString) (w : RequestState) : Bool × GoString :=
  match ready w.readyExchange with
  | some readyErr => (false, errorText readyErr)
  | none => (true, [])

/-- `withBoundedTimeout(parent, timeout)`: `now₁` is the clock `time.Until` reads and
`now₂` the one `context.WithTimeout` reads. -/
def withBoundedTimeout (parent : Context) (timeout : Int) (now₁ now₂ : Int) : Context :=
  if timeout ≤ 0 then withCancel parent
  else
    match parent.deadline with
    | some deadline =>
      let remaining := timeUntil deadline now₁
      if remaining > 0 ∧ remaining ≤ timeout then withCancel parent
      else withTimeout parent now₂ timeout
    | none => withTimeout parent now₂ timeout

/-- **The shortcut of `withBoundedTimeout` keeps the deadline `WithTimeout` sets**, for
every parent, every two clock readings in order and every timeout below the largest
`time.Duration`: a timeout that is not positive leaves the parent's deadline, and any
other gives the earlier of the parent's deadline and `now₂ + timeout`. So the deadline
of a forwarding is never later than the request's own, and never more than the
configured timeout away. -/
theorem withBoundedTimeout_deadline (parent : Context) (timeout now₁ now₂ : Int) (hclock : now₁ ≤ now₂)
    (htimeout : timeout < maxDuration) :
    (withBoundedTimeout parent timeout now₁ now₂).deadline =
      if timeout ≤ 0 then parent.deadline else (withTimeout parent now₂ timeout).deadline := by
  unfold withBoundedTimeout
  split_ifs with h0
  · rfl
  cases hp : parent.deadline with
  | none => rfl
  | some deadline =>
    dsimp only
    split_ifs with hr
    · -- the parent's deadline is within the timeout, so it is the earlier one
      have hsub : timeUntil deadline now₁ = deadline - now₁ := by
        unfold timeUntil timeSub at hr ⊢
        unfold maxDuration minDuration at *
        omega
      rw [withCancel, withTimeout, withDeadline_deadline, hp]
      exact congrArg some (min_eq_left (by omega)).symm
    · rfl

/-- A parent deadline ten seconds away and a five-second timeout read one millisecond
apart: the forwarding gets the earlier, five seconds from the second reading. -/
theorem boundedTimeout_sample :
    (0 : Int) ≤ 1000000 ∧ (5000000000 : Int) < maxDuration ∧
      (withBoundedTimeout ⟨some 10000000000⟩ 5000000000 0 1000000).deadline = some 5001000000 :=
  ⟨by norm_num, by norm_num [maxDuration],
    (withBoundedTimeout_deadline ⟨some 10000000000⟩ 5000000000 0 1000000 (by norm_num)
      (by norm_num [maxDuration])).trans (by decide)⟩

end Gotilert.Main
