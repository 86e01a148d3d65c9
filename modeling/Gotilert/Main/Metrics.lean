/-
**The counters** of `internal/metrics` that the message endpoint moves, over the
concurrent handlers of `Main.Concurrent`.

## Where they move

The function `newForwarder` returns adds one to `gotilert_forwarded_alerts_total{app}`
when `PostAlerts` returned nil and to `gotilert_upstream_failures_total{app}` when it
failed, inside the forwarder's call. `withRequestLogging`, which wraps the whole mux,
adds one to `gotilert_http_requests_total{method, path, status}` once the handler has
returned, with the status its `statusRecorder` saw: every path of `messageHandler`
writes its header once, through `writeJSON`, so that is the status of the response.

A `MeteredState` is a `ServerState` with the counters and the set of handlers already
logged. A metered schedule interleaves the handlers' steps with the loggings, each
anywhere after its handler answered: a request is logged when its handler returns to
`withRequestLogging`, and other handlers may run in between.

The forwarder's call is one step of the model (`Action.forward`), so a counter moves
and the response is fixed in the same step. In the code `IncForwarded` and
`IncUpstreamFailure` run inside the forwarder, before `messageHandler` writes its
response, and a scrape of `/metrics` in between sees the count one ahead of the
requests answered. That moment is not a state of the model: the counts below are
those of the states between steps.

The collector is never nil here (`buildHTTPServer` passes `metrics.New()`), so the
`nil` receiver branches do not arise; the duration histogram, which moves with
`gotilert_http_requests_total` and records times, is not modelled.

## What is proved

`meteredRun_server`: the counters never change what the server does; the server part of
a metered run is `serverRun` of its handler steps. `MetricsInv` holds on every state a
metered schedule reaches (`metricsInv_run`), and `meteredRun_counters` reads it off: the
forwarded count of an app name is the number of its requests answered 200, the failure
count the number answered 502, the two add up to the calls of the forwarder for that
name, and each request count is the number of logged requests with those label values.
-/
import Gotilert.Main.Concurrent
import Gotilert.Server.Http

set_option autoImplicit false

namespace Gotilert.Main

open Gotilert.Go Gotilert.Gotify Gotilert.Alertmanager Gotilert.Server

/-! ## The collector -/

/-- `metrics.Metrics`: the three counter vectors the message endpoint moves, each a
count per label values. -/
structure Metrics where
  requestsTotal : GoString × GoString × GoString → Nat
  forwardedAlertsTotal : GoString → Nat
  upstreamFailuresTotal : GoString → Nat

/-- `metrics.New()`: every counter at zero. -/
def Metrics.new : Metrics := ⟨fun _ => 0, fun _ => 0, fun _ => 0⟩

/-- `WithLabelValues(key).Inc()` on a counter vector. -/
def bump {κ : Type} [DecidableEq κ] (counter : κ → Nat) (key : κ) : κ → Nat :=
  Function.update counter key (counter key + 1)

/-- `ObserveRequest(method, path, status, _)`: the status label is `strconv.Itoa(status)`. -/
def Metrics.observeRequest (m : Metrics) (method path : GoString) (status : Nat) : Metrics :=
  { m with requestsTotal := bump m.requestsTotal (method, path, itoa status) }

/-- `IncForwarded(app)`. -/
def Metrics.incForwarded (m : Metrics) (app : GoString) : Metrics :=
  { m with forwardedAlertsTotal := bump m.forwardedAlertsTotal app }

/-- `IncUpstreamFailure(app)`. -/
def Metrics.incUpstreamFailure (m : Metrics) (app : GoString) : Metrics :=
  { m with upstreamFailuresTotal := bump m.upstreamFailuresTotal app }

/-- The end of the function `newForwarder` returns: the failure counter of the app when
`PostAlerts` failed, the forwarded counter otherwise. The call's error is `PostAlerts`'s
wrapped by `"post alert: %w"`, so it is set exactly when that one is. -/
def countForward (m : Metrics) (app : App) (err : Option GoError) : Metrics :=
  match err with
  | some _ => m.incUpstreamFailure app.name
  | none => m.incForwarded app.name

theorem bump_apply {κ : Type} [DecidableEq κ] (counter : κ → Nat) (key k : κ) :
    bump counter key k = counter k + if k = key then 1 else 0 := by
  by_cases hk : k = key
  · subst hk; simp [bump]
  · simp [bump, Function.update_noteq hk, hk]

/-- The forwarded counter after a call: one more for the app exactly when it succeeded. -/
theorem countForward_forwarded (m : Metrics) (app : App) (err : Option GoError) (name : GoString) :
    (countForward m app err).forwardedAlertsTotal name =
      m.forwardedAlertsTotal name + if name = app.name ∧ err.isNone then 1 else 0 := by
  cases err <;> simp [countForward, Metrics.incForwarded, Metrics.incUpstreamFailure, bump_apply]

/-- The failure counter after a call: one more for the app exactly when it failed. -/
theorem countForward_failures (m : Metrics) (app : App) (err : Option GoError) (name : GoString) :
    (countForward m app err).upstreamFailuresTotal name =
      m.upstreamFailuresTotal name + if name = app.name ∧ err.isSome then 1 else 0 := by
  cases err <;> simp [countForward, Metrics.incForwarded, Metrics.incUpstreamFailure, bump_apply]

/-! ## The metered server -/

/-- A server with its counters, and the handlers `withRequestLogging` has logged. -/
structure MeteredState where
  server : ServerState
  metrics : Metrics
  logged : Nat → Bool

/-- The server once `buildHTTPServer` returned `h`, with a fresh collector. -/
def initialMetered (h : Heap) : MeteredState := ⟨initialState h, Metrics.new, fun _ => false⟩

/-- A handler's step, or `withRequestLogging` logging the request of handler `i`. -/
inductive MeteredAction where
  | handler (a : Action)
  | log (i : Nat)

/-- The handlers' steps of a metered schedule. -/
def handlerActions : List MeteredAction → List Action :=
  List.filterMap fun
    | .handler a => some a
    | .log _ => none

/-- Whether a handler answered a request of an app named `name` with `status` after
calling the forwarder. -/
def Phase.answers : Phase → GoString → Nat → Bool
  | .forwarded app _ _ _ response, name, status => app.name == name && response.status == status
  | _, _, _ => false

/-- Whether a handler called the forwarder for an app named `name`. -/
def Phase.calledFor : Phase → GoString → Bool
  | .forwarded app _ _ _ _, name => app.name == name
  | _, _ => false

theorem Phase.answers_of_response_eq_none {p : Phase} (h : p.response = none) (name : GoString) (status : Nat) :
    p.answers name status = false := by
  cases p <;> first | rfl | cases h

/-- What a handler answers once the forwarder returned `err`: 200 on success, 502 on failure. -/
theorem Phase.answers_respond (app : App) (msg : MessageRequest) (id : UInt64) (r : CallResult) (now : Int)
    (name : GoString) (status : Nat) :
    (Phase.forwarded app msg id r (respond app msg id now r.err)).answers name status =
      decide (name = app.name ∧ (if r.err.isSome then 502 else 200) = status) := by
  by_cases hn : name = app.name
  · subst hn
    cases r.err <;> simp [Phase.answers, respond, writeJSONError] <;> rfl
  · simp [Phase.answers, hn, Ne.symm hn]

section Run

variable (t : LowerCaseTable) (lib : Library) (e : Endpoint) (requests : Nat → Request)

/-- One metered step. A handler's step is `serverStep`, and the forwarder's call also
moves the counter of the app; logging a handler that has answered and is not logged yet
moves the request counter of its method, path and status. -/
def meteredStep (ms : MeteredState) : MeteredAction → MeteredState
  | .handler (.forward i env now) =>
    match ms.server.handlers i with
    | .drawn app msg messageIdentifier =>
      let r := e.forwarder.forward env app msg messageIdentifier ms.server.heap
      ⟨serverStep t lib e requests ms.server (.forward i env now), countForward ms.metrics app r.err, ms.logged⟩
    | _ => ms
  | .handler a => { ms with server := serverStep t lib e requests ms.server a }
  | .log i =>
    match (ms.server.handlers i).response, ms.logged i with
    | some response, false =>
      ⟨ms.server, ms.metrics.observeRequest (requests i).method messagePath response.status,
        Function.update ms.logged i true⟩
    | _, _ => ms

/-- A metered schedule, run from `ms`. -/
def meteredRun (ms : MeteredState) (schedule : List MeteredAction) : MeteredState :=
  schedule.foldl (meteredStep t lib e requests) ms

/-- The handlers that answered a request of an app named `name` with `status`. -/
def answered (s : ServerState) (name : GoString) (status : Nat) : Set Nat :=
  {i | (s.handlers i).answers name status = true}

/-- The handlers that called the forwarder for an app named `name`. -/
def calledFor (s : ServerState) (name : GoString) : Set Nat :=
  {i | (s.handlers i).calledFor name = true}

/-- The logged requests whose label values are `key`. -/
def loggedAs (ms : MeteredState) (key : GoString × GoString × GoString) : Set Nat :=
  {i | ms.logged i = true ∧ ∃ response, (ms.server.handlers i).response = some response ∧
    key = ((requests i).method, messagePath, itoa response.status)}

/-- What holds on every state a metered schedule reaches from `initialMetered h`. -/
structure MetricsInv (ms : MeteredState) : Prop where
  finite : {i | ms.server.handlers i ≠ .idle}.Finite
  logged : ∀ i, ms.logged i = true → (ms.server.handlers i).response.isSome
  status : ∀ i app msg id r response, ms.server.handlers i = .forwarded app msg id r response →
    response.status = if r.err.isSome then 502 else 200
  forwarded : ∀ name, ms.metrics.forwardedAlertsTotal name = (answered ms.server name 200).ncard
  failures : ∀ name, ms.metrics.upstreamFailuresTotal name = (answered ms.server name 502).ncard
  requests : ∀ key, ms.metrics.requestsTotal key = (loggedAs requests ms key).ncard

end Run

/-! ## Counting handlers -/

/-- A set that gains at most the one element `i`, which it did not hold: its size grows
by one exactly when it gains `i`. -/
theorem ncard_eq_add_of_update {S S' : Set Nat} (hS : S.Finite) {i : Nat} (hi : i ∉ S)
    (hj : ∀ j, j ≠ i → (j ∈ S' ↔ j ∈ S)) (c : Prop) [Decidable c] (hc : i ∈ S' ↔ c) :
    S'.ncard = S.ncard + if c then 1 else 0 := by
  by_cases h : c
  · have : S' = insert i S := by
      ext j
      by_cases hji : j = i
      · subst hji; simp [hc.mpr h]
      · simp [hj j hji, hji]
    rw [this, Set.ncard_insert_of_not_mem hi hS, if_pos h]
  · have : S' = S := by
      ext j
      by_cases hji : j = i
      · subst hji; simp [hi, hc, h]
      · exact hj j hji
    rw [this, if_neg h, add_zero]

section Step

variable {t : LowerCaseTable} {lib : Library} {e : Endpoint} {requests : Nat → Request}

theorem answered_subset (s : ServerState) (name : GoString) (status : Nat) :
    answered s name status ⊆ {i | s.handlers i ≠ .idle} := fun i hi hidle => by
  simp only [answered, Set.mem_setOf_eq, hidle] at hi
  cases hi

theorem loggedAs_subset (ms : MeteredState) (key : GoString × GoString × GoString) :
    loggedAs requests ms key ⊆ {i | ms.server.handlers i ≠ .idle} := fun i ⟨_, _, hr, _⟩ hidle => by
  simp [hidle, Phase.response] at hr

/-- A handler's step that moves handler `i` from a phase with no response to `p`, and
moves the app counters by what `p` answers, keeps the invariant. -/
theorem metricsInv_update {ms : MeteredState} (hinv : MetricsInv requests ms) {i : Nat}
    (hnone : (ms.server.handlers i).response = none) {p : Phase}
    (hp : ∀ app msg id r response, p = .forwarded app msg id r response →
      response.status = if r.err.isSome then 502 else 200)
    (messageID : UInt64) (heap : Heap) {m : Metrics}
    (hf : ∀ name, m.forwardedAlertsTotal name = ms.metrics.forwardedAlertsTotal name + if p.answers name 200 then 1 else 0)
    (hu : ∀ name, m.upstreamFailuresTotal name = ms.metrics.upstreamFailuresTotal name + if p.answers name 502 then 1 else 0)
    (hr : m.requestsTotal = ms.metrics.requestsTotal) :
    MetricsInv requests ⟨⟨messageID, heap, Function.update ms.server.handlers i p⟩, m, ms.logged⟩ := by
  have hnotlogged : ms.logged i = false := by
    cases hl : ms.logged i
    · rfl
    · have := hinv.logged i hl
      rw [hnone] at this
      cases this
  have hans := Phase.answers_of_response_eq_none hnone
  have hcount (status : Nat) (name : GoString) :
      (answered ⟨messageID, heap, Function.update ms.server.handlers i p⟩ name status).ncard =
        (answered ms.server name status).ncard + if p.answers name status then 1 else 0 :=
    ncard_eq_add_of_update (hinv.finite.subset (answered_subset _ _ _)) (i := i)
      (fun h => by rw [answered, Set.mem_setOf_eq, hans] at h; cases h)
      (fun j hj => by simp only [answered, Set.mem_setOf_eq, Function.update_noteq hj]) _
      (by simp only [answered, Set.mem_setOf_eq, Function.update_same])
  refine ⟨hinv.finite.insert i |>.subset fun j hj => ?_, fun j hj => ?_, fun j app msg id r response hj => ?_,
    fun name => by rw [hf, hinv.forwarded, hcount], fun name => by rw [hu, hinv.failures, hcount], fun key => ?_⟩
  · by_cases hji : j = i
    · exact .inl hji
    · simp only [Set.mem_setOf_eq, Function.update_noteq hji] at hj
      exact .inr hj
  · have hji : j ≠ i := by rintro rfl; rw [hnotlogged] at hj; cases hj
    show (Function.update ms.server.handlers i p j).response.isSome
    rw [Function.update_noteq hji]
    exact hinv.logged j hj
  · by_cases hji : j = i
    · subst hji
      exact hp app msg id r response (by simpa only [Function.update_same] using hj)
    · exact hinv.status j app msg id r response (by simpa only [Function.update_noteq hji] using hj)
  · rw [hr, hinv.requests]
    congr 1
    ext j
    by_cases hji : j = i
    · subst hji; simp [loggedAs, hnotlogged]
    · simp only [loggedAs, Set.mem_setOf_eq, Function.update_noteq hji]

/-- Logging a handler that has answered and is not logged yet keeps the invariant. -/
theorem metricsInv_log {ms : MeteredState} (hinv : MetricsInv requests ms) {i : Nat} {response : Response}
    (hresp : (ms.server.handlers i).response = some response) (hl : ms.logged i = false) :
    MetricsInv requests ⟨ms.server, ms.metrics.observeRequest (requests i).method messagePath response.status,
      Function.update ms.logged i true⟩ := by
  refine ⟨hinv.finite, fun j hj => ?_, hinv.status, hinv.forwarded, hinv.failures, fun key => ?_⟩
  · by_cases hji : j = i
    · subst hji; simp [hresp]
    · exact hinv.logged j (by simpa [Function.update_noteq hji] using hj)
  · simp only [Metrics.observeRequest, bump_apply, hinv.requests]
    exact (ncard_eq_add_of_update (hinv.finite.subset (loggedAs_subset _ _)) (i := i) (by simp [loggedAs, hl])
      (fun j hj => by simp [loggedAs, Function.update_noteq hj]) _ (by simp [loggedAs, hresp])).symm

/-- **One metered step keeps the invariant**, whichever handler moves or is logged. -/
theorem metricsInv_step {ms : MeteredState} (hinv : MetricsInv requests ms) :
    ∀ a, MetricsInv requests (meteredStep t lib e requests ms a)
  | .handler (.guard i) => by
    simp only [meteredStep, serverStep]
    cases hi : ms.server.handlers i with
    | idle =>
      have hnone : (ms.server.handlers i).response = none := by rw [hi]; rfl
      cases guards t lib (some e.resolve) e.maxBodyBytes (requests i) <;>
        exact metricsInv_update hinv hnone (by simp) _ _ (by simp [Phase.answers]) (by simp [Phase.answers]) rfl
    | _ => exact hinv
  | .handler (.draw i) => by
    simp only [meteredStep, serverStep]
    cases hi : ms.server.handlers i with
    | admitted app msg =>
      exact metricsInv_update hinv (by rw [hi]; rfl) (by simp) _ _ (by simp [Phase.answers]) (by simp [Phase.answers])
        rfl
    | _ => exact hinv
  | .handler (.forward i env now) => by
    simp only [meteredStep, serverStep]
    cases hi : ms.server.handlers i with
    | drawn app msg id =>
      have hstatus : (respond app msg id now (e.forwarder.forward env app msg id ms.server.heap).err).status =
          if (e.forwarder.forward env app msg id ms.server.heap).err.isSome then 502 else 200 := by
        cases (e.forwarder.forward env app msg id ms.server.heap).err <;> rfl
      refine metricsInv_update hinv (by rw [hi]; rfl) (by rintro _ _ _ _ _ ⟨⟩; exact hstatus) _ _
        (fun name => ?_) (fun name => ?_) ?_
      · rw [countForward_forwarded, Phase.answers_respond]
        cases (e.forwarder.forward env app msg id ms.server.heap).err <;> simp
      · rw [countForward_failures, Phase.answers_respond]
        cases (e.forwarder.forward env app msg id ms.server.heap).err <;> simp
      · cases (e.forwarder.forward env app msg id ms.server.heap).err <;> rfl
    | _ => exact hinv
  | .log i => by
    simp only [meteredStep]
    cases hr : (ms.server.handlers i).response with
    | none => exact hinv
    | some response =>
      cases hl : ms.logged i with
      | false => exact metricsInv_log hinv hr hl
      | true => exact hinv

/-- **Every state a metered schedule reaches keeps the invariant.** -/
theorem metricsInv_run :
    ∀ (schedule : List MeteredAction) (ms : MeteredState), MetricsInv requests ms →
      MetricsInv requests (meteredRun t lib e requests ms schedule)
  | [], _, hinv => hinv
  | a :: schedule, _, hinv => metricsInv_run schedule _ (metricsInv_step hinv a)

theorem metricsInv_initialMetered (h : Heap) : MetricsInv requests (initialMetered h) := by
  have hidle : {i | (initialMetered h).server.handlers i ≠ .idle} = ∅ := by
    ext i; simp [initialMetered, initialState]
  refine ⟨hidle ▸ Set.finite_empty, fun i hi => by simp [initialMetered] at hi, fun i _ _ _ _ _ hi => by
    simp [initialMetered, initialState] at hi, fun name => ?_, fun name => ?_, fun key => ?_⟩ <;>
    simp [initialMetered, Metrics.new, answered, loggedAs, initialState, Phase.answers]

/-- The counters leave the server alone: one metered step is the server's step, or
nothing for a logging. -/
theorem meteredStep_server (ms : MeteredState) :
    ∀ a, (meteredStep t lib e requests ms a).server = serverRun t lib e requests ms.server (handlerActions [a])
  | .handler (.guard i) => rfl
  | .handler (.draw i) => rfl
  | .handler (.forward i env now) => by
    simp only [meteredStep, handlerActions, List.filterMap_cons, List.filterMap_nil, serverRun_cons,
      serverRun_nil]
    cases hi : ms.server.handlers i <;> simp [serverStep, hi]
  | .log i => by
    simp only [meteredStep, handlerActions, List.filterMap_cons, List.filterMap_nil, serverRun_nil]
    split <;> rfl

/-- **The counters never change what the server does**: the server part of a metered
run is the run of its handler steps. -/
theorem meteredRun_server :
    ∀ (schedule : List MeteredAction) (ms : MeteredState),
      (meteredRun t lib e requests ms schedule).server =
        serverRun t lib e requests ms.server (handlerActions schedule)
  | [], _ => rfl
  | a :: schedule, ms => by
    have hsplit : handlerActions (a :: schedule) = handlerActions [a] ++ handlerActions schedule := by
      cases a <;> rfl
    rw [meteredRun, List.foldl_cons, ← meteredRun, meteredRun_server schedule, meteredStep_server, hsplit,
      serverRun, serverRun, serverRun, List.foldl_append]

end Step

/-- **The counters count what they stand for**, for every schedule of concurrent
requests and loggings: the server runs as without them; the forwarded count of an app
name is the number of its requests answered 200 and the failure count the number
answered 502, which add up to the calls of the forwarder for that name; and the request
count of each label values is the number of logged requests that carry them. -/
theorem meteredRun_counters (t : LowerCaseTable) (lib : Library) (e : Endpoint) (requests : Nat → Request)
    (h : Heap) (schedule : List MeteredAction) :
    let ms := meteredRun t lib e requests (initialMetered h) schedule
    ms.server = serverRun t lib e requests (initialState h) (handlerActions schedule) ∧
      (∀ name, ms.metrics.forwardedAlertsTotal name = (answered ms.server name 200).ncard) ∧
      (∀ name, ms.metrics.upstreamFailuresTotal name = (answered ms.server name 502).ncard) ∧
      (∀ name, ms.metrics.forwardedAlertsTotal name + ms.metrics.upstreamFailuresTotal name =
        (calledFor ms.server name).ncard) ∧
      ∀ key, ms.metrics.requestsTotal key = (loggedAs requests ms key).ncard := by
  intro ms
  have hinv : MetricsInv requests ms := metricsInv_run schedule _ (metricsInv_initialMetered h)
  have hfin (status : Nat) (name : GoString) : (answered ms.server name status).Finite :=
    hinv.finite.subset (answered_subset _ _ _)
  -- a handler that called the forwarder answered 200 or 502, never both
  have hunion (name : GoString) :
      calledFor ms.server name = answered ms.server name 200 ∪ answered ms.server name 502 := by
    ext i
    simp only [calledFor, answered, Set.mem_union, Set.mem_setOf_eq]
    cases hi : ms.server.handlers i with
    | forwarded app msg id r response =>
      simp only [Phase.calledFor, Phase.answers, hinv.status i app msg id r response hi]
      cases r.err <;> simp
    | _ => simp [Phase.calledFor, Phase.answers]
  have hdisj (name : GoString) : Disjoint (answered ms.server name 200) (answered ms.server name 502) :=
    Set.disjoint_left.mpr fun i h200 h502 => by
      simp only [answered, Set.mem_setOf_eq] at h200 h502
      cases hi : ms.server.handlers i <;> simp_all [Phase.answers]
  refine ⟨meteredRun_server schedule _, hinv.forwarded, hinv.failures, fun name => ?_, hinv.requests⟩
  rw [hinv.forwarded, hinv.failures, hunion, Set.ncard_union_eq (hdisj name) (hfin _ _) (hfin _ _)]

end Gotilert.Main
