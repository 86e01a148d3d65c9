/-
The **delivery client** of `internal/alertmanager`: `New`, one HTTP exchange
(`postAlertsOnce`, `Ready`) and the classification of its failures
(`shouldRetry`, `isPermanentTLSError`). The retry loop that strings exchanges
together is in `Alertmanager.Retry`.

## What the network is

An exchange is not run; its outcome is an input. `Exchange` lists what
`postAlertsOnce` can meet: `json.Marshal`, `http.NewRequestWithContext` or
`http.Client.Do` failing, or a response with a status line and a body that reads or
fails. The errors those calls return belong to other packages, and no other package
can build this one's `*statusError` or holds its sentinels: `ForeignError` carries
that as an invariant, which is what lets a status code found in a chain be trusted
to come from this client.

## Classification

`shouldRetry` is transcribed test by test. `shouldRetry_iff` restates it as one
condition over the error tree, and `shouldRetry_postAlertsOnce_iff` says, for every
outcome of an exchange, which ones the loop retries: a response of status 429 or
5xx, and a transport failure that is neither a cancellation nor a certificate or
protocol problem and that either times out or is a `*net.OpError`.
-/
import Gotilert.Go.Errors
import Gotilert.Go.Maps

set_option autoImplicit false

namespace Gotilert.Alertmanager

open Gotilert.Go

/-! ## Configuration and `New` -/

/-- `alertmanager.Auth`. -/
structure Auth where
  basicUsername : GoString
  basicPassword : GoString
  bearerToken : GoString
  deriving DecidableEq, Repr

/-- `alertmanager.Options`. -/
structure Options where
  baseURL : GoString
  timeout : Int
  insecureSkipVerify : Bool
  auth : Auth

/-- `alertmanager.Client`. The parsed base URL is kept as the text it was parsed from. -/
structure Client where
  baseURL : GoString
  timeout : Int
  insecureSkipVerify : Bool
  auth : Auth
  retryMaxAttempts : Int
  retryInitial : Int
  retryMaxBackoff : Int

/-- `defaultHTTPTimeout`, 5 s in nanoseconds. -/
def defaultHTTPTimeout : Int := 5000000000

/-- `maxErrorBodyBytes`, 64 KiB. -/
def maxErrorBodyBytes : Nat := 64 * 1024

/-- `defaultRetryMaxAttempts`. -/
def defaultRetryMaxAttempts : Int := 3

/-- `defaultRetryInitial`, 200 ms. -/
def defaultRetryInitial : Int := 200000000

/-- `defaultRetryMaxBackoff`, 1 s. -/
def defaultRetryMaxBackoff : Int := 1000000000

/-- `normalizeAuth`: every credential trimmed. -/
def normalizeAuth (auth : Auth) : Auth :=
  ⟨trimSpace auth.basicUsername, trimSpace auth.basicPassword, trimSpace auth.bearerToken⟩

/-- `New`. `url.Parse` is a parameter; `none` is success. -/
def new (urlParse : GoString → Option ForeignError) : Option Options → Except GoError Client
  | none => .error (.ofSentinel .errInvalidConfiguration)
  | some opts =>
    let baseURLRaw := trimSpace opts.baseURL
    if baseURLRaw = [] then .error (.ofSentinel .errBaseURLMissing) else
    match urlParse baseURLRaw with
    | some err => .error (.wrap2 (.ofSentinel .errInvalidConfiguration) err.err)
    | none =>
      .ok { baseURL := baseURLRaw
            timeout := if opts.timeout = 0 then defaultHTTPTimeout else opts.timeout
            insecureSkipVerify := opts.insecureSkipVerify
            auth := normalizeAuth opts.auth
            retryMaxAttempts := defaultRetryMaxAttempts
            retryInitial := defaultRetryInitial
            retryMaxBackoff := defaultRetryMaxBackoff }

/-- The `Authorization` header `applyAuth` puts on a request. -/
inductive AuthHeader where
  | none
  | bearer (token : GoString)
  | basic (username password : GoString)
  deriving DecidableEq, Repr

/-- `applyAuth`: bearer first, then basic when either credential is set. -/
def Client.applyAuth (client : Client) : AuthHeader :=
  if client.auth.bearerToken ≠ [] then .bearer client.auth.bearerToken
  else if client.auth.basicUsername ≠ [] ∨ client.auth.basicPassword ≠ [] then
    .basic client.auth.basicUsername client.auth.basicPassword
  else .none

/-! ## One exchange -/

/-- `alertmanager.Alert`, with its maps as the contents `json.Marshal` reads. -/
structure Alert where
  labels : GoMap GoString GoString
  annotations : GoMap GoString GoString
  startsAt : Int
  endsAt : Int

/-- What one `POST /api/v2/alerts` came to. A response carries its status code, its
status line, and the read of its body: the bytes, or the error reading them. -/
inductive Exchange where
  | encodeFailed (err : ForeignError)
  | createFailed (err : ForeignError)
  | doFailed (err : ForeignError)
  | response (statusCode : Int) (status : GoString) (body : Except ForeignError GoString)

/-- `postAlertsOnce`: `none` is a 2xx response. A non-2xx status is reported with the
first 64 KiB of the body, trimmed, or the status line when that is empty. -/
def postAlertsOnce : Exchange → Option GoError
  | .encodeFailed err => some (.wrap2 (.ofSentinel .errEncodeRequest) err.err)
  | .createFailed err => some (.wrap2 (.ofSentinel .errCreateRequest) err.err)
  | .doFailed err => some (.wrap2 (.ofSentinel .errDoRequest) err.err)
  | .response statusCode status body =>
    if statusCode < 200 ∨ 300 ≤ statusCode then
      match body with
      | .error readErr => some (.wrap2 (.ofSentinel .errReadResponseBody) readErr.err)
      | .ok data =>
        let msg := trimSpace (data.take maxErrorBodyBytes)
        let msg := if msg = [] then status else msg
        some (.wrap2 (.ofSentinel .errUpstreamNon2xx) (.node (.status statusCode msg) []))
    else none

/-- What the readiness probe's `GET` came to. -/
inductive ReadyExchange where
  | createFailed (err : ForeignError)
  | doFailed (err : ForeignError)
  | response (statusCode : Int)

/-- `Ready`: one attempt, and ready exactly on status 200. -/
def ready : ReadyExchange → Option GoError
  | .createFailed err => some (.node .wrapper [err.err])
  | .doFailed err => some (.node .wrapper [err.err])
  | .response statusCode => if statusCode ≠ 200 then some (.node .wrapper [.ofSentinel .errNotReady]) else none

/-! ## Classification -/

/-- The `errors.As` target of a type with no fields: a node of exactly that kind. -/
def ErrorKind.matching (target : ErrorKind) (k : ErrorKind) : Option Unit :=
  if k = target then some () else none

/-- `isPermanentTLSError`. -/
def isPermanentTLSError (err : GoError) : Bool :=
  if (errorsAs err (ErrorKind.matching .unknownAuthority)).isSome then true
  else if (errorsAs err (ErrorKind.matching .hostname)).isSome then true
  else if (errorsAs err (ErrorKind.matching .certificateInvalid)).isSome then true
  else if (errorsAs err (ErrorKind.matching .systemRoots)).isSome then true
  else (errorsAs err (ErrorKind.matching .recordHeader)).isSome

/-- `shouldRetry`; `none` is a nil error. -/
def shouldRetry : Option GoError → Bool
  | none => false
  | some err =>
    if errorsIs err .canceled || errorsIs err .deadlineExceeded then false
    else if isPermanentTLSError err then false
    else match errorsAs err ErrorKind.asStatusError with
      | some code => if code = 429 then true else decide (500 ≤ code)
      | none =>
        if errorsIs err .errDoRequest then
          if errorsAs err ErrorKind.asNetError = some true then true
          else (errorsAs err ErrorKind.asOpError).isSome
        else false

/-! ## What `shouldRetry` retries -/

/-- The `x509` and `tls` failures `isPermanentTLSError` looks for. -/
def tlsFailures : List ErrorKind :=
  [.unknownAuthority, .hostname, .certificateInvalid, .systemRoots, .recordHeader]

theorem errorsIs_iff (err : GoError) (s : Sentinel) :
    errorsIs err s = true ↔ ErrorKind.sentinel s ∈ err.nodes := by
  simp [errorsIs]

theorem errorsAs_matching_isSome (err : GoError) (t : ErrorKind) :
    (errorsAs err (ErrorKind.matching t)).isSome ↔ t ∈ err.nodes := by
  simp [errorsAs, ErrorKind.matching]

theorem isPermanentTLSError_iff (err : GoError) :
    isPermanentTLSError err = true ↔ ∃ k ∈ tlsFailures, k ∈ err.nodes := by
  simp [isPermanentTLSError, Bool.if_true_left, errorsAs_matching_isSome, tlsFailures]

/-- The classification `shouldRetry` makes, as one condition on the error tree. -/
def Retryable (err : GoError) : Prop :=
  (∀ k ∈ err.nodes, k ≠ .sentinel .canceled ∧ k ≠ .sentinel .deadlineExceeded) ∧
  (∀ k ∈ tlsFailures, k ∉ err.nodes) ∧
  match errorsAs err ErrorKind.asStatusError with
  | some code => code = 429 ∨ 500 ≤ code
  | none => ErrorKind.sentinel .errDoRequest ∈ err.nodes ∧
      (errorsAs err ErrorKind.asNetError = some true ∨ ∃ k ∈ err.nodes, (ErrorKind.asOpError k).isSome)

/-- The part of `shouldRetry` after the cancellation and TLS tests. -/
theorem classify_iff (err : GoError) :
    (match errorsAs err ErrorKind.asStatusError with
      | some code => if code = 429 then true else decide (500 ≤ code)
      | none =>
        if errorsIs err .errDoRequest then
          if errorsAs err ErrorKind.asNetError = some true then true
          else (errorsAs err ErrorKind.asOpError).isSome
        else false) = true ↔
    match errorsAs err ErrorKind.asStatusError with
    | some code => code = 429 ∨ 500 ≤ code
    | none => ErrorKind.sentinel .errDoRequest ∈ err.nodes ∧
        (errorsAs err ErrorKind.asNetError = some true ∨ ∃ k ∈ err.nodes, (ErrorKind.asOpError k).isSome) := by
  cases errorsAs err ErrorKind.asStatusError with
  | some code => split_ifs <;> simp_all
  | none =>
    simp only [errorsIs_iff, errorsAs, List.findSome?_isSome_iff]
    split_ifs <;> simp_all

theorem shouldRetry_iff (err : GoError) : shouldRetry (some err) = true ↔ Retryable err := by
  dsimp only [shouldRetry, Retryable]
  by_cases hc : (errorsIs err .canceled || errorsIs err .deadlineExceeded) = true
  · rw [if_pos hc]
    simp only [Bool.or_eq_true, errorsIs_iff] at hc
    simp only [Bool.false_eq_true, false_iff, not_and]
    intro h
    rcases hc with hc | hc
    exacts [absurd rfl (h _ hc).1, absurd rfl (h _ hc).2]
  · rw [if_neg hc]
    simp only [Bool.or_eq_true, errorsIs_iff, not_or] at hc
    have h1 : ∀ k ∈ err.nodes, k ≠ .sentinel .canceled ∧ k ≠ .sentinel .deadlineExceeded :=
      fun k hk => ⟨fun e => hc.1 (e ▸ hk), fun e => hc.2 (e ▸ hk)⟩
    by_cases ht : isPermanentTLSError err = true
    · rw [if_pos ht]
      obtain ⟨k, hk, hm⟩ := (isPermanentTLSError_iff err).mp ht
      simp only [Bool.false_eq_true, false_iff, not_and]
      exact fun _ h2 => absurd hm (h2 k hk)
    · rw [if_neg ht]
      have h2 : ∀ k ∈ tlsFailures, k ∉ err.nodes :=
        fun k hk hm => ht ((isPermanentTLSError_iff err).mpr ⟨k, hk, hm⟩)
      exact (classify_iff err).trans ⟨fun h => ⟨h1, h2, h⟩, fun h => h.2.2⟩

theorem errorsAs_wrap_foreign_status (s : Sentinel) (e : ForeignError) :
    errorsAs (.wrap2 (.ofSentinel s) e.err) ErrorKind.asStatusError = none := by
  have := e.statusError_none
  simp_all [errorsAs, ErrorKind.asStatusError]

theorem errorsAs_wrap_foreign_net {s : Sentinel} (hs : isOwnSentinel s = true) (e : ForeignError) :
    errorsAs (.wrap2 (.ofSentinel s) e.err) ErrorKind.asNetError = errorsAs e.err ErrorKind.asNetError := by
  have hnet : ErrorKind.asNetError (.sentinel s) = none := by revert hs; cases s <;> decide
  simp only [errorsAs, nodes_wrap2, nodes_ofSentinel, List.singleton_append, List.findSome?_cons, hnet]
  rfl

/-- An error of another package wrapped under one of this package's sentinels is retried
only under `ErrDoRequest`, and then for what it says about the transport. -/
theorem retryable_wrap_foreign {s : Sentinel} (hs : isOwnSentinel s = true) (e : ForeignError) :
    Retryable (.wrap2 (.ofSentinel s) e.err) ↔
      (∀ k ∈ e.err.nodes, k ≠ .sentinel .canceled ∧ k ≠ .sentinel .deadlineExceeded) ∧
      (∀ k ∈ tlsFailures, k ∉ e.err.nodes) ∧ s = .errDoRequest ∧
      (errorsAs e.err ErrorKind.asNetError = some true ∨ ∃ k ∈ e.err.nodes, (ErrorKind.asOpError k).isSome) := by
  have hdo := e.own_not_mem (s := .errDoRequest) rfl
  have hctx : s ≠ .canceled ∧ s ≠ .deadlineExceeded := by
    constructor <;> rintro rfl <;> cases hs
  have hdoeq : Sentinel.errDoRequest = s ↔ s = .errDoRequest := eq_comm
  rw [Retryable, errorsAs_wrap_foreign_status, errorsAs_wrap_foreign_net hs]
  simp [tlsFailures, ErrorKind.asOpError, hdo, hctx, hdoeq]

/-- The outcomes of one exchange that `shouldRetry` retries: a status of 429 or 5xx, or a
transport failure that is neither a cancellation nor a certificate or protocol failure,
and that times out or is a `*net.OpError`. -/
def RetryableExchange : Exchange → Prop
  | .doFailed e => (∀ k ∈ e.err.nodes, k ≠ .sentinel .canceled ∧ k ≠ .sentinel .deadlineExceeded) ∧
      (∀ k ∈ tlsFailures, k ∉ e.err.nodes) ∧
      (errorsAs e.err ErrorKind.asNetError = some true ∨ ∃ k ∈ e.err.nodes, (ErrorKind.asOpError k).isSome)
  | .response statusCode _ (.ok _) => statusCode = 429 ∨ 500 ≤ statusCode
  | _ => False

theorem shouldRetry_postAlertsOnce_iff (ex : Exchange) :
    shouldRetry (postAlertsOnce ex) = true ↔ RetryableExchange ex := by
  cases ex with
  | response code status body =>
    simp only [postAlertsOnce]
    split_ifs with h
    · cases body with
      | error e => simp [shouldRetry_iff, retryable_wrap_foreign, isOwnSentinel, RetryableExchange]
      | ok data => simp [shouldRetry_iff, Retryable, errorsAs, tlsFailures, ErrorKind.asStatusError, RetryableExchange]
    · cases body <;> simp [shouldRetry, RetryableExchange]; omega
  | _ => simp [postAlertsOnce, shouldRetry_iff, retryable_wrap_foreign, isOwnSentinel, RetryableExchange]

/-- "Some node is a `net.Error` whose `Timeout()` is true", where `shouldRetry` asks the first. -/
def RetryableAsStated (err : GoError) : Prop :=
  (∀ k ∈ err.nodes, k ≠ .sentinel .canceled ∧ k ≠ .sentinel .deadlineExceeded) ∧
  (∀ k ∈ tlsFailures, k ∉ err.nodes) ∧
  match errorsAs err ErrorKind.asStatusError with
  | some code => code = 429 ∨ 500 ≤ code
  | none => ErrorKind.sentinel .errDoRequest ∈ err.nodes ∧
      ∃ k ∈ err.nodes, ErrorKind.asNetError k = some true ∨ (ErrorKind.asOpError k).isSome

/-- `ErrDoRequest` over a `net.Error` that did not time out, then one that did. -/
def timeoutBehindNetError : GoError :=
  .node .wrapper [.ofSentinel .errDoRequest, .node (.netError false) [], .node (.netError true) []]

theorem shouldRetry_timeout_behind_netError :
    shouldRetry (some timeoutBehindNetError) = false ∧ RetryableAsStated timeoutBehindNetError := by
  refine ⟨by decide, ?_⟩
  rw [RetryableAsStated, show errorsAs timeoutBehindNetError ErrorKind.asStatusError = none from rfl]
  decide

theorem shouldRetry_classification :
    shouldRetry none = false ∧ (∀ err, shouldRetry (some err) = true ↔ Retryable err) ∧
      ∀ ex, shouldRetry (postAlertsOnce ex) = true ↔ RetryableExchange ex :=
  ⟨rfl, shouldRetry_iff, shouldRetry_postAlertsOnce_iff⟩

end Gotilert.Alertmanager
