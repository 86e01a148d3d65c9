/-
**The message endpoint**: `messageHandler` of `internal/server`, with
`authenticate`, `extractToken` and `writeParseError`.

## The handler in three parts

The handler runs guard after guard: the method, then authentication, then the body
behind `http.MaxBytesReader`; only a request that passes all three draws an
identifier from the shared counter `messageID`, and only then is the forwarder
called. The model keeps the parts apart, because the concurrent server
(`Gotilert.Main.Concurrent`) interleaves them across requests: `guards` is
everything up to the draw, `respond` everything after the forwarder returned.
`messageHandler` runs one request through them, with the counter's value before
the draw and the forwarder as it answers this call.

`ForwardMessageFunc` is the forwarder seen from the handler: the error it returns
for an app, a message and an identifier. The run records the one call made, so
that "only with the App the token resolves to" is a statement about the result.
-/
import Gotilert.Gotify.Message

set_option autoImplicit false

namespace Gotilert.Server

open Gotilert.Go Gotilert.Gotify

/-! ## Types -/

/-- `server.App`. -/
structure App where
  name : GoString
  id : UInt32
  alertName : GoString
  labels : Ref
  severityFromPriority : GoMap Int GoString

/-- `ResolveAppFunc`: the app of a token, if any. -/
abbrev ResolveAppFunc := GoString → Option App

/-- `ForwardMessageFunc` as the handler sees one call: the error it returns. -/
abbrev ForwardMessageFunc := App → MessageRequest → UInt64 → Option GoError

/-- `gotify.MessageResponse`. -/
structure MessageResponse where
  id : UInt64
  appID : UInt32
  message : GoString
  title : GoString
  priority : Int
  date : Int
  extras : Option JsonObject

/-- What the handler writes: `{"error": ...}` or a message. -/
inductive ResponseBody where
  | error (err : GoError)
  | message (resp : MessageResponse)

structure Response where
  status : Nat
  body : ResponseBody

/-- `writeJSONError`. -/
def writeJSONError (status : Nat) (err : GoError) : Response := ⟨status, .error err⟩

/-- `writeParseError`: always 400; an error of the three known kinds is written as it
is, any other under `"parse message: "`. -/
def writeParseError (err : GoError) : Response :=
  if errorsIs err .errMessageRequired || errorsIs err .errInvalidPriority ||
      errorsIs err .errUnsupportedContentType then writeJSONError 400 err
  else writeJSONError 400 (GoError.wrap err)

/-! ## Authentication -/

def bearerPrefix : GoString := lit "bearer "

/-- `extractToken`: the `X-Gotify-Key` header, then the `token` query value, then an
`Authorization: Bearer` header, each trimmed. -/
def extractToken (t : LowerCaseTable) (request : Request) : GoString :=
  let headerToken := trimSpace (valuesGet request.header (lit "X-Gotify-Key"))
  if headerToken ≠ [] then headerToken
  else
    let queryToken := trimSpace (valuesGet request.query (lit "token"))
    if queryToken ≠ [] then queryToken
    else
      let authHeader := trimSpace (valuesGet request.header (lit "Authorization"))
      if authHeader = [] then []
      else
        let lower := toLower t authHeader
        if !hasPrefix lower bearerPrefix then []
        else trimSpace (authHeader.drop bearerPrefix.length)

/-- `authenticate`; `none` for a nil resolver. -/
def authenticate (t : LowerCaseTable) (request : Request) (resolve : Option ResolveAppFunc) : Option App :=
  match resolve with
  | none => none
  | some resolve =>
    let token := extractToken t request
    if token = [] then none else resolve token

/-! ## The handler -/

/-- The handler up to the identifier draw. -/
def guards (t : LowerCaseTable) (lib : Library) (resolve : Option ResolveAppFunc) (maxBodyBytes : Int)
    (request : Request) : Except Response (App × MessageRequest) :=
  if request.method ≠ lit "POST" then .error (writeJSONError 405 (.ofSentinel .errMethodNotAllowed))
  else
    match authenticate t request resolve with
    | none => .error (writeJSONError 403 (.ofSentinel .errTokenMissingOrInvalid))
    | some app =>
      match parseMessageRequest t lib { request with bodyLimit := some maxBodyBytes } with
      | .error err => .error (writeParseError err)
      | .ok msg => .ok (app, msg)

/-- The handler once the forwarder has returned `err`. -/
def respond (app : App) (msg : MessageRequest) (messageIdentifier : UInt64) (now : Int) :
    Option GoError → Response
  | some _ => writeJSONError 502 (GoError.wrap (.ofSentinel .errUpstreamFailed))
  | none => ⟨200, .message ⟨messageIdentifier, app.id, msg.message, msg.title, msg.priority, now, msg.extras⟩⟩

/-- One request through the handler: the response, the counter afterwards, and the
call made to the forwarder. -/
structure HandlerRun where
  response : Response
  messageID : UInt64
  forwarded : Option (App × MessageRequest × UInt64)

/-- `messageHandler(resolve, forward, maxBodyBytes)` on one request; `messageID` is the
counter when the request reaches the draw, `now` the clock at the response. -/
def messageHandler (t : LowerCaseTable) (lib : Library) (resolve : Option ResolveAppFunc)
    (forward : Option ForwardMessageFunc) (maxBodyBytes : Int) (request : Request) (messageID : UInt64)
    (now : Int) : HandlerRun :=
  match guards t lib resolve maxBodyBytes request with
  | .error resp => ⟨resp, messageID, none⟩
  | .ok (app, msg) =>
    let messageIdentifier := messageID + 1
    match forward with
    | none => ⟨writeJSONError 500 (.ofSentinel .errInternalMisconfigured), messageIdentifier, none⟩
    | some forward =>
      ⟨respond app msg messageIdentifier now (forward app msg messageIdentifier), messageIdentifier,
        some (app, msg, messageIdentifier)⟩

/-! ## Which token a request carries -/

theorem bearerPrefix_ascii :
    ∀ x ∈ bearerPrefix, x.toNat < runeSelf ∧ x.toNat ≠ 'i'.toNat ∧ x.toNat ≠ 'k'.toNat := by decide

theorem bearerPrefix_length : bearerPrefix.length = 7 := rfl

theorem lt_runeSelf_of_asciiLower {r : Nat} (h : asciiLower r < runeSelf) : r < runeSelf := by
  simp only [asciiLower_eq, runeSelf] at h ⊢
  split_ifs at h <;> omega

/-- When the header passes the `Bearer` test, its first seven bytes are ASCII, so
slicing at seven cuts between the scheme and the rest. -/
theorem bearer_slice {a : GoString}
    (h : (a.take 7).map (fun b => asciiLower b.toNat) = bearerPrefix.map UInt8.toNat) :
    7 ≤ a.length ∧ ∀ b ∈ a.take 7, b.toNat < runeSelf := by
  have hlen := congrArg List.length h
  simp only [List.length_map, List.length_take, bearerPrefix_length] at hlen
  refine ⟨by omega, fun b hb => lt_runeSelf_of_asciiLower ?_⟩
  have hmem : asciiLower b.toNat ∈ bearerPrefix.map UInt8.toNat := h ▸ List.mem_map_of_mem _ hb
  obtain ⟨x, hx, hxb⟩ := List.mem_map.mp hmem
  exact hxb ▸ (bearerPrefix_ascii x hx).1

/-- The `Authorization` branch: the test on the lower-cased header is the
case-insensitive test on its own first seven bytes. -/
theorem extractToken_bearer (t : LowerCaseTable) (a : GoString) :
    (if a = [] then [] else if !hasPrefix (toLower t a) bearerPrefix then []
      else trimSpace (a.drop bearerPrefix.length)) =
      if (a.take 7).map (fun b => asciiLower b.toNat) = bearerPrefix.map UInt8.toNat then trimSpace (a.drop 7)
      else [] := by
  have hpre : hasPrefix (toLower t a) bearerPrefix = true ↔ _ :=
    isPrefixOf_toLower_iff t bearerPrefix a bearerPrefix_ascii
  by_cases hb : (a.take 7).map (fun b => asciiLower b.toNat) = bearerPrefix.map UInt8.toNat
  · have ha : a ≠ [] := by rintro rfl; exact absurd (bearer_slice hb).1 (by decide)
    rw [if_neg ha, if_pos hb, hpre.mpr hb]
    rfl
  · have hf : hasPrefix (toLower t a) bearerPrefix = false := by
      rw [← Bool.not_eq_true]; exact mt hpre.mp hb
    rw [if_neg hb, hf]
    simp

/-- **Which token `extractToken` returns.** The trimmed `X-Gotify-Key` header, else the
trimmed first `token` query value, else, when the trimmed `Authorization` header `a`
starts with `bearer ` in any ASCII letter case, `a` without those seven bytes,
trimmed; else nothing. The test `extractToken` makes on `strings.ToLower(a)` is that
test on `a` itself, whatever Unicode `a` holds, and then the seven bytes sliced off
`a` are ASCII. -/
theorem extractToken_spec (t : LowerCaseTable) (request : Request) :
    let headerToken := trimSpace (valuesGet request.header (lit "X-Gotify-Key"))
    let queryToken := trimSpace (valuesGet request.query (lit "token"))
    let a := trimSpace (valuesGet request.header (lit "Authorization"))
    let bearer := (a.take 7).map (fun b => asciiLower b.toNat) = bearerPrefix.map UInt8.toNat
    extractToken t request =
        (if headerToken ≠ [] then headerToken
        else if queryToken ≠ [] then queryToken
        else if bearer then trimSpace (a.drop 7) else []) ∧
      (bearer → 7 ≤ a.length ∧ ∀ b ∈ a.take 7, b.toNat < runeSelf) := by
  refine ⟨?_, bearer_slice⟩
  simp only [extractToken, extractToken_bearer]

/-! ## The status-code law -/

section Law

variable (t : LowerCaseTable) (lib : Library) (resolve : Option ResolveAppFunc)
  (forward : Option ForwardMessageFunc) (maxBodyBytes : Int) (request : Request) (messageID : UInt64) (now : Int)

theorem authenticate_eq_none_iff :
    authenticate t request resolve = none ↔
      extractToken t request = [] ∨ ∀ r, resolve = some r → r (extractToken t request) = none := by
  unfold authenticate
  cases resolve with
  | none => simp
  | some r => by_cases h : extractToken t request = [] <;> simp [h]

theorem authenticate_eq_some_iff {app : App} :
    authenticate t request resolve = some app ↔
      extractToken t request ≠ [] ∧ ∃ r, resolve = some r ∧ r (extractToken t request) = some app := by
  unfold authenticate
  cases resolve with
  | none => simp
  | some r => by_cases h : extractToken t request = [] <;> simp [h]

theorem guards_eq_ok_iff {app : App} {msg : MessageRequest} :
    guards t lib resolve maxBodyBytes request = .ok (app, msg) ↔
      request.method = lit "POST" ∧ authenticate t request resolve = some app ∧
        parseMessageRequest t lib { request with bodyLimit := some maxBodyBytes } = .ok msg := by
  unfold guards
  by_cases hm : request.method = lit "POST"
  · rw [if_neg (not_not.mpr hm)]
    cases ha : authenticate t request resolve with
    | none => simp
    | some a =>
      cases hp : parseMessageRequest t lib { request with bodyLimit := some maxBodyBytes } with
      | error e => simp [hm]
      | ok m => simp [hm, and_comm]
  · simp [hm]

theorem messageHandler_of_guards_error {resp : Response}
    (h : guards t lib resolve maxBodyBytes request = .error resp) :
    messageHandler t lib resolve forward maxBodyBytes request messageID now = ⟨resp, messageID, none⟩ := by
  simp [messageHandler, h]

theorem messageHandler_of_guards_ok {app : App} {msg : MessageRequest}
    (h : guards t lib resolve maxBodyBytes request = .ok (app, msg)) :
    messageHandler t lib resolve forward maxBodyBytes request messageID now =
      match forward with
      | none => ⟨writeJSONError 500 (.ofSentinel .errInternalMisconfigured), messageID + 1, none⟩
      | some f => ⟨respond app msg (messageID + 1) now (f app msg (messageID + 1)), messageID + 1,
          some (app, msg, messageID + 1)⟩ := by
  simp only [messageHandler, h]

/-- A request stopped before the body is read gets the same run whatever its body
and whatever the parser would make of it. -/
theorem guards_body_irrelevant (h : request.method ≠ lit "POST" ∨ authenticate t request resolve = none)
    (lib' : Library) (body : GoString) :
    guards t lib' resolve maxBodyBytes { request with body } = guards t lib resolve maxBodyBytes request := by
  have hauth : authenticate t { request with body } resolve = authenticate t request resolve := rfl
  unfold guards
  rcases h with h | h
  · simp [h]
  · simp [hauth, h]

/-- **The status-code law of `messageHandler`**, for every request, resolver,
forwarder, body limit and counter value. 405 for a method other than POST; 403 when
the extracted token is empty or unresolved, and then the run is the same for any
body and any parser; 400 when parsing fails; past parsing the counter has moved by
one, and then 500 with no forwarder, 502 when it fails and 200 with the identifier,
the app's ID and the parsed message otherwise. The counter moves exactly for the
requests that get past parsing, and the forwarder is called at most once, only for
such a request, with the app its own token resolves to, the parsed message and the
identifier just drawn. -/
theorem messageHandler_spec :
    let run := messageHandler t lib resolve forward maxBodyBytes request messageID now
    let token := extractToken t request
    let parsed := parseMessageRequest t lib { request with bodyLimit := some maxBodyBytes }
    let passes := request.method = lit "POST" ∧ ∃ app msg, authenticate t request resolve = some app ∧
      parsed = .ok msg
    (request.method ≠ lit "POST" → run.response.status = 405) ∧
    (request.method = lit "POST" → (token = [] ∨ ∀ r, resolve = some r → r token = none) →
      run.response.status = 403 ∧
        ∀ lib' body, messageHandler t lib' resolve forward maxBodyBytes { request with body } messageID now = run) ∧
    (∀ app err, request.method = lit "POST" → authenticate t request resolve = some app →
      parsed = .error err → run.response.status = 400) ∧
    (∀ app msg, request.method = lit "POST" → authenticate t request resolve = some app → parsed = .ok msg →
      (forward = none → run.response.status = 500) ∧
      ∀ f, forward = some f →
        (f app msg (messageID + 1) ≠ none → run.response.status = 502) ∧
        (f app msg (messageID + 1) = none → run.response =
          ⟨200, .message ⟨messageID + 1, app.id, msg.message, msg.title, msg.priority, now, msg.extras⟩⟩)) ∧
    (passes ∧ run.messageID = messageID + 1 ∨ ¬passes ∧ run.messageID = messageID) ∧
    (∀ app msg id, run.forwarded = some (app, msg, id) →
      request.method = lit "POST" ∧ token ≠ [] ∧ (∃ r, resolve = some r ∧ r token = some app) ∧
        parsed = .ok msg ∧ id = messageID + 1) := by
  intro run token parsed passes
  have hpasses : passes ↔ ∃ app msg, guards t lib resolve maxBodyBytes request = .ok (app, msg) := by
    simp only [passes, guards_eq_ok_iff]
    exact ⟨fun ⟨hm, app, msg, ha, hp⟩ => ⟨app, msg, hm, ha, hp⟩, fun ⟨app, msg, hm, ha, hp⟩ => ⟨hm, app, msg, ha, hp⟩⟩
  refine ⟨fun hm => ?_, fun hm htok => ?_, fun app err hm ha hp => ?_, fun app msg hm ha hp => ?_, ?_, ?_⟩
  · simp [run, messageHandler, guards, hm, writeJSONError]
  · have ha := (authenticate_eq_none_iff t resolve request).mpr htok
    have hadm : guards t lib resolve maxBodyBytes request = .error (writeJSONError 403 (.ofSentinel .errTokenMissingOrInvalid)) := by
      simp [guards, hm, ha]
    refine ⟨by simp [run, messageHandler_of_guards_error (h := hadm), writeJSONError], fun lib' body => ?_⟩
    simp only [run, messageHandler, guards_body_irrelevant t lib resolve maxBodyBytes request (.inr ha)]
  · have hp' : parseMessageRequest t lib { request with bodyLimit := some maxBodyBytes } = .error err := hp
    have hadm : guards t lib resolve maxBodyBytes request = .error (writeParseError err) := by
      unfold guards
      rw [if_neg (not_not.mpr hm), ha]
      dsimp only
      rw [hp']
    simp only [run, messageHandler_of_guards_error (h := hadm), writeParseError]
    split_ifs <;> rfl
  · have hadm := (guards_eq_ok_iff t lib resolve maxBodyBytes request).mpr ⟨hm, ha, hp⟩
    refine ⟨fun hf => by simp [run, messageHandler_of_guards_ok (h := hadm), hf, writeJSONError],
      fun f hf => ⟨fun he => ?_, fun he => ?_⟩⟩
    · obtain ⟨e, he⟩ := Option.ne_none_iff_exists'.mp he
      simp [run, messageHandler_of_guards_ok (h := hadm), hf, he, respond, writeJSONError]
    · simp [run, messageHandler_of_guards_ok (h := hadm), hf, he, respond]
  · cases hadm : guards t lib resolve maxBodyBytes request with
    | error resp =>
      refine .inr ⟨fun hp => ?_, by simp [run, messageHandler_of_guards_error (h := hadm)]⟩
      obtain ⟨app, msg, h⟩ := hpasses.mp hp
      simp [hadm] at h
    | ok am =>
      refine .inl ⟨hpasses.mpr ⟨am.1, am.2, hadm⟩, ?_⟩
      rw [show run = _ from messageHandler_of_guards_ok t lib resolve forward maxBodyBytes request messageID now hadm]
      cases forward <;> rfl
  · intro app msg id hf
    cases hadm : guards t lib resolve maxBodyBytes request with
    | error resp => simp [run, messageHandler_of_guards_error (h := hadm)] at hf
    | ok am =>
      obtain ⟨hm, ha, hp⟩ := (guards_eq_ok_iff t lib resolve maxBodyBytes request).mp hadm
      have hf' := hf
      rw [show run = _ from messageHandler_of_guards_ok t lib resolve forward maxBodyBytes request messageID now hadm] at hf'
      cases forward with
      | none => cases hf'
      | some f =>
        simp only [Option.some.injEq, Prod.mk.injEq] at hf'
        obtain ⟨rfl, rfl, rfl⟩ := hf'
        obtain ⟨htok, r, hr, hra⟩ := (authenticate_eq_some_iff t resolve request).mp ha
        exact ⟨hm, htok, ⟨r, hr, hra⟩, hp, rfl⟩

end Law

end Gotilert.Server
