/-
**The message endpoint under concurrent requests**: the handlers `net/http` runs at
once, one per request, sharing the counter `messageID` and the forwarder that
`buildHTTPServer` wires in.

## What the handlers share

Every handler runs the body of `messageHandler`. What they share is the package
variable `messageID`, which a handler that gets past parsing advances by one atomic
`Add(1)`, and the maps of the app table and of the forwarder. A handler's run is
therefore cut at the draw: the three guards (`guards`), which read only the request and the
table; the draw; and the call of the forwarder with the response (`respond`). A
`ServerState` holds the counter, the heap and where each handler is; a schedule is
any list of `Action`s, each naming the handler that moves, and `serverRun` runs it.
Every interleaving of the handlers is a schedule.

The call of the forwarder is one step. It writes only the two maps it allocates,
which no other handler reads, and it reads only maps that nothing writes once
`buildHTTPServer` has returned (`forward_extends`): its steps commute with every
other handler's, so cutting it finer changes no result. `buildHTTPServer` always
wires a forwarder, so the handler's 500 branch does not arise here.

## What is proved

`ServerInv` holds on every state a schedule reaches (`serverInv_run`). It counts the
handlers holding an identifier: while fewer than 2^64 have drawn, the identifiers
held are distinct and lie between 1 and that count. Every handler that called the
forwarder posted, on every attempt, one alert whose `gotilert_id` label is the
decimal form of its identifier, and a 200 carries that identifier. A handler whose
request passes the guards also gets on: no step turns it away or sets it back, and its
own guard, draw and forward steps each take it one `stage` further
(`stage_serverRun_of_sublist`), so once they have run in that order it holds an
identifier and has called the forwarder. `concurrent_message_identifiers` puts this
together, and
`concurrent_identifiers_exhaustive` adds that the identifiers held are exactly
`1, …, n` for `n` handlers, with the counter at `n`. A handler run on its own is
`messageHandler` (`serverRun_alone`).
-/
import Gotilert.Main.Forwarder
import Mathlib.Data.Set.Card

set_option autoImplicit false

namespace Gotilert.Main

open Gotilert.Go Gotilert.Gotify Gotilert.Alertmanager Gotilert.Config Gotilert.Server

/-! ## The server -/

/-- What `buildHTTPServer` gives the message endpoint: the table of
`newResolveAppFunc`, the forwarder of `newForwarder` and `MaxBodyBytes`. -/
structure Endpoint where
  apps : GoMap GoString App
  forwarder : Forwarder
  maxBodyBytes : Int

/-- The function `newResolveAppFunc` returns: `apps[token]`. -/
def Endpoint.resolve (e : Endpoint) : ResolveAppFunc := fun token => e.apps.lookup token

/-- `buildHTTPServer(cfg)`, the part the message endpoint reads; `amClient` is the
client `newAlertmanagerClient` returned. -/
def buildHTTPServer (cfg : Config) (order : Enumeration cfg.apps) (amClient : Option Client) (h : Heap) :
    Endpoint × Heap :=
  let resolveApp := newResolveAppFunc cfg order h
  let forward := newForwarder cfg amClient resolveApp.2
  (⟨resolveApp.1, forward.1, 2 ^ 20⟩, forward.2)

/-- Where the handler of one request is. -/
inductive Phase where
  /-- Not started. -/
  | idle
  /-- Past the three guards, before `messageID.Add(1)`. -/
  | admitted (app : App) (msg : MessageRequest)
  /-- Holding the identifier it drew. -/
  | drawn (app : App) (msg : MessageRequest) (messageIdentifier : UInt64)
  /-- Answered by a guard: 405, 403 or 400. -/
  | rejected (response : Response)
  /-- Answered after the forwarder's call returned `result`. -/
  | forwarded (app : App) (msg : MessageRequest) (messageIdentifier : UInt64) (result : CallResult)
      (response : Response)

/-- The identifier a handler holds. -/
def Phase.messageIdentifier : Phase → Option UInt64
  | .drawn _ _ id | .forwarded _ _ id _ _ => some id
  | _ => none

/-- The response a handler wrote. -/
def Phase.response : Phase → Option Response
  | .rejected response | .forwarded _ _ _ _ response => some response
  | _ => none

structure ServerState where
  messageID : UInt64
  heap : Heap
  handlers : Nat → Phase

/-- The server once `buildHTTPServer` returned `h`: the counter at Go's zero value and
no request yet. -/
def initialState (h : Heap) : ServerState := ⟨0, h, fun _ => .idle⟩

/-- One step of one handler. -/
inductive Action where
  /-- The method, token and body checks of handler `i`. -/
  | guard (i : Nat)
  /-- `messageIdentifier := messageID.Add(1)` in handler `i`. -/
  | draw (i : Nat)
  /-- The forwarder's call in handler `i`, and its response at clock `now`. -/
  | forward (i : Nat) (env : CallEnv) (now : Int)

/-- The handler an action moves. -/
def Action.handler : Action → Nat
  | .guard i | .draw i | .forward i _ _ => i

/-- The stage an action takes its handler to. -/
def Action.stage : Action → Nat
  | .guard _ => 1
  | .draw _ => 2
  | .forward _ _ _ => 3

/-- How far a handler whose request passes the guards has got: past the guards,
holding its identifier, answered after the forwarder's call. A handler not started, or
turned away by a guard, has got nowhere. -/
def Phase.stage : Phase → Nat
  | .idle | .rejected _ => 0
  | .admitted _ _ => 1
  | .drawn _ _ _ => 2
  | .forwarded _ _ _ _ _ => 3

theorem Phase.isSome_messageIdentifier_of_stage {p : Phase} (h : 2 ≤ p.stage) : p.messageIdentifier.isSome := by
  cases p with
  | drawn | forwarded => rfl
  | idle | rejected | admitted => simp [Phase.stage] at h

section Run

variable (t : LowerCaseTable) (lib : Library) (e : Endpoint) (requests : Nat → Request)

/-- One step; an action whose handler is not at that point does nothing. -/
def serverStep (s : ServerState) : Action → ServerState
  | .guard i =>
    match s.handlers i with
    | .idle =>
      match guards t lib (some e.resolve) e.maxBodyBytes (requests i) with
      | .ok (app, msg) => { s with handlers := Function.update s.handlers i (.admitted app msg) }
      | .error response => { s with handlers := Function.update s.handlers i (.rejected response) }
    | _ => s
  | .draw i =>
    match s.handlers i with
    | .admitted app msg =>
      let messageIdentifier := s.messageID + 1
      ⟨messageIdentifier, s.heap, Function.update s.handlers i (.drawn app msg messageIdentifier)⟩
    | _ => s
  | .forward i env now =>
    match s.handlers i with
    | .drawn app msg messageIdentifier =>
      let r := e.forwarder.forward env app msg messageIdentifier s.heap
      ⟨s.messageID, r.heap, Function.update s.handlers i
        (.forwarded app msg messageIdentifier r (respond app msg messageIdentifier now r.err))⟩
    | _ => s

/-- A schedule, run from `s`. -/
def serverRun (s : ServerState) (schedule : List Action) : ServerState :=
  schedule.foldl (serverStep t lib e requests) s

/-- **A step moves only its own handler.** -/
theorem serverStep_handlers_of_ne (s : ServerState) {a : Action} {j : Nat} (hj : j ≠ a.handler) :
    (serverStep t lib e requests s a).handlers j = s.handlers j := by
  cases a with
  | guard i | draw i | forward i env now =>
    dsimp only [serverStep]
    repeat' split
    all_goals first | rfl | exact Function.update_noteq hj _ _

@[simp] theorem serverRun_nil (s : ServerState) : serverRun t lib e requests s [] = s := rfl

@[simp] theorem serverRun_cons (s : ServerState) (a : Action) (schedule : List Action) :
    serverRun t lib e requests s (a :: schedule) = serverRun t lib e requests (serverStep t lib e requests s a) schedule :=
  rfl

theorem serverRun_append (s : ServerState) (schedule schedule' : List Action) :
    serverRun t lib e requests s (schedule ++ schedule') =
      serverRun t lib e requests (serverRun t lib e requests s schedule) schedule' :=
  List.foldl_append _ _ _ _

/-- **A handler run on its own is `messageHandler`**, with the counter it found and
the forwarder's call on the heap it found: the same response and the same counter
afterwards. -/
theorem serverRun_alone (s : ServerState) (i : Nat) (hi : s.handlers i = .idle) (env : CallEnv) (now : Int) :
    let s' := serverRun t lib e requests s [.guard i, .draw i, .forward i env now]
    let run := messageHandler t lib (some e.resolve)
      (some fun app msg id => (e.forwarder.forward env app msg id s.heap).err) e.maxBodyBytes (requests i)
      s.messageID now
    s'.messageID = run.messageID ∧ (s'.handlers i).response = some run.response := by
  intro s' run
  cases ha : guards t lib (some e.resolve) e.maxBodyBytes (requests i) with
  | error response =>
    simp [s', run, serverStep, hi, ha, messageHandler_of_guards_error (h := ha), Phase.response]
  | ok am =>
    simp [s', run, serverStep, hi, ha, messageHandler_of_guards_ok (h := ha), Phase.response]

end Run

/-- `POST /message` with the token `tok` in `X-Gotify-Key` and a JSON body. -/
def sampleRequest : Request :=
  ⟨lit "POST", ((∅ : Values).insert (lit "X-Gotify-Key") [lit "tok"]).insert (lit "Content-Type")
    [lit "application/json"], [], [], none⟩

/-- A library that reads every `Content-Type` as its own media type and decodes every
JSON body as the message `disk full`. -/
def sampleJsonLibrary : Library := ⟨some, fun _ => .ok ⟨lit "disk full", [], none, none⟩⟩

/-- The message `ParseMessageRequest` makes of `sampleRequest`. -/
def sampleMessage : MessageRequest := ⟨lit "disk full", [], defaultPriority, none⟩

/-- `sampleRequest`, handled alone from the start: it passes the guards, draws and
calls the forwarder, and gets the response `messageHandler` gives it on a fresh
counter. -/
theorem sampleServer_alone :
    (initialState (buildHTTPServer sampleConfig (.ofKeys _) (some sampleClient) sampleHeap).2).handlers 0 = .idle ∧
    guards asciiOnlyLowerCase sampleJsonLibrary (some (buildHTTPServer sampleConfig (.ofKeys _) (some sampleClient) sampleHeap).1.resolve) (buildHTTPServer sampleConfig (.ofKeys _) (some sampleClient) sampleHeap).1.maxBodyBytes sampleRequest =
      .ok (sampleCall.app, sampleMessage) ∧
    (let e := (buildHTTPServer sampleConfig (.ofKeys _) (some sampleClient) sampleHeap).1
    let s := initialState (buildHTTPServer sampleConfig (.ofKeys _) (some sampleClient) sampleHeap).2
    let s' := serverRun asciiOnlyLowerCase sampleJsonLibrary e (fun _ => sampleRequest) s
      [.guard 0, .draw 0, .forward 0 sampleCall.env 0]
    let run := messageHandler asciiOnlyLowerCase sampleJsonLibrary (some e.resolve)
      (some fun app msg id => (e.forwarder.forward sampleCall.env app msg id s.heap).err) e.maxBodyBytes
      sampleRequest s.messageID 0
    s'.messageID = run.messageID ∧ (s'.handlers 0).response = some run.response) :=
  ⟨rfl, rfl, serverRun_alone asciiOnlyLowerCase sampleJsonLibrary _ (fun _ => sampleRequest) _ 0 rfl sampleCall.env 0⟩

/-! ## The invariant -/

/-- The handlers holding an identifier. -/
def accepted (s : ServerState) : Set Nat := {i | (s.handlers i).messageIdentifier.isSome}

theorem accepted_initialState (h : Heap) : accepted (initialState h) = ∅ := by
  ext i; simp [accepted, initialState, Phase.messageIdentifier]

/-- What a handler's phase says of its request. -/
def PhaseInv (t : LowerCaseTable) (lib : Library) (e : Endpoint) (request : Request) : Phase → Prop
  | .idle => True
  | .admitted app msg | .drawn app msg _ => guards t lib (some e.resolve) e.maxBodyBytes request = .ok (app, msg)
  | .rejected response => guards t lib (some e.resolve) e.maxBodyBytes request = .error response
  | .forwarded app msg id r response =>
    guards t lib (some e.resolve) e.maxBodyBytes request = .ok (app, msg) ∧
      (∃ env h, h.Valid app.labels ∧ r = e.forwarder.forward env app msg id h) ∧
      ∃ now, response = respond app msg id now r.err

/-- What holds on every state a schedule reaches from `initialState h`. -/
structure ServerInv (t : LowerCaseTable) (lib : Library) (e : Endpoint) (requests : Nat → Request) (h : Heap)
    (s : ServerState) : Prop where
  heap : h.Extends s.heap
  finite : (accepted s).Finite
  count : s.messageID.toNat = (accepted s).ncard % 2 ^ 64
  bounded : (accepted s).ncard < 2 ^ 64 → ∀ i id, (s.handlers i).messageIdentifier = some id →
    0 < id.toNat ∧ id.toNat ≤ (accepted s).ncard
  distinct : (accepted s).ncard < 2 ^ 64 → ∀ i j id, (s.handlers i).messageIdentifier = some id →
    (s.handlers j).messageIdentifier = some id → i = j
  phase : ∀ i, PhaseInv t lib e (requests i) (s.handlers i)

theorem toNat_add_one (a : UInt64) : (a + 1).toNat = (a.toNat + 1) % 2 ^ 64 := by
  show (a.val + 1).val = _
  rw [Fin.val_add]
  rfl

/-- Replacing a handler's phase by one holding the same identifier keeps the set. -/
theorem accepted_update_of_eq (s : ServerState) {i : Nat} {p : Phase}
    (hp : p.messageIdentifier = (s.handlers i).messageIdentifier) (heap : Heap) (messageID : UInt64) :
    accepted ⟨messageID, heap, Function.update s.handlers i p⟩ = accepted s := by
  ext j
  simp only [accepted, Set.mem_setOf_eq, Function.update_apply]
  split_ifs with hj
  · rw [hj, hp]
  · rfl

theorem accepted_update_insert (s : ServerState) (i : Nat) {p : Phase} (hp : p.messageIdentifier.isSome)
    (heap : Heap) (messageID : UInt64) :
    accepted ⟨messageID, heap, Function.update s.handlers i p⟩ = insert i (accepted s) := by
  ext j
  simp only [accepted, Set.mem_setOf_eq, Set.mem_insert_iff, Function.update_apply]
  split_ifs with hj <;> simp [hj, hp]

/-- An app a handler got past the guards with is in the table. -/
theorem mem_apps_of_guards {t : LowerCaseTable} {lib : Library} {e : Endpoint} {request : Request} {app : App}
    {msg : MessageRequest} (h : guards t lib (some e.resolve) e.maxBodyBytes request = .ok (app, msg)) :
    ∃ token, e.apps.lookup token = some app := by
  obtain ⟨-, ha, -⟩ := (guards_eq_ok_iff _ _ _ _ _).mp h
  obtain ⟨-, r, hr, happ⟩ := (authenticate_eq_some_iff _ _ _).mp ha
  cases hr
  exact ⟨_, happ⟩

section Step

variable {t : LowerCaseTable} {lib : Library} {e : Endpoint} {requests : Nat → Request} {h : Heap}

/-- The labels of every app in the table are allocated before the server starts. -/
def TableAllocated (e : Endpoint) (h : Heap) : Prop := ∀ token app, e.apps.lookup token = some app → h.Valid app.labels

/-- A step that changes one handler's phase, and neither the counter nor who holds
an identifier, keeps the invariant. -/
theorem serverInv_update {s : ServerState} (hinv : ServerInv t lib e requests h s) {i : Nat} {p : Phase}
    (hp : p.messageIdentifier = (s.handlers i).messageIdentifier) {heap : Heap} (hheap : h.Extends heap)
    (hphase : PhaseInv t lib e (requests i) p) :
    ServerInv t lib e requests h ⟨s.messageID, heap, Function.update s.handlers i p⟩ := by
  have hacc := accepted_update_of_eq s hp heap s.messageID
  have hid : ∀ j, (Function.update s.handlers i p j).messageIdentifier = (s.handlers j).messageIdentifier := by
    intro j
    rw [Function.update_apply]
    split_ifs with hj
    · rw [hj, hp]
    · rfl
  refine ⟨hheap, hacc ▸ hinv.finite, hacc ▸ hinv.count, ?_, ?_, fun j => ?_⟩
  · simpa only [hacc, hid] using hinv.bounded
  · simpa only [hacc, hid] using hinv.distinct
  · simp only [Function.update_apply]
    split_ifs with hj
    · exact hj ▸ hphase
    · exact hinv.phase j

/-- The draw: one more handler holds an identifier, one above every other while
fewer than 2^64 have drawn. -/
theorem serverInv_draw {s : ServerState} (hinv : ServerInv t lib e requests h s) {i : Nat} {app : App}
    {msg : MessageRequest} (hi : s.handlers i = .admitted app msg) :
    ServerInv t lib e requests h
      ⟨s.messageID + 1, s.heap, Function.update s.handlers i (.drawn app msg (s.messageID + 1))⟩ := by
  have hnot : i ∉ accepted s := by
    rw [accepted, Set.mem_setOf_eq, hi]
    exact Bool.false_ne_true
  have hacc := accepted_update_insert s i (p := .drawn app msg (s.messageID + 1)) rfl s.heap (s.messageID + 1)
  have hcard : (insert i (accepted s)).ncard = (accepted s).ncard + 1 := Set.ncard_insert_of_not_mem hnot hinv.finite
  have hcount := hinv.count
  -- while no draw has wrapped, the new identifier is one above every one held before
  have hnew : (accepted s).ncard + 1 < 2 ^ 64 → (s.messageID + 1).toNat = (accepted s).ncard + 1 := fun hlt => by
    rw [toNat_add_one, hcount]
    omega
  have hold : (accepted s).ncard + 1 < 2 ^ 64 → ∀ j id, (s.handlers j).messageIdentifier = some id →
      0 < id.toNat ∧ id.toNat ≤ (accepted s).ncard := fun hlt => hinv.bounded (by omega)
  refine ⟨hinv.heap, hacc ▸ hinv.finite.insert i, ?_, ?_, ?_, fun j => ?_⟩
  · rw [hacc, hcard, toNat_add_one, hcount, Nat.mod_add_mod]
  · rw [hacc, hcard]
    intro hlt j id hj
    simp only [Function.update_apply] at hj
    split_ifs at hj
    · obtain rfl := Option.some.inj hj
      have := hnew hlt
      omega
    · have := hold hlt j id hj
      omega
  · rw [hacc, hcard]
    intro hlt j k id hj hk
    simp only [Function.update_apply] at hj hk
    split_ifs at hj hk with hji hki
    · rw [hji, hki]
    · obtain rfl := Option.some.inj hj
      have := hnew hlt; have := hold hlt k _ hk
      omega
    · obtain rfl := Option.some.inj hk
      have := hnew hlt; have := hold hlt j _ hj
      omega
    · exact hinv.distinct (by omega) j k id hj hk
  · simp only [Function.update_apply]
    split_ifs with hji
    · have := hinv.phase i
      rw [hi] at this
      exact hji ▸ this
    · exact hinv.phase j

/-- **One step keeps the invariant**, whichever handler moves. -/
theorem serverInv_step (htable : TableAllocated e h) {s : ServerState} (hinv : ServerInv t lib e requests h s)
    (a : Action) : ServerInv t lib e requests h (serverStep t lib e requests s a) := by
  cases a with
  | guard i =>
    dsimp only [serverStep]
    split
    · next hi =>
      split
      · next app msg ha =>
        exact serverInv_update hinv (by simp [hi, Phase.messageIdentifier]) hinv.heap ha
      · next response ha =>
        exact serverInv_update hinv (by simp [hi, Phase.messageIdentifier]) hinv.heap ha
    · exact hinv
  | draw i =>
    dsimp only [serverStep]
    split
    · next app msg hi => exact serverInv_draw hinv hi
    · exact hinv
  | forward i env now =>
    dsimp only [serverStep]
    split
    · next app msg id hi =>
      have hadm : guards t lib (some e.resolve) e.maxBodyBytes (requests i) = .ok (app, msg) := by
        have := hinv.phase i
        rwa [hi] at this
      obtain ⟨token, htok⟩ := mem_apps_of_guards hadm
      have happ : s.heap.Valid app.labels := hinv.heap.valid (htable token app htok)
      exact serverInv_update hinv (by simp [hi, Phase.messageIdentifier])
        (hinv.heap.trans (forward_extends e.forwarder env app msg id s.heap)) ⟨hadm, ⟨env, s.heap, happ, rfl⟩, now, rfl⟩
    · exact hinv

/-- **Every state a schedule reaches keeps the invariant.** -/
theorem serverInv_run (htable : TableAllocated e h) :
    ∀ (schedule : List Action) (s : ServerState), ServerInv t lib e requests h s →
      ServerInv t lib e requests h (serverRun t lib e requests s schedule)
  | [], _, hinv => hinv
  | a :: schedule, _, hinv => serverInv_run htable schedule _ (serverInv_step htable hinv a)

theorem serverInv_initialState : ServerInv t lib e requests h (initialState h) := by
  have hacc := accepted_initialState h
  refine ⟨Heap.Extends.refl h, hacc ▸ Set.finite_empty, by rw [hacc, Set.ncard_empty]; rfl,
    fun _ i id hi => ?_, fun _ i _ id hi => ?_, fun _ => trivial⟩ <;>
    simp [initialState, Phase.messageIdentifier] at hi

/-- An identifier, once drawn, stays with its handler. -/
theorem messageIdentifier_serverStep {s : ServerState} {i : Nat} {id : UInt64}
    (hi : (s.handlers i).messageIdentifier = some id) (a : Action) :
    ((serverStep t lib e requests s a).handlers i).messageIdentifier = some id := by
  -- a step rewrites one handler, from a phase with no identifier or to one with the same
  have keep : ∀ j p, ((s.handlers j).messageIdentifier = none ∨
      p.messageIdentifier = (s.handlers j).messageIdentifier) →
      (Function.update s.handlers j p i).messageIdentifier = some id := fun j p hp => by
    rw [Function.update_apply]
    split_ifs with hij
    · subst hij
      rcases hp with hp | hp
      · rw [hp] at hi; cases hi
      · rw [hp, hi]
    · exact hi
  cases a with
  | guard j =>
    dsimp only [serverStep]
    split
    · next hj => split <;> exact keep j _ (.inl (by rw [hj]; rfl))
    · exact hi
  | draw j =>
    dsimp only [serverStep]
    split
    · next hj => exact keep j _ (.inl (by rw [hj]; rfl))
    · exact hi
  | forward j env now =>
    dsimp only [serverStep]
    split
    · next hj => exact keep j _ (.inr (by rw [hj]; rfl))
    · exact hi

theorem messageIdentifier_serverRun {i : Nat} {id : UInt64} :
    ∀ (schedule : List Action) (s : ServerState), (s.handlers i).messageIdentifier = some id →
      ((serverRun t lib e requests s schedule).handlers i).messageIdentifier = some id
  | [], _, hi => hi
  | a :: schedule, _, hi => messageIdentifier_serverRun schedule _ (messageIdentifier_serverStep hi a)

/-- While fewer than 2^64 handlers have drawn, the counter is their number `n`, and
the identifiers they hold are `1, …, n`. -/
theorem ServerInv.identifiers_image {s : ServerState} (hinv : ServerInv t lib e requests h s)
    (hlt : (accepted s).ncard < 2 ^ 64) :
    s.messageID.toNat = (accepted s).ncard ∧
      (fun i => ((s.handlers i).messageIdentifier.getD 0).toNat) '' accepted s =
        Set.Icc 1 (accepted s).ncard := by
  set g := fun i => ((s.handlers i).messageIdentifier.getD 0).toNat
  have held : ∀ i ∈ accepted s, ∃ id, (s.handlers i).messageIdentifier = some id ∧ g i = id.toNat :=
    fun i hi => by
      obtain ⟨id, hid⟩ := Option.isSome_iff_exists.mp hi
      exact ⟨id, hid, by simp [g, hid]⟩
  have hinj : Set.InjOn g (accepted s) := fun i hi j hj hij => by
    obtain ⟨id, hid, hgi⟩ := held i hi
    obtain ⟨id', hid', hgj⟩ := held j hj
    have : id = id' := UInt64.eq_of_val_eq (Fin.ext (hgi.symm.trans (hij.trans hgj)))
    exact hinv.distinct hlt i j id hid (this ▸ hid')
  have hsub : g '' accepted s ⊆ Set.Icc 1 (accepted s).ncard := by
    rintro _ ⟨i, hi, rfl⟩
    obtain ⟨id, hid, hgi⟩ := held i hi
    have := hinv.bounded hlt i id hid
    exact ⟨by omega, by omega⟩
  have hIcc : (Set.Icc 1 (accepted s).ncard).ncard = (accepted s).ncard := by
    rw [← Finset.coe_Icc, Set.ncard_coe_Finset, Nat.card_Icc]
    omega
  refine ⟨by rw [hinv.count, Nat.mod_eq_of_lt hlt], Set.eq_of_subset_of_ncard_le hsub ?_ (Set.finite_Icc _ _)⟩
  rw [hIcc, Set.ncard_image_of_injOn hinj]

end Step

/-! ## Progress of a handler -/

section Progress

variable {t : LowerCaseTable} {lib : Library} {e : Endpoint} {requests : Nat → Request} {i : Nat} {app : App}
  {msg : MessageRequest}

/-- **One step on a handler whose request passes the guards**: no step turns it away
or sets it back, and its own step takes it to that step's stage from the stage just
below. -/
theorem stage_serverStep (hok : guards t lib (some e.resolve) e.maxBodyBytes (requests i) = .ok (app, msg))
    {s : ServerState} (hs : ∀ r, s.handlers i ≠ .rejected r) (a : Action) :
    (∀ r, (serverStep t lib e requests s a).handlers i ≠ .rejected r) ∧
      (s.handlers i).stage ≤ ((serverStep t lib e requests s a).handlers i).stage ∧
      (a.handler = i → a.stage ≤ (s.handlers i).stage + 1 →
        a.stage ≤ ((serverStep t lib e requests s a).handlers i).stage) := by
  by_cases hi : i = a.handler
  · cases a with
    | guard j | draw j | forward j env now =>
      obtain rfl : i = j := hi
      cases hp : s.handlers i with
      | rejected r => exact absurd hp (hs r)
      | idle | admitted | drawn | forwarded =>
        simp [serverStep, hp, hok, Phase.stage, Action.stage]
  · rw [serverStep_handlers_of_ne t lib e requests s hi]
    exact ⟨hs, le_rfl, fun h => absurd h.symm hi⟩

/-- **Over a run**, a handler whose request passes the guards is never turned away nor
set back, and each of its steps in the schedule takes it at least to that step's stage
when it started at most one stage below. -/
theorem stage_serverRun (hok : guards t lib (some e.resolve) e.maxBodyBytes (requests i) = .ok (app, msg)) :
    ∀ (schedule : List Action) (s : ServerState), (∀ r, s.handlers i ≠ .rejected r) →
      (∀ r, (serverRun t lib e requests s schedule).handlers i ≠ .rejected r) ∧
        (s.handlers i).stage ≤ ((serverRun t lib e requests s schedule).handlers i).stage ∧
        ∀ a ∈ schedule, a.handler = i → a.stage ≤ (s.handlers i).stage + 1 →
          a.stage ≤ ((serverRun t lib e requests s schedule).handlers i).stage
  | [], _, hs => ⟨hs, le_rfl, fun _ ha => absurd ha (List.not_mem_nil _)⟩
  | a :: schedule, s, hs => by
    obtain ⟨hs1, hle1, hown⟩ := stage_serverStep hok hs a
    obtain ⟨hs2, hle2, hrest⟩ := stage_serverRun hok schedule _ hs1
    refine ⟨hs2, hle1.trans hle2, fun b hb hbi hbs => ?_⟩
    rcases List.mem_cons.mp hb with rfl | hb
    · exact (hown hbi hbs).trans hle2
    · exact hrest b hb hbi (by omega)

/-- A handler's steps at consecutive stages, run in order among the others' steps,
take it that many stages on. -/
theorem stage_serverRun_of_sublist
    (hok : guards t lib (some e.resolve) e.maxBodyBytes (requests i) = .ok (app, msg)) :
    ∀ (acts schedule : List Action) (s : ServerState) (k : Nat), (∀ r, s.handlers i ≠ .rejected r) →
      acts.Sublist schedule → (∀ a ∈ acts, a.handler = i) → acts.map Action.stage = List.range' (k + 1) acts.length →
      k ≤ (s.handlers i).stage → k + acts.length ≤ ((serverRun t lib e requests s schedule).handlers i).stage
  | [], schedule, s, _, hs, _, _, _, hk => hk.trans (stage_serverRun hok schedule s hs).2.1
  | a :: acts, schedule, s, k, hs, hsub, hi, hst, hk => by
    obtain ⟨r1, r2, rfl, ha, hsub'⟩ := List.cons_sublist_iff.mp hsub
    simp only [List.map_cons, List.length_cons, List.range'_succ, List.cons.injEq] at hst
    obtain ⟨hs1, -, hown⟩ := stage_serverRun hok r1 s hs
    have hk1 : k + 1 ≤ ((serverRun t lib e requests s r1).handlers i).stage :=
      hst.1 ▸ hown a ha (hi a (List.mem_cons_self _ _)) (by omega)
    have := stage_serverRun_of_sublist hok acts r2 _ (k + 1) hs1 hsub'
      (fun b hb => hi b (List.mem_cons_of_mem _ hb)) hst.2 hk1
    rw [serverRun_append, List.length_cons]
    omega

theorem Phase.eq_forwarded_of_stage {p : Phase} (h : 3 ≤ p.stage) :
    ∃ app msg id r response, p = .forwarded app msg id r response := by
  cases p with
  | forwarded app msg id r response => exact ⟨app, msg, id, r, response, rfl⟩
  | idle | rejected | admitted | drawn => simp [Phase.stage] at h

end Progress

/-! ## How many handlers hold an identifier -/

section Count

variable {t : LowerCaseTable} {lib : Library} {e : Endpoint} {requests : Nat → Request}

theorem accepted_serverStep_subset (s : ServerState) (a : Action) :
    accepted (serverStep t lib e requests s a) ⊆ insert a.handler (accepted s) := fun j hj => by
  by_cases hja : j = a.handler
  · exact Set.mem_insert_iff.mpr (.inl hja)
  · refine Set.mem_insert_of_mem _ ?_
    simpa only [accepted, Set.mem_setOf_eq, serverStep_handlers_of_ne t lib e requests s hja] using hj

/-- **At most one more handler holds an identifier after each step.** -/
theorem ncard_accepted_serverRun_le :
    ∀ (schedule : List Action) (s : ServerState), (accepted s).Finite →
      (accepted (serverRun t lib e requests s schedule)).Finite ∧
        (accepted (serverRun t lib e requests s schedule)).ncard ≤ (accepted s).ncard + schedule.length
  | [], _, hfin => ⟨hfin, le_refl _⟩
  | a :: schedule, s, hfin => by
    have hsub := @accepted_serverStep_subset t lib e requests s a
    have hle : (accepted (serverStep t lib e requests s a)).ncard ≤ (accepted s).ncard + 1 :=
      (Set.ncard_le_ncard hsub (hfin.insert _)).trans (Set.ncard_insert_le _ _)
    obtain ⟨h1, h2⟩ := ncard_accepted_serverRun_le schedule _ ((hfin.insert a.handler).subset hsub)
    refine ⟨h1, ?_⟩
    rw [serverRun_cons, List.length_cons]
    omega

/-- A schedule of fewer than 2^64 steps from the start draws fewer than 2^64
identifiers. -/
theorem ncard_accepted_lt_of_length (h : Heap) (schedule : List Action) (hlen : schedule.length < 2 ^ 64) :
    (accepted (serverRun t lib e requests (initialState h) schedule)).ncard < 2 ^ 64 := by
  have hle := (@ncard_accepted_serverRun_le t lib e requests schedule (initialState h)
    (by rw [accepted_initialState]; exact Set.finite_empty)).2
  rw [accepted_initialState, Set.ncard_empty] at hle
  omega

end Count

/-! ## The identifier law -/

theorem tableAllocated_buildHTTPServer (cfg : Config) (order : Enumeration cfg.apps) (amClient : Option Client)
    (h0 : Heap) : TableAllocated (buildHTTPServer cfg order amClient h0).1 (buildHTTPServer cfg order amClient h0).2 :=
  fun token app htok => by
    obtain ⟨-, hrow, -⟩ := newResolveAppFunc_spec cfg order h0
    obtain ⟨_, -, -, -, -, -, hvalid, -, -⟩ := hrow token app htok
    exact (extends_copyLabels _ _).valid hvalid

/-- **The identifier law of concurrent requests.** For every configuration, every
set of requests and every interleaving of their handlers, as long as fewer than
2^64 handlers have drawn: a handler whose request passes the guards holds an
identifier once the schedule has run its guard step and then its draw step, and has
called the forwarder once its forward step followed; a handler holds an identifier
only if its request passed the guards, and keeps it for good; no two handlers hold
the same one; a handler that called the forwarder posted, on every attempt, one alert
whose `gotilert_id` label is the decimal form of its identifier, whatever the
configured labels say, and answered a 200 with that identifier; so two such handlers
never post alerts with the same labels. -/
theorem concurrent_message_identifiers (t : LowerCaseTable) (lib : Library) (cfg : Config)
    (order : Enumeration cfg.apps) (amClient : Option Client) (h0 : Heap) (requests : Nat → Request)
    (schedule : List Action)
    (hlt : (accepted (serverRun t lib (buildHTTPServer cfg order amClient h0).1 requests
      (initialState (buildHTTPServer cfg order amClient h0).2) schedule)).ncard < 2 ^ 64) :
    let e := (buildHTTPServer cfg order amClient h0).1
    let s := serverRun t lib e requests (initialState (buildHTTPServer cfg order amClient h0).2) schedule
    (∀ i app msg, guards t lib (some e.resolve) e.maxBodyBytes (requests i) = .ok (app, msg) →
      ([Action.guard i, .draw i].Sublist schedule → ∃ id, (s.handlers i).messageIdentifier = some id) ∧
      ∀ env now, [Action.guard i, .draw i, .forward i env now].Sublist schedule →
        ∃ id r response, s.handlers i = .forwarded app msg id r response) ∧
    (∀ i id, (s.handlers i).messageIdentifier = some id →
      (∃ app msg, guards t lib (some e.resolve) e.maxBodyBytes (requests i) = .ok (app, msg)) ∧
        ∀ later, ((serverRun t lib e requests s later).handlers i).messageIdentifier = some id) ∧
    (∀ i j id, (s.handlers i).messageIdentifier = some id → (s.handlers j).messageIdentifier = some id → i = j) ∧
    (∀ i app msg id r response, s.handlers i = .forwarded app msg id r response →
      r.alert.labels.lookup (lit "gotilert_id") = some (formatUint id.toNat) ∧
      (∀ n as, Step.post n as ∈ r.steps → as = [r.alert]) ∧
      (response.status = 200 → ∃ body, response.body = .message body ∧ body.id = id)) ∧
    (∀ i j app app' msg msg' id id' r r' response response', i ≠ j →
      s.handlers i = .forwarded app msg id r response → s.handlers j = .forwarded app' msg' id' r' response' →
      r.alert.labels.lookup (lit "gotilert_id") ≠ r'.alert.labels.lookup (lit "gotilert_id")) := by
  intro e s
  have hinv : ServerInv t lib e requests _ s :=
    serverInv_run (tableAllocated_buildHTTPServer cfg order amClient h0) schedule _ serverInv_initialState
  have hforwarded : ∀ i app msg id r response, s.handlers i = .forwarded app msg id r response →
      r.alert.labels.lookup (lit "gotilert_id") = some (formatUint id.toNat) ∧
      (∀ n as, Step.post n as ∈ r.steps → as = [r.alert]) ∧ ∃ now, response = respond app msg id now r.err :=
    fun i app msg id r response hi => by
      have := hinv.phase i
      rw [hi] at this
      obtain ⟨-, ⟨env, h, happ, rfl⟩, hresp⟩ := this
      obtain ⟨-, hlab, -, -, -, hpost⟩ := forward_spec e.forwarder env app msg id happ
      exact ⟨by rw [hlab, if_pos rfl], hpost, hresp⟩
  -- a handler past its guards is taken one stage on by each of its own steps
  have hstage : ∀ i app msg, guards t lib (some e.resolve) e.maxBodyBytes (requests i) = .ok (app, msg) →
      ∀ acts : List Action, acts.Sublist schedule → (∀ a ∈ acts, a.handler = i) →
        acts.map Action.stage = List.range' 1 acts.length → acts.length ≤ (s.handlers i).stage :=
    fun i app msg hok acts hsub hi hst => by
      simpa using stage_serverRun_of_sublist hok acts schedule _ 0 (fun _ h => by cases h) hsub hi hst
        (Nat.zero_le _)
  refine ⟨fun i app msg hok => ⟨fun hsub => ?_, fun env now hsub => ?_⟩,
    fun i id hi => ⟨?_, fun later => messageIdentifier_serverRun later s hi⟩, hinv.distinct hlt,
    fun i app msg id r response hi => ?_, fun i j app app' msg msg' id id' r r' response response' hij hi hj => ?_⟩
  · exact Option.isSome_iff_exists.mp (Phase.isSome_messageIdentifier_of_stage
      (hstage i app msg hok _ hsub (by simp [Action.handler]) rfl))
  · obtain ⟨app', msg', id, r, response, hp⟩ :=
      Phase.eq_forwarded_of_stage (hstage i app msg hok _ hsub (by simp [Action.handler]) rfl)
    have hphase := hinv.phase i
    rw [hp] at hphase
    obtain ⟨⟩ := hok.symm.trans hphase.1
    exact ⟨id, r, response, hp⟩
  · have := hinv.phase i
    cases hp : s.handlers i with
    | drawn app msg _ => rw [hp] at this; exact ⟨app, msg, this⟩
    | forwarded app msg _ _ _ => rw [hp] at this; exact ⟨app, msg, this.1⟩
    | idle | admitted _ _ | rejected _ => simp [hp, Phase.messageIdentifier] at hi
  · obtain ⟨hlab, hpost, now, rfl⟩ := hforwarded i app msg id r response hi
    refine ⟨hlab, hpost, fun h200 => ?_⟩
    cases herr : r.err with
    | none => exact ⟨⟨id, app.id, msg.message, msg.title, msg.priority, now, msg.extras⟩, by simp [respond, herr], rfl⟩
    | some err => simp [respond, herr, writeJSONError] at h200
  · rw [(hforwarded i app msg id r response hi).1, (hforwarded j app' msg' id' r' response' hj).1]
    intro heq
    have hid : id = id' := UInt64.eq_of_val_eq (Fin.ext (formatUint_injective (Option.some.inj heq)))
    subst hid
    exact hij (hinv.distinct hlt i j id (by simp [hi, Phase.messageIdentifier]) (by simp [hj, Phase.messageIdentifier]))

/-- Two copies of `sampleRequest` handled at once: both pass the guards, handler 1
draws before handler 0, and both call the forwarder. -/
def sampleSchedule : List Action :=
  [.guard 0, .guard 1, .draw 1, .draw 0, .forward 0 sampleCall.env 0, .forward 1 sampleCall.env 0]

theorem sampleServer_message_identifiers :
    guards asciiOnlyLowerCase sampleJsonLibrary (some (buildHTTPServer sampleConfig (.ofKeys _) (some sampleClient) sampleHeap).1.resolve) (buildHTTPServer sampleConfig (.ofKeys _) (some sampleClient) sampleHeap).1.maxBodyBytes sampleRequest =
      .ok (sampleCall.app, sampleMessage) ∧
    (accepted (serverRun asciiOnlyLowerCase sampleJsonLibrary (buildHTTPServer sampleConfig (.ofKeys _) (some sampleClient) sampleHeap).1 (fun _ => sampleRequest)
      (initialState (buildHTTPServer sampleConfig (.ofKeys _) (some sampleClient) sampleHeap).2) sampleSchedule)).ncard < 2 ^ 64 ∧
    (let e := (buildHTTPServer sampleConfig (.ofKeys _) (some sampleClient) sampleHeap).1
    let s := serverRun asciiOnlyLowerCase sampleJsonLibrary e (fun _ => sampleRequest) (initialState (buildHTTPServer sampleConfig (.ofKeys _) (some sampleClient) sampleHeap).2)
      sampleSchedule
    (∀ i app msg, guards asciiOnlyLowerCase sampleJsonLibrary (some e.resolve) e.maxBodyBytes sampleRequest =
        .ok (app, msg) →
      ([Action.guard i, .draw i].Sublist sampleSchedule → ∃ id, (s.handlers i).messageIdentifier = some id) ∧
      ∀ env now, [Action.guard i, .draw i, .forward i env now].Sublist sampleSchedule →
        ∃ id r response, s.handlers i = .forwarded app msg id r response) ∧
    (∀ i id, (s.handlers i).messageIdentifier = some id →
      (∃ app msg, guards asciiOnlyLowerCase sampleJsonLibrary (some e.resolve) e.maxBodyBytes sampleRequest =
        .ok (app, msg)) ∧
        ∀ later, ((serverRun asciiOnlyLowerCase sampleJsonLibrary e (fun _ => sampleRequest) s later).handlers
          i).messageIdentifier = some id) ∧
    (∀ i j id, (s.handlers i).messageIdentifier = some id → (s.handlers j).messageIdentifier = some id → i = j) ∧
    (∀ i app msg id r response, s.handlers i = .forwarded app msg id r response →
      r.alert.labels.lookup (lit "gotilert_id") = some (formatUint id.toNat) ∧
      (∀ n as, Step.post n as ∈ r.steps → as = [r.alert]) ∧
      (response.status = 200 → ∃ body, response.body = .message body ∧ body.id = id)) ∧
    (∀ i j app app' msg msg' id id' r r' response response', i ≠ j →
      s.handlers i = .forwarded app msg id r response → s.handlers j = .forwarded app' msg' id' r' response' →
      r.alert.labels.lookup (lit "gotilert_id") ≠ r'.alert.labels.lookup (lit "gotilert_id"))) :=
  have hlt := ncard_accepted_lt_of_length (buildHTTPServer sampleConfig (.ofKeys _) (some sampleClient) sampleHeap).2 sampleSchedule (by decide)
  ⟨rfl, hlt, concurrent_message_identifiers asciiOnlyLowerCase sampleJsonLibrary sampleConfig (.ofKeys _)
    (some sampleClient) sampleHeap _ sampleSchedule hlt⟩

/-- **Identifiers are handed out without gaps.** For every configuration, set of
requests and interleaving, while fewer than 2^64 handlers have drawn, the counter is
their number `n`, and a number is an identifier some handler holds exactly when it
lies between 1 and `n`. -/
theorem concurrent_identifiers_exhaustive (t : LowerCaseTable) (lib : Library) (cfg : Config)
    (order : Enumeration cfg.apps) (amClient : Option Client) (h0 : Heap) (requests : Nat → Request)
    (schedule : List Action)
    (hlt : (accepted (serverRun t lib (buildHTTPServer cfg order amClient h0).1 requests
      (initialState (buildHTTPServer cfg order amClient h0).2) schedule)).ncard < 2 ^ 64) :
    let e := (buildHTTPServer cfg order amClient h0).1
    let s := serverRun t lib e requests (initialState (buildHTTPServer cfg order amClient h0).2) schedule
    s.messageID.toNat = (accepted s).ncard ∧
      ∀ m, 0 < m ∧ m ≤ (accepted s).ncard ↔ ∃ i id, (s.handlers i).messageIdentifier = some id ∧ id.toNat = m := by
  intro e s
  have hinv : ServerInv t lib e requests _ s :=
    serverInv_run (tableAllocated_buildHTTPServer cfg order amClient h0) schedule _ serverInv_initialState
  obtain ⟨hcount, himage⟩ := hinv.identifiers_image hlt
  refine ⟨hcount, fun m => ⟨fun hm => ?_, fun ⟨i, id, hid, hm⟩ => ?_⟩⟩
  · have hmem : m ∈ Set.Icc 1 (accepted s).ncard := ⟨hm.1, hm.2⟩
    rw [← himage] at hmem
    obtain ⟨i, hi, rfl⟩ := hmem
    obtain ⟨id, hid⟩ := Option.isSome_iff_exists.mp hi
    exact ⟨i, id, hid, by simp [hid]⟩
  · have hmem : m ∈ Set.Icc 1 (accepted s).ncard :=
      himage ▸ ⟨i, by simp [accepted, hid], by simp [hid, hm]⟩
    exact ⟨hmem.1, hmem.2⟩

theorem sampleServer_identifiers_exhaustive :
    guards asciiOnlyLowerCase sampleJsonLibrary (some (buildHTTPServer sampleConfig (.ofKeys _) (some sampleClient) sampleHeap).1.resolve) (buildHTTPServer sampleConfig (.ofKeys _) (some sampleClient) sampleHeap).1.maxBodyBytes sampleRequest =
      .ok (sampleCall.app, sampleMessage) ∧
    (accepted (serverRun asciiOnlyLowerCase sampleJsonLibrary (buildHTTPServer sampleConfig (.ofKeys _) (some sampleClient) sampleHeap).1 (fun _ => sampleRequest)
      (initialState (buildHTTPServer sampleConfig (.ofKeys _) (some sampleClient) sampleHeap).2) sampleSchedule)).ncard < 2 ^ 64 ∧
    (let e := (buildHTTPServer sampleConfig (.ofKeys _) (some sampleClient) sampleHeap).1
    let s := serverRun asciiOnlyLowerCase sampleJsonLibrary e (fun _ => sampleRequest) (initialState (buildHTTPServer sampleConfig (.ofKeys _) (some sampleClient) sampleHeap).2)
      sampleSchedule
    s.messageID.toNat = (accepted s).ncard ∧
      ∀ m, 0 < m ∧ m ≤ (accepted s).ncard ↔ ∃ i id, (s.handlers i).messageIdentifier = some id ∧ id.toNat = m) :=
  have hlt := ncard_accepted_lt_of_length (buildHTTPServer sampleConfig (.ofKeys _) (some sampleClient) sampleHeap).2 sampleSchedule (by decide)
  ⟨rfl, hlt, concurrent_identifiers_exhaustive asciiOnlyLowerCase sampleJsonLibrary sampleConfig (.ofKeys _)
    (some sampleClient) sampleHeap _ sampleSchedule hlt⟩

end Gotilert.Main
