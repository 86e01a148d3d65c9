/-
**The forwarder** of `cmd/gotilert`: `newResolveAppFunc`, `newForwarder` and the
function it returns, with `copyLabels`, `mergeStringMap`, `appIDFromName` and
`pickSummary`.

## Maps the forwarder shares

`newForwarder` copies `defaults.labels` once, and every call copies that copy into a
fresh map, merges the app's labels into it and sets the five computed labels. The
only maps a call writes are the two it allocates, so every map that existed before
the call reads the same after it (`forward_extends`): one request's labels never
reach the defaults, an app's labels or another request's alert.

## One call in two blocks

The returned closure is `Forwarder.forward`. Its label block and its annotation
block are `buildLabels` and `buildAnnotations`, each with its lookup lemma;
`forward_spec` puts them together, and `run_merge_law` carries the result over
every sequence of calls.

Besides its arguments a call reads the clock, the order of the `range` loop of
`severityForPriority` and the world `PostAlerts` runs in: a `CallEnv`. The metrics
counters and log lines of the failure path are not modelled.
-/
import Gotilert.Alertmanager.Retry
import Gotilert.Config.Validate
import Gotilert.Server.Message
import Gotilert.Main.Severity

set_option autoImplicit false

namespace Gotilert.Main

open Gotilert.Go Gotilert.Gotify Gotilert.Alertmanager Gotilert.Config Gotilert.Server

/-! ## Helpers of `main.go` -/

/-- `copyLabels(input)`: a fresh map holding the entries of `input`. -/
def copyLabels (h : Heap) (input : Ref) : Ref × Heap := h.alloc (copyInto ∅ (h.read input))

/-- `copySeverityMap(input)`. -/
def copySeverityMap (input : GoMap Int GoString) : GoMap Int GoString := copyInto ∅ input

/-- `mergeStringMap(dst, src)`: `maps.Copy(dst, src)` unless `src` is empty. -/
def mergeStringMap (h : Heap) (dst : Ref) (src : GoMap GoString GoString) : Heap :=
  if src.keys = [] then h else h.writeAll dst src.entries

def offset32 : UInt32 := 2166136261
def prime32 : UInt32 := 16777619

/-- `appIDFromName`: 32-bit FNV-1a over the bytes of the name. -/
def appIDFromName (appName : GoString) : UInt32 :=
  appName.foldl (fun hash b => (hash ^^^ b.toUInt32) * prime32) offset32

def maxLen : Nat := 120

/-- The bytes of the string literal the source appends to a cut message, which are the
UTF-8 encoding of U+00E2, U+20AC and U+00A6. -/
def truncationMarker : GoString := [0xC3, 0xA2, 0xE2, 0x82, 0xAC, 0xC2, 0xA6]

/-- `pickSummary(appName, title, message)`. -/
def pickSummary (appName title message : GoString) : GoString :=
  let trimmedTitle := trimSpace title
  if trimmedTitle ≠ [] then trimmedTitle
  else
    let trimmedMessage := trimSpace message
    if trimmedMessage = [] then appName
    else if trimmedMessage.length ≤ maxLen then trimmedMessage
    else trimmedMessage.take maxLen ++ truncationMarker

/-! ## The app table -/

/-- One iteration of the loop of `newResolveAppFunc`. -/
def resolveStep (cfg : Config) (acc : GoMap GoString App × Heap) (token : GoString) :
    GoMap GoString App × Heap :=
  match cfg.apps.lookup token with
  | none => acc
  | some app =>
    let labels := copyLabels acc.2 app.labels
    (acc.1.insert token ⟨app.appName, appIDFromName app.appName, trimSpace app.alertName, labels.1,
      copySeverityMap app.severityFromPriority⟩, labels.2)

/-- `newResolveAppFunc(cfg)`, tokens in `order`: the table the returned function looks
tokens up in. -/
def newResolveAppFunc (cfg : Config) (order : Enumeration cfg.apps) (h : Heap) : GoMap GoString App × Heap :=
  order.keys.foldl (resolveStep cfg) (∅, h)

/-! ## The forwarder -/

/-- What `newForwarder` captures. -/
structure Forwarder where
  ttl : Int
  defaultLabels : Ref
  defaultSeverityMap : GoMap Int GoString
  defaultAlertName : GoString
  amClient : Option Client

/-- `newForwarder(cfg, amClient, metrics)`. -/
def newForwarder (cfg : Config) (amClient : Option Client) (h : Heap) : Forwarder × Heap :=
  let defaultLabels := copyLabels h cfg.defaults.labels
  (⟨cfg.defaults.ttl, defaultLabels.1, cfg.defaults.severityFromPriority, cfg.defaults.alertName, amClient⟩,
    defaultLabels.2)

/-- The severity map a call uses: the app's if it has entries, else the default one. -/
def Forwarder.severityMap (fw : Forwarder) (app : App) : GoMap Int GoString :=
  if app.severityFromPriority.keys ≠ [] then app.severityFromPriority else fw.defaultSeverityMap

/-- The alert name a call uses. -/
def Forwarder.alertName (fw : Forwarder) (app : App) : GoString :=
  if trimSpace app.alertName ≠ [] then trimSpace app.alertName else fw.defaultAlertName

/-- What a call reads besides its arguments. -/
structure CallEnv where
  now : Int
  severityOrder : (m : GoMap Int GoString) → Enumeration m
  world : World

/-- The label block of a call. -/
def buildLabels (fw : Forwarder) (app : App) (alertName severity priority messageIdentifier : GoString)
    (h : Heap) : Ref × Heap :=
  let (labels, h) := copyLabels h fw.defaultLabels
  let h := mergeStringMap h labels (h.read app.labels)
  let h := h.write labels (lit "alertname") alertName
  let h := h.write labels (lit "app") app.name
  let h := h.write labels (lit "severity") severity
  let h := h.write labels (lit "priority") priority
  (labels, h.write labels (lit "gotilert_id") messageIdentifier)

/-- The annotation block of a call. -/
def buildAnnotations (app : App) (msg : MessageRequest) (h : Heap) : Ref × Heap :=
  let (annotations, h) := h.alloc
    (((∅ : GoMap GoString GoString).insert (lit "summary") (pickSummary app.name msg.title msg.message)).insert
      (lit "description") msg.message)
  (annotations, mergeStringMap h annotations (extrasAnnotations msg.extras))

/-- What a call leaves: the heap, the alert, the steps of `PostAlerts` and the error. -/
structure CallResult where
  heap : Heap
  alert : Alert
  steps : List Step
  err : Option GoError

/-- The function `newForwarder` returns, called on `app`, `msg` and the identifier. -/
def Forwarder.forward (fw : Forwarder) (env : CallEnv) (app : App) (msg : MessageRequest)
    (messageIdentifier : UInt64) (h : Heap) : CallResult :=
  let severityMap := fw.severityMap app
  let severity := severityForPriority severityMap (env.severityOrder severityMap) msg.priority
  let labels := buildLabels fw app (fw.alertName app) severity (itoa msg.priority)
    (formatUint messageIdentifier.toNat) h
  let annotations := buildAnnotations app msg labels.2
  let alert : Alert := ⟨annotations.2.read labels.1, annotations.2.read annotations.1, env.now, env.now + fw.ttl⟩
  let posted := postAlerts fw.amClient [alert] env.world
  ⟨annotations.2, alert, posted.1, posted.2.error.map GoError.wrap⟩

/-- One call of the forwarder: its environment and arguments. -/
structure Call where
  env : CallEnv
  app : App
  msg : MessageRequest
  messageIdentifier : UInt64

/-- A sequence of calls, each on the heap the one before left. -/
def Forwarder.run (fw : Forwarder) : List Call → Heap → List CallResult
  | [], _ => []
  | c :: cs, h =>
    let r := fw.forward c.env c.app c.msg c.messageIdentifier h
    r :: fw.run cs r.heap

/-! ## What a call does to the heap -/

section HeapEffects

variable {h : Heap}

theorem extends_copyLabels (h : Heap) (input : Ref) : h.Extends (copyLabels h input).2 :=
  Heap.extends_alloc _ _

theorem valid_copyLabels (h : Heap) (input : Ref) : (copyLabels h input).2.Valid (copyLabels h input).1 :=
  Heap.valid_alloc_self _ _

theorem not_valid_copyLabels (h : Heap) (input : Ref) : ¬h.Valid (copyLabels h input).1 := by
  simp [copyLabels, Heap.alloc, Heap.Valid]

@[simp] theorem lookup_copyLabels (h : Heap) (input : Ref) (k : GoString) :
    ((copyLabels h input).2.read (copyLabels h input).1).lookup k = (h.read input).lookup k := by
  simp [copyLabels]

theorem lookup_mergeStringMap_self {dst : Ref} (hd : h.Valid dst) (src : GoMap GoString GoString) (k : GoString) :
    ((mergeStringMap h dst src).read dst).lookup k = (src.lookup k).or ((h.read dst).lookup k) := by
  unfold mergeStringMap
  split_ifs with hs
  · have hn : src.lookup k = none := lookup_eq_none_of_not_mem_keys (by rw [hs]; exact List.not_mem_nil k)
    rw [hn]
    rfl
  · rw [Heap.read_writeAll_self hd]
    exact lookup_copyInto _ _ _

theorem extends_mergeStringMap {h' : Heap} (he : h.Extends h') {dst : Ref} (hd : ¬h.Valid dst)
    (src : GoMap GoString GoString) : h.Extends (mergeStringMap h' dst src) := by
  unfold mergeStringMap
  split_ifs
  · exact he
  · exact he.writeAll hd _

theorem length_mergeStringMap (h : Heap) (dst : Ref) (src : GoMap GoString GoString) :
    (mergeStringMap h dst src).maps.length = h.maps.length := by
  unfold mergeStringMap
  split_ifs
  · rfl
  · exact Heap.length_writeAll _ _ _

/-- The label block writes only the map it allocates. -/
theorem buildLabels_frame (fw : Forwarder) (app : App) (alertName severity priority messageIdentifier : GoString) :
    let b := buildLabels fw app alertName severity priority messageIdentifier h
    h.Extends b.2 ∧ b.2.Valid b.1 ∧ ¬h.Valid b.1 := by
  intro b
  have hfresh := not_valid_copyLabels h fw.defaultLabels
  have hM := extends_mergeStringMap (extends_copyLabels h fw.defaultLabels) hfresh
    ((copyLabels h fw.defaultLabels).2.read app.labels)
  refine ⟨((((hM.write hfresh _ _).write hfresh _ _).write hfresh _ _).write hfresh _ _).write hfresh _ _, ?_, hfresh⟩
  simpa [b, buildLabels, Heap.Valid, length_mergeStringMap] using valid_copyLabels h fw.defaultLabels

/-- **The label block**: the five written labels over the app's labels over the
forwarder's defaults. -/
theorem lookup_buildLabels (fw : Forwarder) {app : App} (happ : h.Valid app.labels)
    (alertName severity priority messageIdentifier : GoString) (k : GoString) :
    let b := buildLabels fw app alertName severity priority messageIdentifier h
    (b.2.read b.1).lookup k =
      if k = lit "gotilert_id" then some messageIdentifier
      else if k = lit "priority" then some priority
      else if k = lit "severity" then some severity
      else if k = lit "app" then some app.name
      else if k = lit "alertname" then some alertName
      else ((h.read app.labels).lookup k).or ((h.read fw.defaultLabels).lookup k) := by
  intro b
  have hL := valid_copyLabels h fw.defaultLabels
  have happ' : (copyLabels h fw.defaultLabels).2.read app.labels = h.read app.labels :=
    (extends_copyLabels h fw.defaultLabels).2 _ happ
  have hLM : (mergeStringMap (copyLabels h fw.defaultLabels).2 (copyLabels h fw.defaultLabels).1
      ((copyLabels h fw.defaultLabels).2.read app.labels)).Valid (copyLabels h fw.defaultLabels).1 := by
    simpa [Heap.Valid, length_mergeStringMap] using hL
  simp (disch := simpa using hLM) only [b, buildLabels, Heap.read_write_self, lookup_insert_eq_ite]
  rw [lookup_mergeStringMap_self hL, lookup_copyLabels, happ']

/-- **The annotation block**: a fresh map holding the extras over the summary and the
description; every older map as it was. -/
theorem buildAnnotations_spec (app : App) (msg : MessageRequest) :
    let b := buildAnnotations app msg h
    h.Extends b.2 ∧ b.2.Valid b.1 ∧ ¬h.Valid b.1 ∧
      ∀ k, (b.2.read b.1).lookup k = ((extrasAnnotations msg.extras).lookup k).or
        (if k = lit "description" then some msg.message
        else if k = lit "summary" then some (pickSummary app.name msg.title msg.message) else none) := by
  intro b
  have hN := Heap.valid_alloc_self h (((∅ : GoMap GoString GoString).insert (lit "summary")
    (pickSummary app.name msg.title msg.message)).insert (lit "description") msg.message)
  have hfresh : ¬h.Valid (h.alloc (((∅ : GoMap GoString GoString).insert (lit "summary")
      (pickSummary app.name msg.title msg.message)).insert (lit "description") msg.message)).1 := by
    simp [Heap.alloc, Heap.Valid]
  refine ⟨extends_mergeStringMap (Heap.extends_alloc _ _) hfresh _, ?_, hfresh, fun k => ?_⟩
  · simpa [b, buildAnnotations, Heap.Valid, length_mergeStringMap] using hN
  · simp only [b, buildAnnotations, lookup_mergeStringMap_self hN, Heap.read_alloc_self, lookup_insert_eq_ite,
      AList.lookup_empty]

end HeapEffects

/-! ## One call -/

section Call

variable (fw : Forwarder) (env : CallEnv) (app : App) (msg : MessageRequest) (messageIdentifier : UInt64)
  {h : Heap}

/-- A call's steps are those of `PostAlerts` on its one alert. -/
theorem steps_forward (h : Heap) :
    (fw.forward env app msg messageIdentifier h).steps =
      (postAlerts fw.amClient [(fw.forward env app msg messageIdentifier h).alert] env.world).1 :=
  rfl

/-- A call writes only the maps it allocates. -/
theorem forward_extends (h : Heap) : h.Extends (fw.forward env app msg messageIdentifier h).heap :=
  (buildLabels_frame fw app _ _ _ _).1.trans (buildAnnotations_spec app msg).1

/-- **One call of the forwarder**, on any heap where the app's labels are allocated.
Every map allocated before the call reads the same after it. The alert's labels are
the five the call computes over the app's labels over the forwarder's defaults; its
annotations are the extras over the summary and the description; it starts now and
ends after the forwarder's TTL; and every attempt of `PostAlerts` posts this one
alert. -/
theorem forward_spec (happ : h.Valid app.labels) :
    let r := fw.forward env app msg messageIdentifier h
    h.Extends r.heap ∧
      (∀ k, r.alert.labels.lookup k =
        if k = lit "gotilert_id" then some (formatUint messageIdentifier.toNat)
        else if k = lit "priority" then some (itoa msg.priority)
        else if k = lit "severity" then
          some (severityForPriority (fw.severityMap app) (env.severityOrder _) msg.priority)
        else if k = lit "app" then some app.name
        else if k = lit "alertname" then some (fw.alertName app)
        else ((h.read app.labels).lookup k).or ((h.read fw.defaultLabels).lookup k)) ∧
      (∀ k, r.alert.annotations.lookup k = ((extrasAnnotations msg.extras).lookup k).or
        (if k = lit "description" then some msg.message
        else if k = lit "summary" then some (pickSummary app.name msg.title msg.message) else none)) ∧
      r.alert.startsAt = env.now ∧ r.alert.endsAt = env.now + fw.ttl ∧
      ∀ i as, Step.post i as ∈ r.steps → as = [r.alert] := by
  intro r
  have hL2 := (buildLabels_frame fw app (fw.alertName app)
    (severityForPriority (fw.severityMap app) (env.severityOrder _) msg.priority) (itoa msg.priority)
    (formatUint messageIdentifier.toNat) (h := h)).2.1
  obtain ⟨hA1, -, -, hA4⟩ := buildAnnotations_spec app msg
  refine ⟨forward_extends fw env app msg messageIdentifier h, fun k => ?_, fun k => hA4 k, rfl, rfl,
    fun i as hi => post_mem_postAlerts hi⟩
  simp only [r, Forwarder.forward, hA1.2 _ hL2, lookup_buildLabels fw happ]

end Call

/-! ## The app table -/

section Resolve

variable (cfg : Config)

/-- What the table holds for a token: an app built from that token's configuration,
whose labels are a map of its own, allocated in `h` and not in `h0`, holding the
configured labels as they read in `h0`. -/
def AppOf (h0 h : Heap) (appCfg : AppConfig) (app : App) : Prop :=
  app.name = appCfg.appName ∧ app.id = appIDFromName appCfg.appName ∧
    app.alertName = trimSpace appCfg.alertName ∧
    app.severityFromPriority = copySeverityMap appCfg.severityFromPriority ∧ h.Valid app.labels ∧
    ¬h0.Valid app.labels ∧
    (h0.Valid appCfg.labels → ∀ k, (h.read app.labels).lookup k = (h0.read appCfg.labels).lookup k)

/-- An app stays what it was while the heap only grows. -/
theorem AppOf.mono {h0 h h' : Heap} {appCfg : AppConfig} {app : App} (happ : AppOf h0 h appCfg app)
    (he : h.Extends h') : AppOf h0 h' appCfg app := by
  obtain ⟨h1, h2, h3, h4, hv, hfresh, hlab⟩ := happ
  exact ⟨h1, h2, h3, h4, he.valid hv, hfresh, fun hc k => by rw [he.2 _ hv, hlab hc k]⟩

/-- The invariant of the loop of `newResolveAppFunc`. -/
def TableInv (h0 : Heap) (acc : GoMap GoString App × Heap) : Prop :=
  h0.Extends acc.2 ∧ ∀ token app, acc.1.lookup token = some app →
    ∃ appCfg, cfg.apps.lookup token = some appCfg ∧ AppOf h0 acc.2 appCfg app

theorem tableInv_resolveStep {h0 : Heap} {acc : GoMap GoString App × Heap} (hinv : TableInv cfg h0 acc)
    (token : GoString) : TableInv cfg h0 (resolveStep cfg acc token) := by
  unfold resolveStep
  cases happ : cfg.apps.lookup token with
  | none => exact hinv
  | some appCfg =>
    have he := extends_copyLabels acc.2 appCfg.labels
    refine ⟨hinv.1.trans he, fun tok app h => ?_⟩
    rw [lookup_insert_eq_ite] at h
    split_ifs at h with ht
    · cases h
      subst ht
      refine ⟨appCfg, happ, rfl, rfl, rfl, rfl, valid_copyLabels _ _,
        fun hv => not_valid_copyLabels acc.2 appCfg.labels (hinv.1.valid hv), fun hc k => ?_⟩
      rw [lookup_copyLabels, hinv.1.2 _ hc]
    · obtain ⟨c, hc, happ'⟩ := hinv.2 tok app h
      exact ⟨c, hc, happ'.mono he⟩

theorem tableInv_foldl {h0 : Heap} :
    ∀ (ks : List GoString) (acc : GoMap GoString App × Heap), TableInv cfg h0 acc →
      TableInv cfg h0 (ks.foldl (resolveStep cfg) acc)
  | [], _, hinv => hinv
  | k :: ks, _, hinv => tableInv_foldl ks _ (tableInv_resolveStep cfg hinv k)

/-- A token the loop has visited, or that was already in the table, is in it. -/
theorem isSome_foldl_resolveStep (tok : GoString) :
    ∀ (ks : List GoString) (acc : GoMap GoString App × Heap),
      (acc.1.lookup tok).isSome ∨ (tok ∈ ks ∧ (cfg.apps.lookup tok).isSome) →
        ((ks.foldl (resolveStep cfg) acc).1.lookup tok).isSome
  | [], _, h => by simpa using h
  | k :: ks, acc, h => by
    apply isSome_foldl_resolveStep tok ks
    have hstep : (acc.1.lookup tok).isSome ∨ (tok = k ∧ (cfg.apps.lookup tok).isSome) →
        ((resolveStep cfg acc k).1.lookup tok).isSome := by
      unfold resolveStep
      cases happ : cfg.apps.lookup k with
      | none => rintro (h | ⟨rfl, h⟩) <;> simp_all
      | some appCfg => intro; simp only [lookup_insert_eq_ite]; split_ifs <;> simp_all
    rcases h with h | ⟨hk, hs⟩
    · exact .inl (hstep (.inl h))
    · rcases List.mem_cons.mp hk with rfl | hk
      · exact .inl (hstep (.inr ⟨rfl, hs⟩))
      · exact .inr ⟨hk, hs⟩

/-- **The table `newResolveAppFunc` builds**: every token of the configuration has an
app, built from its configuration with a copy of its labels in a map of its own, and
nothing else is in the table; the maps that were there before read as they did. -/
theorem newResolveAppFunc_spec (order : Enumeration cfg.apps) (h0 : Heap) :
    let t := newResolveAppFunc cfg order h0
    h0.Extends t.2 ∧
      (∀ token app, t.1.lookup token = some app →
        ∃ appCfg, cfg.apps.lookup token = some appCfg ∧ AppOf h0 t.2 appCfg app) ∧
      ∀ token, (cfg.apps.lookup token).isSome → (t.1.lookup token).isSome := by
  intro t
  obtain ⟨h1, h2⟩ := tableInv_foldl cfg order.keys (∅, h0) ⟨Heap.Extends.refl h0, fun _ _ h => by simp at h⟩
  refine ⟨h1, h2, fun token hs => isSome_foldl_resolveStep cfg token order.keys _ (.inr ⟨?_, hs⟩)⟩
  exact order.perm.mem_iff.mpr ((mem_keys_iff_lookup_isSome _ _).mpr hs)

end Resolve

/-! ## The merge law -/

/-- `C` of the merge law, as the claim lists it: the five labels a call computes, for
the configuration the forwarder was built from. -/
def computedLabel (cfg : Config) (app : App) (msg : MessageRequest) (messageIdentifier : UInt64)
    (k : GoString) : Option GoString :=
  if k = lit "alertname" then
    some (if trimSpace app.alertName ≠ [] then trimSpace app.alertName else cfg.defaults.alertName)
  else if k = lit "app" then some app.name
  else if k = lit "severity" then
    some (severityForPriority (if app.severityFromPriority.keys ≠ [] then app.severityFromPriority
      else cfg.defaults.severityFromPriority) (.ofKeys _) msg.priority)
  else if k = lit "priority" then some (itoa msg.priority)
  else if k = lit "gotilert_id" then some (formatUint messageIdentifier.toNat)
  else none

/-- The labels a call writes, in the order it writes them, are `C` over what was there. -/
theorem forwardLabels_eq_computedLabel (cfg : Config) (amClient : Option Client) (hF : Heap) (env : CallEnv)
    (app : App) (msg : MessageRequest) (messageIdentifier : UInt64) (base : Option GoString) (k : GoString) :
    let fw := (newForwarder cfg amClient hF).1
    (if k = lit "gotilert_id" then some (formatUint messageIdentifier.toNat)
      else if k = lit "priority" then some (itoa msg.priority)
      else if k = lit "severity" then
        some (severityForPriority (fw.severityMap app) (env.severityOrder _) msg.priority)
      else if k = lit "app" then some app.name
      else if k = lit "alertname" then some (fw.alertName app)
      else base) = (computedLabel cfg app msg messageIdentifier k).or base := by
  intro fw
  rw [severityForPriority_order_independent _ (.ofKeys _)]
  unfold computedLabel
  by_cases hk : k ∈ [lit "alertname", lit "app", lit "severity", lit "priority", lit "gotilert_id"]
  · simp only [List.mem_cons, List.mem_singleton, List.not_mem_nil, or_false] at hk
    rcases hk with rfl | rfl | rfl | rfl | rfl <;> rfl
  · simp only [List.mem_cons, List.mem_singleton, List.not_mem_nil, or_false, not_or] at hk
    simp only [hk, if_false, Option.none_or]

/-- A call that starts where a sequence of calls started, or later. -/
theorem mem_zip_run (fw : Forwarder) :
    ∀ (calls : List Call) (h : Heap) (c : Call) (r : CallResult), (c, r) ∈ calls.zip (fw.run calls h) →
      ∃ hc, h.Extends hc ∧ r = fw.forward c.env c.app c.msg c.messageIdentifier hc
  | [], _, _, _, hm => by simp [Forwarder.run] at hm
  | c' :: cs, h, c, r, hm => by
    simp only [Forwarder.run, List.zip_cons_cons, List.mem_cons, Prod.mk.injEq] at hm
    rcases hm with ⟨rfl, rfl⟩ | hm
    · exact ⟨h, Heap.Extends.refl h, rfl⟩
    · obtain ⟨hc, he, hr⟩ := mem_zip_run fw cs _ c r hm
      exact ⟨hc, (forward_extends fw c'.env c'.app c'.msg c'.messageIdentifier h).trans he, hr⟩

/-- **The merge law of the forwarder**, over every sequence of calls with apps of the
table `newResolveAppFunc` built. Call `n` posts, on every attempt, one alert whose
labels are `D ⊕ A ⊕ C`, with `D` the default labels when the forwarder was built and
`A` the app's labels; whose annotations are the summary and the description together
with the extras, whose keys are neither; which starts at the call's clock reading and
ends the default TTL later. No call changes a map that existed when the forwarder was
built. -/
theorem run_merge_law (cfg : Config) (order : Enumeration cfg.apps) (amClient : Option Client) (h0 : Heap)
    (calls : List Call)
    (hcalls : ∀ c ∈ calls, ∃ token, (newResolveAppFunc cfg order h0).1.lookup token = some c.app) :
    let h1 := (newResolveAppFunc cfg order h0).2
    let fw := (newForwarder cfg amClient h1).1
    let h2 := (newForwarder cfg amClient h1).2
    ∀ c r, (c, r) ∈ calls.zip (fw.run calls h2) →
      (∀ k, r.alert.labels.lookup k = (computedLabel cfg c.app c.msg c.messageIdentifier k).or
        (((h1.read c.app.labels).lookup k).or ((h1.read cfg.defaults.labels).lookup k))) ∧
      r.alert.annotations.lookup (lit "summary") = some (pickSummary c.app.name c.msg.title c.msg.message) ∧
      r.alert.annotations.lookup (lit "description") = some c.msg.message ∧
      (∀ k, k ≠ lit "summary" → k ≠ lit "description" →
        r.alert.annotations.lookup k = (extrasAnnotations c.msg.extras).lookup k) ∧
      (∀ k ∈ (extrasAnnotations c.msg.extras).keys, k ≠ lit "summary" ∧ k ≠ lit "description") ∧
      r.alert.startsAt = c.env.now ∧ r.alert.endsAt = c.env.now + cfg.defaults.ttl ∧
      (∀ client, amClient = some client → r.steps.head? = some (.post 1 [r.alert])) ∧
      (∀ i as, Step.post i as ∈ r.steps → as = [r.alert]) ∧
      h2.Extends r.heap := by
  intro h1 fw h2 c r hm
  obtain ⟨hc, he, rfl⟩ := mem_zip_run fw calls h2 c r hm
  have h12 : h1.Extends h2 := extends_copyLabels _ _
  obtain ⟨token, htok⟩ := hcalls c (List.of_mem_zip hm).1
  obtain ⟨_, -, -, -, -, -, happ, -, -⟩ := (newResolveAppFunc_spec cfg order h0).2.1 token c.app htok
  obtain ⟨hx, hlab, hann, hs, hend, hpost⟩ :=
    forward_spec fw c.env c.app c.msg c.messageIdentifier (he.valid (h12.valid happ))
  have hread : hc.read c.app.labels = h1.read c.app.labels := (he.2 _ (h12.valid happ)).trans (h12.2 _ happ)
  have hdef : ∀ k, (hc.read fw.defaultLabels).lookup k = (h1.read cfg.defaults.labels).lookup k := fun k => by
    show (hc.read (copyLabels h1 cfg.defaults.labels).1).lookup k = _
    rw [he.2 _ (valid_copyLabels _ _)]
    exact lookup_copyLabels _ _ k
  have hsd : lit "summary" ≠ lit "description" := by decide
  have hextra : ∀ k, k = lit "summary" ∨ k = lit "description" → (extrasAnnotations c.msg.extras).lookup k = none :=
    fun k hk => by
      rw [lookup_extrasAnnotations]
      rcases hk with rfl | rfl <;> rfl
  refine ⟨fun k => ?_, ?_, ?_, fun k h1k h2k => ?_, fun k hk => ?_, hs, hend, fun client hcl => ?_, hpost,
    he.trans hx⟩
  · rw [hlab, hread, hdef]
    exact forwardLabels_eq_computedLabel cfg amClient h1 c.env c.app c.msg c.messageIdentifier _ k
  · rw [hann, hextra _ (.inl rfl)]
    simp [hsd]
  · rw [hann, hextra _ (.inr rfl)]
    simp
  · rw [hann, if_neg h2k, if_neg h1k, Option.or_none]
  · rw [mem_keys_iff_lookup_isSome] at hk
    refine ⟨?_, ?_⟩ <;> rintro rfl
    · rw [hextra _ (.inl rfl)] at hk; cases hk
    · rw [hextra _ (.inr rfl)] at hk; cases hk
  · rw [steps_forward]
    subst hcl
    exact head_postAlerts client _ _

/-- A configuration with one app, under the token `tok`, and `info` as the default
severity. Its default labels are map 0 of `sampleHeap`, the app's labels map 1. -/
def sampleConfig : Config where
  server := ⟨0, 0, 0, 0⟩
  logging := ⟨[], []⟩
  alertmanager := ⟨lit "http://am:9093", none, [], false, 0⟩
  defaults := ⟨[], 300, (∅ : GoMap Int GoString).insert 0 severityInfo, ⟨0⟩⟩
  apps := (∅ : GoMap GoString AppConfig).insert (lit "tok") ⟨lit "app", [], ⟨1⟩, ∅⟩

/-- A client with the defaults `New` fills in, for the Alertmanager of `sampleConfig`. -/
def sampleClient : Client :=
  ⟨lit "http://am:9093", defaultHTTPTimeout, false, ⟨[], [], []⟩, defaultRetryMaxAttempts, defaultRetryInitial,
    defaultRetryMaxBackoff⟩

def sampleHeap : Heap := ⟨[(∅ : GoMap GoString GoString).insert (lit "team") (lit "ops"), ∅]⟩

/-- A call for the app of `tok`, whose labels `newResolveAppFunc` copied to map 2. -/
def sampleCall : Call where
  env := ⟨0, Enumeration.ofKeys, ⟨fun _ => .response 200 [] (.ok []), fun _ => none, fun _ => none⟩⟩
  app := ⟨lit "app", appIDFromName (lit "app"), [], ⟨2⟩, ∅⟩
  msg := ⟨lit "disk full", [], 8, none⟩
  messageIdentifier := 1

theorem sampleCall_merge_law :
    (∀ c ∈ [sampleCall], ∃ token,
      (newResolveAppFunc sampleConfig (.ofKeys _) sampleHeap).1.lookup token = some c.app) ∧
    (let h1 := (newResolveAppFunc sampleConfig (.ofKeys _) sampleHeap).2
    let fw := (newForwarder sampleConfig (some sampleClient) h1).1
    let h2 := (newForwarder sampleConfig (some sampleClient) h1).2
    ∀ c r, (c, r) ∈ [sampleCall].zip (fw.run [sampleCall] h2) →
      (∀ k, r.alert.labels.lookup k = (computedLabel sampleConfig c.app c.msg c.messageIdentifier k).or
        (((h1.read c.app.labels).lookup k).or ((h1.read sampleConfig.defaults.labels).lookup k))) ∧
      r.alert.annotations.lookup (lit "summary") = some (pickSummary c.app.name c.msg.title c.msg.message) ∧
      r.alert.annotations.lookup (lit "description") = some c.msg.message ∧
      (∀ k, k ≠ lit "summary" → k ≠ lit "description" →
        r.alert.annotations.lookup k = (extrasAnnotations c.msg.extras).lookup k) ∧
      (∀ k ∈ (extrasAnnotations c.msg.extras).keys, k ≠ lit "summary" ∧ k ≠ lit "description") ∧
      r.alert.startsAt = c.env.now ∧ r.alert.endsAt = c.env.now + sampleConfig.defaults.ttl ∧
      (∀ client, some sampleClient = some client → r.steps.head? = some (.post 1 [r.alert])) ∧
      (∀ i as, Step.post i as ∈ r.steps → as = [r.alert]) ∧
      h2.Extends r.heap) :=
  have hcalls : ∀ c ∈ [sampleCall], ∃ token,
      (newResolveAppFunc sampleConfig (.ofKeys _) sampleHeap).1.lookup token = some c.app :=
    fun c hc => ⟨lit "tok", by rw [List.mem_singleton.mp hc]; rfl⟩
  ⟨hcalls, run_merge_law sampleConfig (.ofKeys _) (some sampleClient) sampleHeap [sampleCall] hcalls⟩

/-! ## Severities of a validated configuration -/

/-- The severity label a call writes is the one it computed, whatever else the maps
hold. -/
theorem lookup_severity_forward (fw : Forwarder) (env : CallEnv) (app : App) (msg : MessageRequest)
    (messageIdentifier : UInt64) (h : Heap) :
    (fw.forward env app msg messageIdentifier h).alert.labels.lookup (lit "severity") =
      some (severityForPriority (fw.severityMap app) (env.severityOrder _) msg.priority) := by
  have hL := buildLabels_frame fw app (fw.alertName app)
    (severityForPriority (fw.severityMap app) (env.severityOrder _) msg.priority) (itoa msg.priority)
    (formatUint messageIdentifier.toNat) (h := h)
  have hLM := valid_copyLabels h fw.defaultLabels
  simp only [Forwarder.forward, (buildAnnotations_spec app msg).1.2 _ hL.2.1]
  simp (disch := simpa [Heap.Valid, length_mergeStringMap] using hLM) only [buildLabels, Heap.read_write_self,
    lookup_insert_eq_ite, ite_true]
  rw [if_neg (by decide), if_neg (by decide)]

section Validated

variable {t : LowerCaseTable} {urlParse : GoString → Except ForeignError ParsedURL} {orders : MapOrders}
  {cfg cfg' : Config}

/-- The severity maps of a validated configuration: for every app of the table
`newResolveAppFunc` builds from it, the map a call selects has entries, each `info`,
`warning` or `critical`. -/
theorem severityMap_of_validate (hv : validate t urlParse orders cfg = .ok cfg') (order : Enumeration cfg'.apps)
    (amClient : Option Client) (h0 hF : Heap) {token : GoString} {app : App}
    (happ : (newResolveAppFunc cfg' order h0).1.lookup token = some app) :
    ((newForwarder cfg' amClient hF).1.severityMap app).keys ≠ [] ∧
      ∀ k v, ((newForwarder cfg' amClient hF).1.severityMap app).lookup k = some v →
        v ∈ [severityInfo, severityWarning, severityCritical] := by
  obtain ⟨hne, hnorm, -, -, -, happs⟩ := validate_ok_severities hv
  obtain ⟨appCfg', happCfg', -, -, -, hsev, -⟩ := (newResolveAppFunc_spec cfg' order h0).2.1 token app happ
  obtain ⟨appCfg, -, hval⟩ := (happs token).2 appCfg' happCfg'
  obtain ⟨-, -, hnormApp, -⟩ := validateApp_ok hval
  refine ⟨?_, fun k v hk => ?_⟩ <;> unfold Forwarder.severityMap at * <;> split_ifs at * with hk'
  · exact hk'
  · exact hnorm.keys_ne_nil hne
  · rw [hsev, copySeverityMap, lookup_copyInto, AList.lookup_empty, Option.or_none] at hk
    exact hnormApp.lookup_mem hk
  · exact hnorm.lookup_mem hk

end Validated

/-- **A validated configuration gives canonical severities.** For every configuration
`Validate` accepts, every token of it has an app in the table, and every call for
that app, whatever the message, identifier, clock, loop order and heap, labels its
alert with a severity that is `info`, `warning` or `critical` and is a value of the
severity map the call selected. -/
theorem validated_severity_label (t : LowerCaseTable) (urlParse : GoString → Except ForeignError ParsedURL)
    (orders : MapOrders) {cfg cfg' : Config} (hv : validate t urlParse orders cfg = .ok cfg')
    (order : Enumeration cfg'.apps) (amClient : Option Client) (h0 : Heap) :
    let apps := (newResolveAppFunc cfg' order h0).1
    let fw := (newForwarder cfg' amClient (newResolveAppFunc cfg' order h0).2).1
    ∀ token ∈ cfg.apps.keys, ∃ app, apps.lookup token = some app ∧
      ∀ (env : CallEnv) (msg : MessageRequest) (messageIdentifier : UInt64) (h : Heap),
        ∃ sev, (fw.forward env app msg messageIdentifier h).alert.labels.lookup (lit "severity") = some sev ∧
          sev ∈ [severityInfo, severityWarning, severityCritical] ∧
          ∃ k, (fw.severityMap app).lookup k = some sev := by
  intro apps fw token htok
  obtain ⟨-, -, -, -, -, happs⟩ := validate_ok_severities hv
  have hsome : (cfg'.apps.lookup token).isSome := by
    rw [(happs token).1]; exact (mem_keys_iff_lookup_isSome _ _).mp htok
  obtain ⟨app, happ⟩ := Option.isSome_iff_exists.mp ((newResolveAppFunc_spec cfg' order h0).2.2 token hsome)
  obtain ⟨hmapne, hcanon⟩ := severityMap_of_validate hv order amClient h0 _ happ
  refine ⟨app, happ, fun env msg messageIdentifier h => ⟨_, lookup_severity_forward fw env app msg messageIdentifier h, ?_⟩⟩
  obtain ⟨k, -, hk⟩ := exists_lookup_severityForPriority (fw.severityMap app) (env.severityOrder _) msg.priority hmapne
  exact ⟨hcanon k _ hk, k, hk⟩

/-- `sampleConfig` passes `Validate`, which fills in the default alert name. -/
theorem sampleConfig_severity_label :
    validate asciiOnlyLowerCase (fun _ => .ok ⟨lit "http", lit "am:9093"⟩) ⟨.ofKeys, .ofKeys⟩ sampleConfig =
      .ok { sampleConfig with defaults := { sampleConfig.defaults with alertName := defaultAlertName } } ∧
    (let cfg' := { sampleConfig with defaults := { sampleConfig.defaults with alertName := defaultAlertName } }
    let apps := (newResolveAppFunc cfg' (.ofKeys _) sampleHeap).1
    let fw := (newForwarder cfg' none (newResolveAppFunc cfg' (.ofKeys _) sampleHeap).2).1
    ∀ token ∈ sampleConfig.apps.keys, ∃ app, apps.lookup token = some app ∧
      ∀ (env : CallEnv) (msg : MessageRequest) (messageIdentifier : UInt64) (h : Heap),
        ∃ sev, (fw.forward env app msg messageIdentifier h).alert.labels.lookup (lit "severity") = some sev ∧
          sev ∈ [severityInfo, severityWarning, severityCritical] ∧
          ∃ k, (fw.severityMap app).lookup k = some sev) :=
  have hv : validate asciiOnlyLowerCase (fun _ => .ok ⟨lit "http", lit "am:9093"⟩) ⟨.ofKeys, .ofKeys⟩ sampleConfig =
      .ok { sampleConfig with defaults := { sampleConfig.defaults with alertName := defaultAlertName } } := rfl
  ⟨hv, validated_severity_label _ _ _ hv (.ofKeys _) none sampleHeap⟩

/-- `a` and sixty `é` (U+00E9, two bytes): a valid message of 61 characters in 121
bytes. -/
def accentedMessage : GoString := 0x61 :: (List.replicate 60 ([0xC3, 0xA9] : GoString)).flatten

set_option maxRecDepth 10000 in
/-- **`pickSummary` cuts by bytes.** A valid message of 61 characters, fewer than 120,
is still cut: 120 bytes end inside its last `é`, and the summary is not valid
UTF-8. -/
theorem pickSummary_cuts_rune :
    ValidString accentedMessage ∧ (runes (trimSpace accentedMessage)).length ≤ maxLen ∧
      pickSummary (lit "app") [] accentedMessage = accentedMessage.take maxLen ++ truncationMarker ∧
      ¬ValidString (pickSummary (lit "app") [] accentedMessage) := by
  decide

end Gotilert.Main
