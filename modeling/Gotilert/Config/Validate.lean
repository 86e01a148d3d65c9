/-
**Configuration validation**: `Config.Validate` of `internal/config`, with its five
section checks, `normalizeSeverityMap`, `canonicalSeverity` and `validateSeverity`.

## What `Validate` changes

`Validate` is a check that also rewrites: it fills in `defaults.alertname`, and it
replaces every value of `defaults.severityFromPriority` and of each app's
`severityFromPriority` by its canonical form. The app's map is written through the
copy `app` of `cfg.Apps[token]`, which shares the map with it, and the loop then
stores `app` back. Here `validate` returns the rewritten configuration, with the
severity maps as values. The program stops when `Validate` fails, so what a failed
run leaves half-rewritten is never read, and is not modelled.

The `map[string]string` label maps of the configuration are references into the
heap (`Gotilert.Go.Heap`), since the forwarder copies them; `Validate` never reads
them.

## Loops over maps

The three `range` loops over maps visit the keys in an order Go does not fix; the
orders are a parameter `MapOrders`. A run that succeeds visits every entry, so its
result does not depend on them (`validate_ok_severities`), and neither does whether
it succeeds: `validate_ok_iff` states what it accepts with no order in it. Which
error a failing run returns does depend on them.

`url.Parse` is Go's library and is a parameter.
-/
import Gotilert.Go.Maps
import Gotilert.Go.Errors

set_option autoImplicit false
set_option linter.dupNamespace false

namespace Gotilert.Config

open Gotilert.Go

/-! ## The configuration -/

structure ServerConfig where
  readTimeout : Int
  writeTimeout : Int
  idleTimeout : Int
  shutdownTimeout : Int

structure LoggingConfig where
  format : GoString
  level : GoString

structure BasicAuth where
  username : GoString
  password : GoString

structure AlertmanagerConfig where
  url : GoString
  basicAuth : Option BasicAuth
  bearer : GoString
  insecureSkipVerify : Bool
  timeout : Int

structure DefaultsConfig where
  alertName : GoString
  ttl : Int
  severityFromPriority : GoMap Int GoString
  labels : Ref

structure AppConfig where
  appName : GoString
  alertName : GoString
  labels : Ref
  severityFromPriority : GoMap Int GoString

structure Config where
  server : ServerConfig
  logging : LoggingConfig
  alertmanager : AlertmanagerConfig
  defaults : DefaultsConfig
  apps : GoMap GoString AppConfig

/-- What `Validate` reads of a parsed URL. -/
structure ParsedURL where
  scheme : GoString
  host : GoString

/-- The errors `Validate` returns, with what `fmt.Errorf` puts in each: the field
path and the offending value. -/
inductive ValidateError where
  | serverTimeoutNegative
  | loggingFormatInvalid (format : GoString)
  | loggingLevelInvalid (level : GoString)
  | alertmanagerURLRequired
  | alertmanagerURLParse (err : ForeignError)
  | alertmanagerURLInvalidScheme (scheme : GoString)
  | alertmanagerURLMissingHost
  | alertmanagerBasicAuthUser
  | alertmanagerBasicAuthPass
  | alertmanagerAuthExclusive
  | alertmanagerTimeoutNegative
  | defaultsSeverityMapRequired
  /-- `"<path>: priority must be >= 0: <priority>"`. -/
  | priorityNegative (path : GoString) (priority : Int)
  /-- `"<path>: invalid severity (...): <input>"`. -/
  | invalidSeverity (path : GoString) (input : GoString)
  | defaultsTTLNonPositive
  | appsEmptyTokenKey
  | appsAppNameRequired (tokenRedaction : GoString)

/-- The orders of `Validate`'s `range` loops over maps. -/
structure MapOrders where
  severities : (m : GoMap Int GoString) → Enumeration m
  apps : (m : GoMap GoString AppConfig) → Enumeration m

/-! ## Severities -/

def severityInfo : GoString := lit "info"
def severityWarning : GoString := lit "warning"
def severityCritical : GoString := lit "critical"

/-- `canonicalSeverity`. -/
def canonicalSeverity (t : LowerCaseTable) (input : GoString) : GoString :=
  let s := toLower t (trimSpace input)
  if s = lit "warn" ∨ s = severityWarning then severityWarning
  else if s = lit "crit" ∨ s = severityCritical then severityCritical
  else severityInfo

/-- `validateSeverity`, `true` for `nil`. -/
def validateSeverity (t : LowerCaseTable) (input : GoString) : Bool :=
  toLower t (trimSpace input) ∈ [severityInfo, lit "warn", severityWarning, lit "crit", severityCritical]

/-- The loop of `normalizeSeverityMap`, and of `validateDefaults`, over the keys in
`order`: each entry is checked, then its value replaced by the canonical one. A key
the order names that is not in the map is passed over. -/
def normalizeLoop (t : LowerCaseTable) (path : GoString) (pathAt : Int → GoString) :
    GoMap Int GoString → List Int → Except ValidateError (GoMap Int GoString)
  | mapping, [] => .ok mapping
  | mapping, prio :: order =>
    match mapping.lookup prio with
    | none => normalizeLoop t path pathAt mapping order
    | some sev =>
      if prio < 0 then .error (.priorityNegative path prio)
      else if !validateSeverity t sev then .error (.invalidSeverity (pathAt prio) sev)
      else normalizeLoop t path pathAt (mapping.insert prio (canonicalSeverity t sev)) order

/-- `tokenKeyForError`. -/
def tokenKeyForError (token : GoString) : GoString :=
  lit "token(len=" ++ itoa token.length ++ lit ")"

/-- `normalizeSeverityMap(mapping, section, tokenRedaction)`, keys in `order`. -/
def normalizeSeverityMap (t : LowerCaseTable) (mapping : GoMap Int GoString) (order : Enumeration mapping)
    (sectionName tokenRedaction : GoString) : Except ValidateError (GoMap Int GoString) :=
  if mapping.keys = [] then .ok mapping
  else
    let path := sectionName ++ lit "[" ++ tokenRedaction ++ lit "].severityFromPriority"
    normalizeLoop t path (fun prio => path ++ lit "[" ++ itoa prio ++ lit "]") mapping order.keys

/-! ## The sections -/

def defaultAlertName : GoString := lit "GotilertNotification"

/-- `validateServer`. -/
def validateServer (server : ServerConfig) : Option ValidateError :=
  if server.readTimeout < 0 ∨ server.writeTimeout < 0 ∨ server.idleTimeout < 0 ∨ server.shutdownTimeout < 0 then
    some .serverTimeoutNegative
  else none

/-- `validateLogging`. -/
def validateLogging (t : LowerCaseTable) (logging : LoggingConfig) : Option ValidateError :=
  let format := trimSpace logging.format
  let level := trimSpace logging.level
  if format ≠ [] ∧ toLower t format ∉ [lit "plain", lit "text", lit "json"] then
    some (.loggingFormatInvalid logging.format)
  else if level ≠ [] ∧ toLower t level ∉
      [lit "debug", lit "info", lit "warn", lit "warning", lit "error", lit "fatal", lit "panic"] then
    some (.loggingLevelInvalid logging.level)
  else none

/-- `validateAlertmanager`. -/
def validateAlertmanager (urlParse : GoString → Except ForeignError ParsedURL) (am : AlertmanagerConfig) :
    Option ValidateError :=
  if trimSpace am.url = [] then some .alertmanagerURLRequired
  else
    match urlParse am.url with
    | .error err => some (.alertmanagerURLParse err)
    | .ok parsed =>
      if parsed.scheme ≠ lit "http" ∧ parsed.scheme ≠ lit "https" then
        some (.alertmanagerURLInvalidScheme parsed.scheme)
      else if trimSpace parsed.host = [] then some .alertmanagerURLMissingHost
      else
        match am.basicAuth with
        | some auth =>
          if trimSpace auth.username = [] then some .alertmanagerBasicAuthUser
          else if trimSpace auth.password = [] then some .alertmanagerBasicAuthPass
          else if trimSpace am.bearer ≠ [] then some .alertmanagerAuthExclusive
          else if am.timeout < 0 then some .alertmanagerTimeoutNegative
          else none
        | none => if am.timeout < 0 then some .alertmanagerTimeoutNegative else none

/-- `validateDefaults`. -/
def validateDefaults (t : LowerCaseTable) (orders : MapOrders) (defaults : DefaultsConfig) :
    Except ValidateError DefaultsConfig :=
  if defaults.severityFromPriority.keys = [] then .error .defaultsSeverityMapRequired
  else
    let alertName := if trimSpace defaults.alertName = [] then defaultAlertName else defaults.alertName
    let path := lit "defaults.severityFromPriority"
    match normalizeLoop t path (fun prio => path ++ lit "[" ++ itoa prio ++ lit "]")
        defaults.severityFromPriority (orders.severities defaults.severityFromPriority).keys with
    | .error err => .error err
    | .ok severities =>
      if defaults.ttl ≤ 0 then .error .defaultsTTLNonPositive
      else .ok { defaults with alertName, severityFromPriority := severities }

/-- One iteration of `validateApps` for `token`. -/
def validateApp (t : LowerCaseTable) (orders : MapOrders) (token : GoString) (app : AppConfig) :
    Except ValidateError AppConfig :=
  if trimSpace token = [] then .error .appsEmptyTokenKey
  else if trimSpace app.appName = [] then .error (.appsAppNameRequired (tokenKeyForError token))
  else
    let alertName := if trimSpace app.alertName = [] then [] else app.alertName
    match normalizeSeverityMap t app.severityFromPriority (orders.severities app.severityFromPriority)
        (lit "apps") (tokenKeyForError token) with
    | .error err => .error err
    | .ok severities => .ok { app with alertName, severityFromPriority := severities }

/-- The loop of `validateApps` over the tokens in `order`. -/
def validateAppsLoop (t : LowerCaseTable) (orders : MapOrders) :
    GoMap GoString AppConfig → List GoString → Except ValidateError (GoMap GoString AppConfig)
  | apps, [] => .ok apps
  | apps, token :: order =>
    match apps.lookup token with
    | none => validateAppsLoop t orders apps order
    | some app =>
      match validateApp t orders token app with
      | .error err => .error err
      | .ok app => validateAppsLoop t orders (apps.insert token app) order

/-- `Config.Validate` on a non-nil configuration: the rewritten configuration, or the
first error. -/
def validate (t : LowerCaseTable) (urlParse : GoString → Except ForeignError ParsedURL) (orders : MapOrders)
    (cfg : Config) : Except ValidateError Config :=
  match validateServer cfg.server with
  | some err => .error err
  | none =>
  match validateLogging t cfg.logging with
  | some err => .error err
  | none =>
  match validateAlertmanager urlParse cfg.alertmanager with
  | some err => .error err
  | none =>
  match validateDefaults t orders cfg.defaults with
  | .error err => .error err
  | .ok defaults =>
  match validateAppsLoop t orders cfg.apps (orders.apps cfg.apps).keys with
  | .error err => .error err
  | .ok apps => .ok { cfg with defaults, apps }

/-! ## What a successful `Validate` leaves in the severity maps -/

section Normalize

variable {t : LowerCaseTable}

/-- A severity map rewritten as `Validate` does it: every entry of `before` has a key
of at least zero and a value `validateSeverity` accepts, and `after` holds its
canonical form under the same key. -/
def Normalized (t : LowerCaseTable) (before after : GoMap Int GoString) : Prop :=
  (∀ k, after.lookup k = (before.lookup k).map (canonicalSeverity t)) ∧
    ∀ k v, before.lookup k = some v → 0 ≤ k ∧ validateSeverity t v = true

theorem canonicalSeverity_mem (input : GoString) :
    canonicalSeverity t input ∈ [severityInfo, severityWarning, severityCritical] := by
  unfold canonicalSeverity
  dsimp only
  split_ifs <;> simp

/-- One pass of the loop over distinct keys: the keys it visits come out canonical,
the others as they were. -/
theorem normalizeLoop_ok {path : GoString} {pathAt : Int → GoString} :
    ∀ (order : List Int) (cur out : GoMap Int GoString), order.Nodup →
      normalizeLoop t path pathAt cur order = .ok out →
      (∀ k, out.lookup k = if k ∈ order then (cur.lookup k).map (canonicalSeverity t) else cur.lookup k) ∧
        ∀ k ∈ order, ∀ v, cur.lookup k = some v → 0 ≤ k ∧ validateSeverity t v = true
  | [], cur, out, _, h => by cases h; simp
  | prio :: order, cur, out, hnd, h => by
    rw [List.nodup_cons] at hnd
    unfold normalizeLoop at h
    cases hp : cur.lookup prio with
    | none =>
      rw [hp] at h
      obtain ⟨ih1, ih2⟩ := normalizeLoop_ok order cur out hnd.2 h
      refine ⟨fun k => ?_, fun k hk v hv => ?_⟩
      · by_cases hk : k = prio
        · subst hk; simp [ih1, hp, hnd.1]
        · simp [ih1, hk]
      · rcases List.mem_cons.mp hk with rfl | hk
        · simp [hp] at hv
        · exact ih2 k hk v hv
    | some sev =>
      rw [hp] at h
      dsimp only at h
      split_ifs at h with h1 h2
      obtain ⟨ih1, ih2⟩ := normalizeLoop_ok order _ out hnd.2 h
      refine ⟨fun k => ?_, fun k hk v hv => ?_⟩
      · by_cases hk : k = prio
        · subst hk; simp [ih1, hp, hnd.1]
        · simp [ih1, hk, AList.lookup_insert_ne hk]
      · rcases List.mem_cons.mp hk with rfl | hk
        · rw [hp] at hv; cases hv
          exact ⟨not_lt.mp h1, by simpa using h2⟩
        · have hne : k ≠ prio := fun e => hnd.1 (e ▸ hk)
          exact ih2 k hk v (by rwa [AList.lookup_insert_ne hne])

/-- The loop over an enumeration of the whole map normalises it. -/
theorem normalizeLoop_ok_enumeration {path : GoString} {pathAt : Int → GoString} {mapping out : GoMap Int GoString}
    (order : Enumeration mapping) (h : normalizeLoop t path pathAt mapping order.keys = .ok out) :
    Normalized t mapping out := by
  have hmem : ∀ k, k ∈ order.keys ↔ (mapping.lookup k).isSome := fun k => by
    rw [order.perm.mem_iff, mem_keys_iff_lookup_isSome]
  obtain ⟨h1, h2⟩ := normalizeLoop_ok order.keys mapping out (order.perm.nodup_iff.mpr mapping.keys_nodup) h
  refine ⟨fun k => ?_, fun k v hv => h2 k ((hmem k).mpr (by simp [hv])) v hv⟩
  rw [h1 k]
  split_ifs with hk
  · rfl
  · cases hl : mapping.lookup k
    · rfl
    · simp [hmem, hl] at hk

theorem normalizeSeverityMap_ok {mapping out : GoMap Int GoString} {order : Enumeration mapping}
    {sectionName tokenRedaction : GoString}
    (h : normalizeSeverityMap t mapping order sectionName tokenRedaction = .ok out) : Normalized t mapping out := by
  unfold normalizeSeverityMap at h
  split_ifs at h with hnil
  · cases h
    have hnone : ∀ k, mapping.lookup k = none := fun k =>
      lookup_eq_none_of_not_mem_keys (by rw [hnil]; exact List.not_mem_nil k)
    exact ⟨fun k => by simp [hnone], fun k v hv => by simp [hnone] at hv⟩
  · exact normalizeLoop_ok_enumeration order h

/-- Normalising keeps the keys, so a map stays non-empty. -/
theorem Normalized.keys_ne_nil {before after : GoMap Int GoString} (h : Normalized t before after)
    (hne : before.keys ≠ []) : after.keys ≠ [] := by
  obtain ⟨k, hk⟩ := List.exists_mem_of_ne_nil _ hne
  rw [mem_keys_iff_lookup_isSome] at hk
  exact List.ne_nil_of_mem ((mem_keys_iff_lookup_isSome after k).mpr (by rw [h.1]; simpa using hk))

/-- Every value of a normalised map is one of the three canonical severities. -/
theorem Normalized.lookup_mem {before after : GoMap Int GoString} (h : Normalized t before after)
    {k : Int} {v : GoString} (hv : after.lookup k = some v) : v ∈ [severityInfo, severityWarning, severityCritical] := by
  rw [h.1] at hv
  obtain ⟨v0, -, rfl⟩ := Option.map_eq_some'.mp hv
  exact canonicalSeverity_mem v0

end Normalize

/-! ## `Validate`, section by section -/

section Sections

variable {t : LowerCaseTable} {orders : MapOrders}

/-- What `validateAlertmanager` accepts: a URL that is not blank and parses with an
`http` or `https` scheme and a host, a basic auth with both credentials and no bearer
token beside it, and a timeout that is not negative. -/
theorem validateAlertmanager_eq_none {urlParse : GoString → Except ForeignError ParsedURL}
    {am : AlertmanagerConfig} :
    validateAlertmanager urlParse am = none ↔
      trimSpace am.url ≠ [] ∧
        (∃ parsed, urlParse am.url = .ok parsed ∧ (parsed.scheme = lit "http" ∨ parsed.scheme = lit "https") ∧
          trimSpace parsed.host ≠ []) ∧
        (∀ basic, am.basicAuth = some basic →
          trimSpace basic.username ≠ [] ∧ trimSpace basic.password ≠ [] ∧ trimSpace am.bearer = []) ∧
        0 ≤ am.timeout := by
  unfold validateAlertmanager
  by_cases hurl : trimSpace am.url = []
  · simp [hurl]
  rw [if_neg hurl]
  cases hp : urlParse am.url with
  | error err => simp [hurl]
  | ok parsed =>
    simp only [Except.ok.injEq, exists_eq_left', hurl, ne_eq, not_false_eq_true, true_and]
    by_cases hs : parsed.scheme = lit "http" ∨ parsed.scheme = lit "https"
    · rw [if_neg (by tauto)]
      by_cases hh : trimSpace parsed.host = []
      · simp [hh]
      rw [if_neg hh]
      cases hb : am.basicAuth with
      | none => simp [hs, hh]
      | some basic =>
        simp only [Option.some.injEq, forall_eq', hs, hh]
        split_ifs <;> simp_all
    · rw [if_pos (by tauto)]
      simp [hs]

theorem validateDefaults_ok {defaults defaults' : DefaultsConfig}
    (h : validateDefaults t orders defaults = .ok defaults') :
    defaults.severityFromPriority.keys ≠ [] ∧
      Normalized t defaults.severityFromPriority defaults'.severityFromPriority ∧
      defaults'.labels = defaults.labels ∧ defaults'.ttl = defaults.ttl ∧ 0 < defaults.ttl ∧
      defaults'.alertName = if trimSpace defaults.alertName = [] then defaultAlertName else defaults.alertName := by
  unfold validateDefaults at h
  by_cases hnil : defaults.severityFromPriority.keys = []
  · simp [hnil] at h
  rw [if_neg hnil] at h
  dsimp only at h
  split at h
  · cases h
  · next severities hs =>
    by_cases httl : defaults.ttl ≤ 0
    · simp [httl] at h
    rw [if_neg httl] at h
    cases h
    exact ⟨hnil, normalizeLoop_ok_enumeration _ hs, rfl, rfl, not_le.mp httl, rfl⟩

theorem validateApp_ok {token : GoString} {app app' : AppConfig} (h : validateApp t orders token app = .ok app') :
    trimSpace token ≠ [] ∧ trimSpace app.appName ≠ [] ∧
      Normalized t app.severityFromPriority app'.severityFromPriority ∧
      app'.appName = app.appName ∧ app'.labels = app.labels ∧
      app'.alertName = if trimSpace app.alertName = [] then [] else app.alertName := by
  unfold validateApp at h
  by_cases h1 : trimSpace token = []
  · simp [h1] at h
  by_cases h2 : trimSpace app.appName = []
  · simp [h1, h2] at h
  simp only [h1, h2, if_false] at h
  split at h
  · cases h
  · next severities hs =>
    cases h
    exact ⟨h1, h2, normalizeSeverityMap_ok hs, rfl, rfl, rfl⟩

/-- Under `token`, `out` holds what `validateApp` made of the app `cur` held there,
if `token` is among the visited ones `order`, and that app itself otherwise. -/
def ValidatedFrom (t : LowerCaseTable) (orders : MapOrders) (order : List GoString)
    (cur out : GoMap GoString AppConfig) (token : GoString) : Prop :=
  (out.lookup token).isSome = (cur.lookup token).isSome ∧
    ∀ app', out.lookup token = some app' → ∃ app, cur.lookup token = some app ∧
      (token ∈ order → validateApp t orders token app = .ok app') ∧ (token ∉ order → app' = app)

/-- The loop of `validateApps` over distinct tokens. -/
theorem validateAppsLoop_ok :
    ∀ (order : List GoString) (cur out : GoMap GoString AppConfig), order.Nodup →
      validateAppsLoop t orders cur order = .ok out → ∀ token, ValidatedFrom t orders order cur out token
  | [], cur, out, _, h, token => by
    cases h
    exact ⟨rfl, fun app' h => ⟨app', h, nofun, fun _ => rfl⟩⟩
  | tok :: order, cur, out, hnd, h, token => by
    rw [List.nodup_cons] at hnd
    unfold validateAppsLoop at h
    cases hp : cur.lookup tok with
    | none =>
      rw [hp] at h
      obtain ⟨ih1, ih2⟩ := validateAppsLoop_ok order cur out hnd.2 h token
      refine ⟨ih1, fun app' h' => ?_⟩
      obtain ⟨app, happ, hin, hout⟩ := ih2 app' h'
      by_cases htok : token = tok
      · subst htok; simp [hp] at happ
      · simp only [List.mem_cons, htok, false_or]
        exact ⟨app, happ, hin, hout⟩
    | some app =>
      rw [hp] at h
      dsimp only at h
      split at h
      · cases h
      · next app1 happ1 =>
        obtain ⟨ih1, ih2⟩ := validateAppsLoop_ok order _ out hnd.2 h token
        by_cases htok : token = tok
        · subst htok
          simp only [AList.lookup_insert] at ih1 ih2
          refine ⟨by rw [ih1, hp]; rfl, fun app' h' => ?_⟩
          obtain ⟨a, ha, -, hout⟩ := ih2 app' h'
          cases ha
          exact ⟨app, hp, fun _ => (hout hnd.1) ▸ happ1, fun hn => absurd (List.mem_cons_self _ _) hn⟩
        · rw [AList.lookup_insert_ne htok] at ih1 ih2
          refine ⟨ih1, fun app' h' => ?_⟩
          simpa [htok] using ih2 app' h'

/-- A successful `Validate` passed every section, in order, and rewrote the defaults
and the apps. -/
theorem validate_eq_ok {urlParse : GoString → Except ForeignError ParsedURL} {cfg cfg' : Config}
    (h : validate t urlParse orders cfg = .ok cfg') :
    validateServer cfg.server = none ∧ validateLogging t cfg.logging = none ∧
      validateAlertmanager urlParse cfg.alertmanager = none ∧
      ∃ defaults apps, validateDefaults t orders cfg.defaults = .ok defaults ∧
        validateAppsLoop t orders cfg.apps (orders.apps cfg.apps).keys = .ok apps ∧
        cfg' = { cfg with defaults, apps } := by
  unfold validate at h
  split at h; · cases h
  next h1 =>
  split at h; · cases h
  next h2 =>
  split at h; · cases h
  next h3 =>
  split at h; · cases h
  next defaults hd =>
  split at h; · cases h
  next apps ha =>
  cases h
  exact ⟨h1, h2, h3, defaults, apps, hd, ha, rfl⟩

/-- **What a successful `Validate` guarantees of the severity maps**, whatever the
orders of its loops: the default map is non-empty and normalised, and every app of
the result comes from the app of the input under the same token through
`validateApp`, so its map is normalised too. -/
theorem validate_ok_severities {urlParse : GoString → Except ForeignError ParsedURL} {cfg cfg' : Config}
    (h : validate t urlParse orders cfg = .ok cfg') :
    cfg.defaults.severityFromPriority.keys ≠ [] ∧
      Normalized t cfg.defaults.severityFromPriority cfg'.defaults.severityFromPriority ∧
      cfg'.defaults.labels = cfg.defaults.labels ∧ cfg'.defaults.ttl = cfg.defaults.ttl ∧
      cfg'.alertmanager = cfg.alertmanager ∧
      ∀ token, (cfg'.apps.lookup token).isSome = (cfg.apps.lookup token).isSome ∧
        ∀ app', cfg'.apps.lookup token = some app' →
          ∃ app, cfg.apps.lookup token = some app ∧ validateApp t orders token app = .ok app' := by
  obtain ⟨-, -, -, defaults, apps, hd, ha, rfl⟩ := validate_eq_ok h
  obtain ⟨hne, hnorm, hlab, httl, -⟩ := validateDefaults_ok hd
  refine ⟨hne, hnorm, hlab, httl, rfl, fun token => ?_⟩
  obtain ⟨h1, h2⟩ := validateAppsLoop_ok _ cfg.apps apps
    ((orders.apps cfg.apps).perm.nodup_iff.mpr cfg.apps.keys_nodup) ha token
  refine ⟨h1, fun app' h' => ?_⟩
  obtain ⟨app, happ, hin, -⟩ := h2 app' h'
  exact ⟨app, happ, hin ((orders.apps cfg.apps).perm.mem_iff.mpr
    ((mem_keys_iff_lookup_isSome _ _).mpr (by simp [happ])))⟩

end Sections

/-! ## What `Validate` accepts -/

section Accepts

variable {t : LowerCaseTable} {orders : MapOrders}

/-- Every entry of a severity map has a key of at least zero and a severity
`validateSeverity` accepts. -/
def SeverityMapOk (t : LowerCaseTable) (mapping : GoMap Int GoString) : Prop :=
  ∀ k v, mapping.lookup k = some v → 0 ≤ k ∧ validateSeverity t v = true

/-- The configurations `Validate` accepts, field by field and with no loop order in
it: the three sections with no maps pass their checks, the default severity map is
non-empty, the TTL is positive, and every app has a non-blank token and name; every
entry of every severity map has a key of at least zero and a known severity. -/
def Acceptable (t : LowerCaseTable) (urlParse : GoString → Except ForeignError ParsedURL) (cfg : Config) : Prop :=
  validateServer cfg.server = none ∧ validateLogging t cfg.logging = none ∧
    validateAlertmanager urlParse cfg.alertmanager = none ∧
    cfg.defaults.severityFromPriority.keys ≠ [] ∧ SeverityMapOk t cfg.defaults.severityFromPriority ∧
    0 < cfg.defaults.ttl ∧
    ∀ token app, cfg.apps.lookup token = some app →
      trimSpace token ≠ [] ∧ trimSpace app.appName ≠ [] ∧ SeverityMapOk t app.severityFromPriority

theorem Normalized.severityMapOk {before after : GoMap Int GoString} (h : Normalized t before after) :
    SeverityMapOk t before :=
  h.2

/-- The loop over distinct keys fails only on an entry it visits. -/
theorem normalizeLoop_ne_error {path : GoString} {pathAt : Int → GoString} :
    ∀ (order : List Int) (cur : GoMap Int GoString), order.Nodup →
      (∀ k ∈ order, ∀ v, cur.lookup k = some v → 0 ≤ k ∧ validateSeverity t v = true) →
      ∀ err, normalizeLoop t path pathAt cur order ≠ .error err
  | [], _, _, _, _ => nofun
  | prio :: order, cur, hnd, hok, err => by
    rw [List.nodup_cons] at hnd
    unfold normalizeLoop
    cases hp : cur.lookup prio with
    | none => exact normalizeLoop_ne_error order cur hnd.2 (fun k hk => hok k (List.mem_cons_of_mem _ hk)) err
    | some sev =>
      obtain ⟨h0, hv⟩ := hok prio (List.mem_cons_self _ _) sev hp
      simp only [if_neg (not_lt.mpr h0), hv, Bool.not_true, Bool.false_eq_true, if_false]
      refine normalizeLoop_ne_error order _ hnd.2 (fun k hk v hkv => ?_) err
      rw [AList.lookup_insert_ne fun e : k = prio => hnd.1 (e ▸ hk)] at hkv
      exact hok k (List.mem_cons_of_mem _ hk) v hkv

theorem normalizeSeverityMap_ne_error {mapping : GoMap Int GoString} (order : Enumeration mapping)
    {sectionName tokenRedaction : GoString} (h : SeverityMapOk t mapping) (err : ValidateError) :
    normalizeSeverityMap t mapping order sectionName tokenRedaction ≠ .error err := by
  unfold normalizeSeverityMap
  split_ifs
  · exact nofun
  · exact normalizeLoop_ne_error _ _ (order.perm.nodup_iff.mpr mapping.keys_nodup) (fun k _ v hv => h k v hv) err

theorem validateDefaults_succeeds {defaults : DefaultsConfig} (hne : defaults.severityFromPriority.keys ≠ [])
    (hmap : SeverityMapOk t defaults.severityFromPriority) (httl : 0 < defaults.ttl) :
    ∃ defaults', validateDefaults t orders defaults = .ok defaults' := by
  unfold validateDefaults
  rw [if_neg hne]
  dsimp only
  split
  · next err herr =>
    exact absurd herr (normalizeLoop_ne_error _ _
      ((orders.severities _).perm.nodup_iff.mpr defaults.severityFromPriority.keys_nodup)
      (fun k _ v hv => hmap k v hv) err)
  · rw [if_neg (not_le.mpr httl)]
    exact ⟨_, rfl⟩

theorem validateApp_succeeds {token : GoString} {app : AppConfig} (htok : trimSpace token ≠ [])
    (hname : trimSpace app.appName ≠ []) (hmap : SeverityMapOk t app.severityFromPriority) :
    ∃ app', validateApp t orders token app = .ok app' := by
  unfold validateApp
  rw [if_neg htok, if_neg hname]
  dsimp only
  split
  · next err herr => exact absurd herr (normalizeSeverityMap_ne_error _ hmap err)
  · exact ⟨_, rfl⟩

/-- The loop of `validateApps` over distinct tokens fails only on an app it visits. -/
theorem validateAppsLoop_ne_error :
    ∀ (order : List GoString) (cur : GoMap GoString AppConfig), order.Nodup →
      (∀ tok ∈ order, ∀ app, cur.lookup tok = some app → ∃ app', validateApp t orders tok app = .ok app') →
      ∀ err, validateAppsLoop t orders cur order ≠ .error err
  | [], _, _, _, _ => nofun
  | tok :: order, cur, hnd, hok, err => by
    rw [List.nodup_cons] at hnd
    unfold validateAppsLoop
    cases hp : cur.lookup tok with
    | none => exact validateAppsLoop_ne_error order cur hnd.2 (fun k hk => hok k (List.mem_cons_of_mem _ hk)) err
    | some app =>
      obtain ⟨app', happ'⟩ := hok tok (List.mem_cons_self _ _) app hp
      simp only [happ']
      refine validateAppsLoop_ne_error order _ hnd.2 (fun k hk a ha => ?_) err
      rw [AList.lookup_insert_ne fun e : k = tok => hnd.1 (e ▸ hk)] at ha
      exact hok k (List.mem_cons_of_mem _ hk) a ha

/-- **`Validate` accepts exactly the acceptable configurations**, in every order of
its map loops: the orders decide which error a rejected configuration gets, never
whether it is rejected. -/
theorem validate_ok_iff (t : LowerCaseTable) (urlParse : GoString → Except ForeignError ParsedURL)
    (orders : MapOrders) (cfg : Config) :
    (∃ cfg', validate t urlParse orders cfg = .ok cfg') ↔ Acceptable t urlParse cfg := by
  constructor
  · rintro ⟨cfg', h⟩
    obtain ⟨h1, h2, h3, defaults, -, hd, -, -⟩ := validate_eq_ok h
    obtain ⟨hne, hnorm, -, -, httl, -⟩ := validateDefaults_ok hd
    obtain ⟨-, -, -, -, -, happs⟩ := validate_ok_severities h
    refine ⟨h1, h2, h3, hne, hnorm.severityMapOk, httl, fun token app happ => ?_⟩
    obtain ⟨app', happ'⟩ := Option.isSome_iff_exists.mp (by rw [(happs token).1, happ]; rfl)
    obtain ⟨app0, happ0, hval⟩ := (happs token).2 app' happ'
    rw [happ] at happ0
    cases happ0
    obtain ⟨htok, hname, hnormApp, -⟩ := validateApp_ok hval
    exact ⟨htok, hname, hnormApp.severityMapOk⟩
  · rintro ⟨h1, h2, h3, hne, hmap, httl, happs⟩
    obtain ⟨defaults, hd⟩ : ∃ defaults, validateDefaults t orders cfg.defaults = .ok defaults :=
      validateDefaults_succeeds hne hmap httl
    have hloop : ∀ err, validateAppsLoop t orders cfg.apps (orders.apps cfg.apps).keys ≠ .error err :=
      validateAppsLoop_ne_error _ _ ((orders.apps cfg.apps).perm.nodup_iff.mpr cfg.apps.keys_nodup)
        fun tok _ app happ => by
          obtain ⟨htok, hname, hm⟩ := happs tok app happ
          exact validateApp_succeeds htok hname hm
    unfold validate
    rw [h1, h2, h3, hd]
    dsimp only
    split
    · next err herr => exact absurd herr (hloop err)
    · exact ⟨_, rfl⟩

end Accepts

end Gotilert.Config
