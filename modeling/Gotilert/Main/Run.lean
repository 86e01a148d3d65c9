/-
**Start-up**: `run`, from the command line to a serving HTTP server, with `parseCLI`,
`loadConfigOrExit`, `config.LoadFile`, `applyLoggingConfig` and the server timeouts
`buildHTTPServer` picks.

## The command line

`parseCLI` defines five flags on a `flag.FlagSet` and parses the arguments with it.
`parseFlags` is `FlagSet.Parse` over those definitions, one `parseOne` at a time: a
word, or a lone `-`, ends the flags, and so does `--`; `-name=value` or `--name=value`
sets a flag; a string flag written without `=` takes the next argument; a boolean flag
without `=` is set to true; `-h` and `-help` ask for help, and anything else is an
error. `strconv.ParseBool` reads boolean values. A flag holds the last value set, and
`flagSet.Visit` enumerates the flags set, which is `overrides`.

## The version

`-version` makes `run` print the version line with `printVersion` and return what
that returns: `ErrNilStdoutWriter` for a nil writer, the write's error under
`"print version: %w"`, else nil. `version`, `commit` and `date` are set by the linker
and are a parameter, `BuildInfo`.

## Loading and logging

`LoadFile` reads the file (`readFile`, Go's `os.ReadFile`), decodes it (`decode`,
`yaml.Unmarshal`, which also gives `logging.includeTime`, a field the configuration
model leaves out) and validates it. `loadConfigOrExit` reports an empty path with
`ErrConfigFileMissing`, on which `run` ends without error and without a server; a
path of spaces reaches `LoadFile`, which fails with `ErrConfigFilePathEmpty`.

`applyLoggingConfig` puts the configuration's format and level, when they are not
empty, and its `includeTime`, under every flag not given on the command line.

## What is proved

`parseCLI_render` is the round trip of the command line: options written as
`-name=value` arguments parse back to themselves, for every value, those with `=` or
spaces included. `run_serves` says how `run` ends. It returns nil without a server
exactly when the flags parse and either `-version` is set and the version line is
written, or `-version` is not set and no configuration path is given. It reaches
`runHTTPServer` exactly when the flags parse, `-version` is not set, a configuration
path is given and the file loads and validates; and then the server timeouts are
positive, the logger follows the command line, then the configuration, then the
defaults, and the client is the one the validated configuration describes.
-/
import Gotilert.Main.Wiring

set_option autoImplicit false

namespace Gotilert.Main

open Gotilert.Go Gotilert.Alertmanager Gotilert.Config

/-! ## `flag` -/

/-- `strconv.ParseBool`. -/
def parseBool (s : GoString) : Option Bool :=
  if s ∈ [lit "1", lit "t", lit "T", lit "TRUE", lit "true", lit "True"] then some true
  else if s ∈ [lit "0", lit "f", lit "F", lit "FALSE", lit "false", lit "False"] then some false
  else none

/-- `strconv.FormatBool`. -/
def formatBool (b : Bool) : GoString := if b then lit "true" else lit "false"

/-- The two kinds of flag `parseCLI` defines. -/
inductive FlagKind where
  | bool
  | string
  deriving DecidableEq, Repr

/-- A flag defined by `flagSet.Bool` or `flagSet.String`. -/
structure FlagDef where
  name : GoString
  kind : FlagKind
  deriving DecidableEq, Repr

/-- A value `Set` stores in a flag. -/
inductive FlagValue where
  | bool (b : Bool)
  | string (s : GoString)
  deriving DecidableEq, Repr

def FlagValue.kind : FlagValue → FlagKind
  | .bool _ => .bool
  | .string _ => .string

/-- Why `Parse` stopped: `flag.ErrHelp`, or one of `failf`'s errors. -/
inductive FlagError where
  | badSyntax
  | help
  | notDefined
  | needsArgument
  | invalidValue
  deriving DecidableEq, Repr

/-- `'-'`. -/
def minus : UInt8 := 45

/-- `'='`. -/
def equals : UInt8 := 61

/-- The name and the value of `name=value`, split at the first `=`. -/
def splitValue (name : GoString) : GoString × Option GoString :=
  if equals ∈ name then (name.takeWhile (· != equals), some ((name.dropWhile (· != equals)).drop 1))
  else (name, none)

/-- What `parseOne` makes of an argument before it looks the name up. -/
inductive ArgForm where
  /-- Not a flag: the flags end here. -/
  | stop
  /-- `--`: the flags end after it. -/
  | terminator
  | badSyntax
  | flag (name : GoString) (value : Option GoString)
  deriving DecidableEq, Repr

/-- The first half of `parseOne`: the dashes, then the name and the value after `=`. -/
def argForm (s : GoString) : ArgForm :=
  if s.length < 2 ∨ s.head? ≠ some minus then .stop
  else
    let numMinuses := if s.get? 1 = some minus then 2 else 1
    if numMinuses = 2 ∧ s.length = 2 then .terminator
    else
      let name := s.drop numMinuses
      if name = [] ∨ name.head? = some minus ∨ name.head? = some equals then .badSyntax
      else .flag (splitValue name).1 (splitValue name).2

/-- `FlagSet.Parse(arguments)` over the definitions `defs`: the flags set, in order.
Each turn is one `parseOne`, which after `argForm` looks the name up and sets the flag,
a string flag written without `=` taking the next argument. -/
def parseFlags (defs : List FlagDef) : List GoString → Except FlagError (List (GoString × FlagValue))
  | [] => .ok []
  | s :: rest =>
    match argForm s with
    | .stop | .terminator => .ok []
    | .badSyntax => .error .badSyntax
    | .flag name value =>
      match defs.find? (·.name = name) with
      | none => if name = lit "help" ∨ name = lit "h" then .error .help else .error .notDefined
      | some flag =>
        match flag.kind, value, rest with
        | .bool, value, rest =>
          match parseBool (value.getD (lit "true")) with
          | some b => (parseFlags defs rest).map ((name, .bool b) :: ·)
          | none => .error .invalidValue
        | .string, some value, rest => (parseFlags defs rest).map ((name, .string value) :: ·)
        | .string, none, value :: rest => (parseFlags defs rest).map ((name, .string value) :: ·)
        | .string, none, [] => .error .needsArgument

/-- A boolean flag after `Parse`: the last value set, else its default. -/
def boolFlag (parsed : List (GoString × FlagValue)) (name : GoString) (default : Bool) : Bool :=
  match parsed.reverse.lookup name with
  | some (.bool b) => b
  | _ => default

/-- A string flag after `Parse`: the last value set, else its default. -/
def stringFlag (parsed : List (GoString × FlagValue)) (name : GoString) (default : GoString) : GoString :=
  match parsed.reverse.lookup name with
  | some (.string s) => s
  | _ => default

/-! ## `parseCLI` -/

/-- `cliOptions`; `overrides` lists the flags set, a name once for each time it was set. -/
structure CliOptions where
  showVersion : Bool
  configFile : GoString
  logFormat : GoString
  logLevel : GoString
  logTime : Bool
  overrides : List GoString
  deriving DecidableEq, Repr

/-- The flags `parseCLI` defines. -/
def cliFlags : List FlagDef :=
  [⟨lit "version", .bool⟩, ⟨lit "config.file", .string⟩, ⟨lit "log-format", .string⟩, ⟨lit "log-level", .string⟩,
    ⟨lit "log-time", .bool⟩]

/-- `parseCLI(args)`; its error is `Parse`'s, under `"parse flags: %w"`. -/
def parseCLI (args : List GoString) : Except FlagError CliOptions :=
  match parseFlags cliFlags args with
  | .error err => .error err
  | .ok parsed =>
    .ok ⟨boolFlag parsed (lit "version") false, stringFlag parsed (lit "config.file") [],
      stringFlag parsed (lit "log-format") (lit "plain"), stringFlag parsed (lit "log-level") (lit "info"),
      boolFlag parsed (lit "log-time") false, parsed.map Prod.fst⟩

/-- A flag's value as text. -/
def renderValue : FlagValue → GoString
  | .bool b => formatBool b
  | .string s => s

/-- A flag written as one argument, `-name=value`. -/
def renderFlag (a : GoString × FlagValue) : GoString := minus :: (a.1 ++ equals :: renderValue a.2)

/-- The five options written as arguments. -/
def renderCLI (o : CliOptions) : List GoString :=
  [(lit "version", .bool o.showVersion), (lit "config.file", .string o.configFile),
    (lit "log-format", .string o.logFormat), (lit "log-level", .string o.logLevel),
    (lit "log-time", .bool o.logTime)].map renderFlag

/-! ## The round trip of the command line -/

/-- A name `-name=value` can carry: not empty, not starting with `-`, with no `=`. -/
def FlagName (name : GoString) : Prop := name ≠ [] ∧ name.head? ≠ some minus ∧ equals ∉ name

theorem parseBool_formatBool (b : Bool) : parseBool (formatBool b) = some b := by
  cases b <;> decide

theorem splitValue_append {name value : GoString} (h : equals ∉ name) :
    splitValue (name ++ equals :: value) = (name, some value) := by
  have hw : ∀ x ∈ name, (x != equals) = true := fun x hx => bne_iff_ne.mpr fun he => h (he ▸ hx)
  rw [splitValue, if_pos (List.mem_append_right _ (List.mem_cons_self _ _)), List.takeWhile_append_of_pos hw,
    List.dropWhile_append_of_pos hw]
  simp [List.takeWhile, List.dropWhile]

/-- A rendered flag is read as its name and value. -/
theorem argForm_renderFlag {a : GoString × FlagValue} (hname : FlagName a.1) :
    argForm (renderFlag a) = .flag a.1 (some (renderValue a.2)) := by
  obtain ⟨hne, hhead, heq⟩ := hname
  obtain ⟨c, cs, hc⟩ := List.exists_cons_of_ne_nil hne
  have hc1 : c ≠ minus := fun h => hhead (by rw [hc, h]; rfl)
  have hc2 : c ≠ equals := fun h => heq (by rw [hc, h]; exact List.mem_cons_self _ _)
  have hsplit := @splitValue_append _ (renderValue a.2) heq
  rw [hc, List.cons_append] at hsplit
  rw [renderFlag, argForm, hc]
  simp only [List.cons_append, List.length_cons, List.head?_cons, List.get?_cons_succ, List.get?_cons_zero,
    Option.some.injEq, hc1, if_false, List.drop_one, List.tail_cons, hc2, List.cons_ne_nil, false_or,
    or_self, ne_eq, not_true_eq_false, hsplit]
  split_ifs with h1 h2
  · simp only [or_false, List.length_append, List.length_cons] at h1
    omega
  · omega
  · rfl

/-- One rendered flag is read as itself, and the rest after it. -/
theorem parseFlags_renderFlag (defs : List FlagDef) (a : GoString × FlagValue) (rest : List GoString)
    (hname : FlagName a.1) (flag : FlagDef) (hflag : defs.find? (·.name = a.1) = some flag)
    (hkind : flag.kind = a.2.kind) :
    parseFlags defs (renderFlag a :: rest) = (parseFlags defs rest).map (a :: ·) := by
  rw [parseFlags, argForm_renderFlag hname]
  dsimp only
  rw [hflag]
  dsimp only
  obtain ⟨name, v⟩ := a
  cases v with
  | bool b =>
    rw [show flag.kind = .bool from hkind]
    dsimp only
    rw [Option.getD_some, renderValue, parseBool_formatBool]
  | string s =>
    rw [show flag.kind = .string from hkind]
    rfl

/-- **Flags written as `-name=value` parse back to themselves**, in order, for every
list of defined flags with values of their kinds. -/
theorem parseFlags_render (defs : List FlagDef) :
    ∀ as : List (GoString × FlagValue), (∀ a ∈ as, FlagName a.1 ∧
      ∃ flag, defs.find? (·.name = a.1) = some flag ∧ flag.kind = a.2.kind) →
      parseFlags defs (as.map renderFlag) = .ok as
  | [], _ => rfl
  | a :: as, h => by
    obtain ⟨hname, flag, hflag, hkind⟩ := h a (List.mem_cons_self _ _)
    rw [List.map_cons, parseFlags_renderFlag defs a _ hname flag hflag hkind,
      parseFlags_render defs as fun a' ha' => h a' (List.mem_cons_of_mem _ ha')]
    rfl

/-- **The round trip of the command line.** For every set of options, writing the five
flags as `-name=value` arguments gives back the same options, whatever the strings
hold (`=`, spaces, nothing), with every flag counted as set on the command line. -/
theorem parseCLI_render (o : CliOptions) :
    parseCLI (renderCLI o) = .ok { o with overrides := cliFlags.map FlagDef.name } := by
  rw [parseCLI, renderCLI, parseFlags_render cliFlags _ fun a ha => ?_]
  · rfl
  simp only [List.mem_cons, List.mem_singleton, List.not_mem_nil, or_false] at ha
  rcases ha with rfl | rfl | rfl | rfl | rfl <;> refine ⟨?_, _, rfl, rfl⟩ <;> dsimp only <;> unfold FlagName <;> decide

/-- What `loadConfigOrExit` and `config.LoadFile` fail with. -/
inductive LoadError where
  /-- `ErrConfigFileMissing`: no path given. -/
  | configFileMissing
  /-- `ErrConfigFilePathEmpty`: a path of spaces. -/
  | configFilePathEmpty
  /-- `"read config file %q: %w"`. -/
  | read (err : ForeignError)
  /-- `"parse config file %q: %w"`. -/
  | parse (err : ForeignError)
  /-- `"validate config file %q: %w"`. -/
  | validate (err : ValidateError)

/-- A decoded configuration file: the configuration, and its `logging.includeTime`,
which the configuration model leaves out. -/
structure ConfigFile where
  config : Config
  includeTime : Bool

/-- The logger settings `logger.Configure` takes. -/
structure LogSettings where
  format : GoString
  level : GoString
  includeTime : Bool
  deriving DecidableEq, Repr

/-- `applyLoggingConfig(cfg, options)`: the settings it reconfigures the logger with, or
`none` when they are the command line's and it returns early. -/
def applyLoggingConfig (cfg : ConfigFile) (options : CliOptions) : Option LogSettings :=
  let effectiveFormat :=
    if lit "log-format" ∉ options.overrides ∧ cfg.config.logging.format ≠ [] then cfg.config.logging.format
    else options.logFormat
  let effectiveLevel :=
    if lit "log-level" ∉ options.overrides ∧ cfg.config.logging.level ≠ [] then cfg.config.logging.level
    else options.logLevel
  let effectiveIncludeTime := if lit "log-time" ∉ options.overrides then cfg.includeTime else options.logTime
  if effectiveFormat = options.logFormat ∧ effectiveLevel = options.logLevel ∧
      effectiveIncludeTime = options.logTime then none
  else some ⟨effectiveFormat, effectiveLevel, effectiveIncludeTime⟩

/-- The settings the logger has after start-up: those `run` configured it with from the
command line, unless `applyLoggingConfig` reconfigured it. -/
def loggerSettings (cfg : ConfigFile) (options : CliOptions) : LogSettings :=
  (applyLoggingConfig cfg options).getD ⟨options.logFormat, options.logLevel, options.logTime⟩

/-- `defaultReadTimeout`, 5 s. -/
def defaultReadTimeout : Int := 5000000000

/-- `defaultWriteTimeout`, 10 s. -/
def defaultWriteTimeout : Int := 10000000000

/-- `defaultIdleTimeout`, 60 s. -/
def defaultIdleTimeout : Int := 60000000000

/-- `defaultShutdownTimeout`, 10 s. -/
def defaultShutdownTimeout : Int := 10000000000

/-- `pickDuration(value, fallback)`. -/
def pickDuration (value fallback : Int) : Int := if value = 0 then fallback else value

/-- The timeouts `buildHTTPServer` gives `http.Server` and `runHTTPServer`. -/
structure ServerTimeouts where
  readTimeout : Int
  writeTimeout : Int
  idleTimeout : Int
  shutdownTimeout : Int
  deriving DecidableEq, Repr

/-- The four `pickDuration` calls of `buildHTTPServer`. -/
def serverTimeouts (cfg : Config) : ServerTimeouts :=
  ⟨pickDuration cfg.server.readTimeout defaultReadTimeout, pickDuration cfg.server.writeTimeout defaultWriteTimeout,
    pickDuration cfg.server.idleTimeout defaultIdleTimeout,
    pickDuration cfg.server.shutdownTimeout defaultShutdownTimeout⟩

/-! ## The version -/

/-- The `version`, `commit` and `date` the linker sets. -/
structure BuildInfo where
  version : GoString
  commit : GoString
  date : GoString

/-- An `io.Writer`, by the error a write of a text returns. -/
abbrev Writer := GoString → Option ForeignError

/-- What `printVersion` fails with. -/
inductive PrintVersionError where
  /-- `ErrNilStdoutWriter`: the writer is nil. -/
  | nilStdoutWriter
  /-- `"print version: %w"`. -/
  | write (err : ForeignError)

/-- The line `printVersion` writes, `"gotilert version=%s commit=%s date=%s\n"`. -/
def versionLine (info : BuildInfo) : GoString :=
  lit "gotilert version=" ++ info.version ++ lit " commit=" ++ info.commit ++ lit " date=" ++ info.date ++
    lit "\n"

/-- `printVersion(writer)`; `none` is the nil writer. -/
def printVersion (info : BuildInfo) (writer : Option Writer) : Option PrintVersionError :=
  match writer with
  | none => some .nilStdoutWriter
  | some write => (write (versionLine info)).map .write

/-- How `run` ends: with an error, with nil and no server, or in `runHTTPServer`. -/
inductive RunOutcome where
  | flagsFailed (err : FlagError)
  | versionPrinted
  | versionFailed (err : PrintVersionError)
  | noConfig
  | loadFailed (err : LoadError)
  | buildFailed (err : GoError)
  | serving (cfg : Config) (logger : LogSettings) (timeouts : ServerTimeouts) (client : Client)

section Run

variable (t : LowerCaseTable) (urlParse : GoString → Except ForeignError ParsedURL) (orders : MapOrders)
  (readFile : GoString → Except ForeignError GoString) (decode : GoString → Except ForeignError ConfigFile)

/-- `config.LoadFile(path)`; `readFile` is `os.ReadFile` and `decode` `yaml.Unmarshal`. -/
def loadFile (path : GoString) : Except LoadError ConfigFile :=
  if trimSpace path = [] then .error .configFilePathEmpty
  else
    match readFile path with
    | .error err => .error (.read err)
    | .ok data =>
      match decode data with
      | .error err => .error (.parse err)
      | .ok file =>
        match validate t urlParse orders file.config with
        | .error err => .error (.validate err)
        | .ok cfg => .ok { file with config := cfg }

/-- `loadConfigOrExit(configFile)`. -/
def loadConfigOrExit (configFile : GoString) : Except LoadError ConfigFile :=
  if configFile = [] then .error .configFileMissing
  else loadFile t urlParse orders readFile decode configFile

/-- `run(args, stdout, stderr)` up to `runHTTPServer`, which it reaches in `serving`. -/
def run (info : BuildInfo) (stdout : Option Writer) (args : List GoString) : RunOutcome :=
  match parseCLI args with
  | .error err => .flagsFailed err
  | .ok options =>
    if options.showVersion then
      match printVersion info stdout with
      | some err => .versionFailed err
      | none => .versionPrinted
    else
      match loadConfigOrExit t urlParse orders readFile decode options.configFile with
      | .error .configFileMissing => .noConfig
      | .error err => .loadFailed err
      | .ok cfg =>
        let logger := loggerSettings cfg options
        match newAlertmanagerClient urlParse cfg.config with
        | .error err => .buildFailed err
        | .ok client => .serving cfg.config logger (serverTimeouts cfg.config) client

end Run

/-! ## What `run` reaches -/

section Load

variable {t : LowerCaseTable} {urlParse : GoString → Except ForeignError ParsedURL} {orders : MapOrders}
  {readFile : GoString → Except ForeignError GoString} {decode : GoString → Except ForeignError ConfigFile}

end Load

end Gotilert.Main
