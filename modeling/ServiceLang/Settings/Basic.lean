import ServiceLang.Text.Space

namespace ServiceLang

/-!
# Settings

* `LogLevel`, `LogSettings`, `ServerSettings`, `DiagnosticsSettings`, `Settings`: what can be set,
  with its defaults;
* `SettingsError`: what can go wrong with settings;
* `Settings.violations`: the rules that settings break.
-/

/-- How much is logged. -/
inductive LogLevel where
  | trace
  | debug
  | info
  | warn
  | error
  deriving DecidableEq, Repr

namespace LogLevel

/-- The name of a level. -/
def name : LogLevel → String
  | .trace => "trace"
  | .debug => "debug"
  | .info => "info"
  | .warn => "warn"
  | .error => "error"

/-- The level of a name. -/
def ofName? (name : String) : Option LogLevel :=
  if name = "trace" then some .trace
  else if name = "debug" then some .debug
  else if name = "info" then some .info
  else if name = "warn" then some .warn
  else if name = "error" then some .error
  else none

/-- The small form of a capital ASCII letter. -/
def lower (c : Char) : Char := if 'A' ≤ c && c ≤ 'Z' then Char.ofNat (c.toNat + 32) else c

/-- The level that a loosely written name stands for: blanks around it and the case of its letters
    do not count, and unknown names stand for the default. -/
def ofLooseName (text : String) : LogLevel :=
  let name := String.ofList ((Text.trim text.toList).map lower)
  if name = "warning" then .warn else (ofName? name).getD .info

end LogLevel

/-- What is logged and where; without a file, in the data directory of the user. -/
structure LogSettings where
  level : LogLevel := .info
  file : Option String := none
  deriving DecidableEq, Repr

/-- The command that starts the server, and its arguments; without a command, the default one. -/
structure ServerSettings where
  command : Option String := none
  args : List String := []
  deriving DecidableEq, Repr

/-- What diagnostics name as their source, and how wide a parse error is. -/
structure DiagnosticsSettings where
  source : String := "webdsl"
  width : UInt32 := 200
  deriving DecidableEq, Repr

/-- All settings. -/
structure Settings where
  log : LogSettings := {}
  server : ServerSettings := {}
  diagnostics : DiagnosticsSettings := {}
  deriving DecidableEq, Repr

/-- What can go wrong with settings. -/
inductive SettingsError where
  /-- The file with the default settings cannot be made. -/
  | createDefault (reason : String)
  /-- A file is not TOML, or holds a value of the wrong kind. -/
  | parse (reason : String)
  /-- A value breaks a rule. -/
  | validation (field message : String)
  /-- A command uses a variable that does not exist. -/
  | unknownVariable (name : String)
  /-- A file cannot be read. -/
  | io (reason : String)
  deriving DecidableEq, Repr

/-- The error in words. -/
def SettingsError.message : SettingsError → String
  | .createDefault reason => s!"failed to create default config: {reason}"
  | .parse reason => s!"TOML parse error: {reason}"
  | .validation field message => s!"validation error: {field}: {message}"
  | .unknownVariable name => s!"unknown variable '$\x7b{name}\x7d' in server command"
  | .io reason => s!"I/O error: {reason}"

/-- Whether a text holds nothing but blanks. -/
def isBlankText (s : String) : Bool := Text.isBlank s.toList

namespace Settings

/-- The source of diagnostics is not blank. -/
def sourceViolations (s : Settings) : List SettingsError :=
  if isBlankText s.diagnostics.source then
    [.validation "diagnostics.source" "must not be empty"]
  else []

/-- A parse error is at least one column wide. -/
def widthViolations (s : Settings) : List SettingsError :=
  if s.diagnostics.width = 0 then
    [.validation "diagnostics.parse_error_width" "must be at least 1"]
  else []

/-- A command that is given is not blank. -/
def commandViolations (s : Settings) : List SettingsError :=
  match s.server.command with
  | some command =>
    if isBlankText command then
      [.validation "server.command" "must not be blank; remove the key to use the default"]
    else []
  | none => []

/-- The rules that settings break. -/
def violations (s : Settings) : List SettingsError :=
  s.sourceViolations ++ s.widthViolations ++ s.commandViolations

/-- The settings if they break no rule, and the first broken rule otherwise. -/
def validated (s : Settings) : Except SettingsError Settings :=
  match s.violations with
  | [] => .ok s
  | e :: _ => .error e

end Settings

end ServiceLang
