import ServiceLang.Files.Path
import ServiceLang.Settings.Basic

namespace ServiceLang

/-!
# The user's directories

Settings and logs stand in the directories that the environment names, or at their usual places
in the home directory. Only absolute paths count.
-/

/-- What the environment says about directories; the home directory of the account counts when
    the environment names none. -/
structure Environment where
  home : Option String := none
  accountHome : Option String := none
  configHome : Option String := none
  dataHome : Option String := none
  temporary : String := "/tmp"
  deriving DecidableEq, Repr

namespace Environment

/-- A path that counts. -/
def absolute? (path : Option String) : Option String := path.filter Path.isAbsolute

/-- The home directory. -/
def homeDir? (e : Environment) : Option String := (e.home.filter (· ≠ "")).or e.accountHome

/-- The directory of the user's settings. -/
def settingsDir? (e : Environment) : Option String :=
  ((absolute? e.configHome).or (e.homeDir?.map (Path.join · ".config"))).map (Path.join · "webdsl")

/-- The log file when none is set. -/
def defaultLogFile (e : Environment) : String :=
  let base := ((absolute? e.dataHome).or (e.homeDir?.map (Path.join · ".local/share"))).getD e.temporary
  Path.join (Path.join base "webdsl") "webdsl-ls.log"

/-- The log file of the settings. -/
def logFile (e : Environment) (configured : Option String) : String :=
  match configured with
  | some path => if path = "" then e.defaultLogFile else path
  | none => e.defaultLogFile

end Environment

end ServiceLang
