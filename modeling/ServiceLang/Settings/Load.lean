import ServiceLang.Files.Disk
import ServiceLang.Settings.Toml
import ServiceLang.Text.Lines
import ServiceLang.Text.Utf8

namespace ServiceLang

/-!
# Loading settings

The settings of the user are laid over the defaults, and those of the project over them. The file
of the user is made if it does not exist. The project's file is the nearest one at or above the
working directory.
-/

/-- The name of a file with settings. -/
def settingsFileName : String := "config.toml"

/-- The directory of a project that holds its settings. -/
def projectSettingsDir : String := ".webdsl"

/-- What a new file of the user holds: the defaults, commented out. -/
def defaultSettingsText : String :=
  "# webdsl language server configuration\n" ++
  "# Uncomment and edit settings below to override defaults.\n" ++
  "\n" ++
  "# [log]\n" ++
  "# level = \"info\"\n" ++
  "# file = \"/path/to/webdsl-ls.log\"\n" ++
  "\n" ++
  "# [server]\n" ++
  "# command = \"$\x7bworkspaceFolder\x7d/bin/webdsl-ls\"\n" ++
  "# args = []\n" ++
  "\n" ++
  "# [diagnostics]\n" ++
  "# source = \"webdsl\"\n" ++
  "# parse_error_width = 200\n"

/-- Whether a line holds something besides a comment. -/
def isSettingLine (line : List Char) : Bool :=
  match Text.trim line with
  | [] => false
  | c :: _ => c ≠ '#'

/-- Whether a text holds something besides comments. -/
def hasSettings (text : String) : Bool := (Text.lines text.toList).any isSettingLine

/-- The text of the file at a path. -/
def Disk.readText (d : Disk) (path : String) : Except SettingsError String :=
  match d.contentOf path with
  | .error e => .error (.io e.message)
  | .ok bytes =>
    match Text.decodeUtf8 bytes with
    | .ok text => .ok (String.ofList text)
    | .error _ => .error (.io "stream did not contain valid UTF-8")

/-- Makes the user's file of settings, with its directory, if nothing is there. -/
def Disk.ensureSettings (d : Disk) (directory path : String) : Attempt :=
  if d.contains path then { disk := d }
  else
    (d.makeDirs directory).andThen fun d =>
    .ofResult d (d.setContent path (Text.encodeUtf8 defaultSettingsText.toList))

/-- The path of the project's file of settings, if there is one. -/
def Disk.projectSettings? (d : Disk) (projectDir : String) : Option String :=
  (Path.upward projectDir).findSome? fun names =>
    let path := Path.ofNames (names ++ [projectSettingsDir, settingsFileName])
    if d.hasFile path then some path else none

namespace Settings

/-- The settings of the user over the defaults; a text without settings is not even parsed. -/
def ofUser (text : String) : Except SettingsError Settings :=
  if hasSettings text then layer {} text else .ok {}

/-- The settings of the project over others, where there is a project with settings. -/
def withProject (d : Disk) (base : Settings) (projectDir : Option String) :
    Except SettingsError Settings :=
  match projectDir.bind d.projectSettings? with
  | none => .ok base
  | some path => do base.layer (← d.readText path)

/-- Loads the settings, and gives the disk with the user's file. -/
def load (d : Disk) (directory : String) (projectDir : Option String) :
    Except SettingsError Settings × Disk :=
  let path := Path.join directory settingsFileName
  match d.ensureSettings directory path with
  | ⟨d, some e⟩ => (.error (.createDefault e.message), d)
  | ⟨d, none⟩ =>
    let result := do
      let user ← ofUser (← d.readText path)
      let all ← withProject d user projectDir
      all.validated
    (result, d)

end Settings

end ServiceLang
