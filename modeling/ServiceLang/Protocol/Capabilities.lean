import ServiceLang.Json.Basic

namespace ServiceLang

/-!
# What the server offers

The answer to the first request of a session: the server's capabilities, its name and version.
-/

/-- The name of the server. -/
def serverName : String := "webdsl-ls"

/-- The version of the server. -/
def serverVersion : String := "0.1.0"

/-- The code for keeping documents in step by sending their whole text. -/
def fullSync : Nat := 1

/-- The characters after which a client asks for completions. -/
def completionTriggers : List String := [" ", "/", "\"", ":"]

/-- What the server can do. -/
def capabilities : Json :=
  .obj [
    ("completionProvider", .obj [
      ("resolveProvider", .bool false),
      ("triggerCharacters", .ofStrings completionTriggers)]),
    ("documentSymbolProvider", .bool true),
    ("hoverProvider", .bool true),
    ("textDocumentSync", .obj [
      ("change", .ofNat fullSync),
      ("openClose", .bool true),
      ("save", .obj [("includeText", .bool true)])])]

/-- The answer to the first request. -/
def initializeResult : Json :=
  .obj [
    ("capabilities", capabilities),
    ("serverInfo", .obj [("name", .str serverName), ("version", .str serverVersion)])]

end ServiceLang
