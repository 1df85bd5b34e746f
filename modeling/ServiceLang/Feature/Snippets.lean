import ServiceLang.Protocol.Completion

namespace ServiceLang

/-!
# Completions

The proposals are the same snippets at every place, in the same order; clients filter them by
what has been typed.
-/

/-- A proposal that inserts a snippet. -/
def snippet (label : String) (kind : CompletionKind) (detail body : String) : CompletionItem where
  label := label
  kind := kind
  detail := some detail
  insertText := body
  insertTextFormat := CompletionItem.snippetFormat
  documentation := none

/-- The proposals. -/
def completions : List CompletionItem :=
  [snippet "server" .keyword "server <port>" "server $\x7b1:8080\x7d",
    snippet "endpoint" .snippet "endpoint METHOD \"/path\": body"
      "endpoint $\x7b1:GET\x7d \"$\x7b2:/path\x7d\": $\x7b3:body\x7d",
    snippet "func" .function "func name(args): expr"
      "func $\x7b1:name\x7d($\x7b2:args\x7d): $\x7b3:expr\x7d",
    snippet "class" .classType "class Name: with one method"
      "class $\x7b1:Name\x7d:\n    method $\x7b2:name\x7d($\x7b3:args\x7d): $\x7b4:body\x7d",
    snippet "GET" .keyword "HTTP GET" "GET",
    snippet "POST" .keyword "HTTP POST" "POST",
    snippet "json" .value "JSON response literal"
      "json \x7b \"$\x7b1:message\x7d\": \"$\x7b2:Hello\x7d\" \x7d"]

end ServiceLang
