namespace ServiceLang

/-!
# Syntax errors

A syntax error is a fault and the line, counted from 1, on which it was found. Its message reads
`Line <n>: <fault>`.
-/

/-- The constructs that own a body. -/
inductive Construct where
  | endpoint
  | function
  | method
  | classDecl
  deriving DecidableEq, Repr

/-- The construct's name in messages. -/
def Construct.name : Construct → String
  | .endpoint => "endpoint"
  | .function => "function"
  | .method => "method"
  | .classDecl => "class"

/-- What is wrong with a line. -/
inductive Fault where
  /-- A word that cannot stand where it does. -/
  | unexpectedToken (token : String)
  /-- The port of a server declaration is no 16-bit number. -/
  | invalidPort (value : String)
  /-- The method of an endpoint declaration is none of the known ones. -/
  | unknownMethod (method : String)
  /-- An endpoint declaration without a quoted path. -/
  | expectedPath
  /-- A quoted path without its closing quote. -/
  | unterminatedString
  /-- A declaration without a name. -/
  | expectedIdentifier (keyword : String)
  /-- A declaration without the colon that opens its body. -/
  | missingColon (construct : Construct)
  /-- A parameter list without its closing parenthesis. -/
  | unclosedParams
  /-- A declaration whose body is empty. -/
  | missingBody (construct : Construct)
  /-- An indented line that belongs to no declaration. -/
  | unexpectedIndent
  deriving DecidableEq, Repr

/-- The fault in words. -/
def Fault.text : Fault → String
  | .unexpectedToken token => s!"unexpected token '{token}'"
  | .invalidPort value => s!"invalid port '{value}'"
  | .unknownMethod method => s!"unsupported HTTP method '{method}'"
  | .expectedPath => "expected quoted path"
  | .unterminatedString => "unterminated string"
  | .expectedIdentifier keyword => s!"expected identifier after '{keyword}'"
  | .missingColon construct => s!"expected ':' to open {construct.name} body"
  | .unclosedParams => "expected ')' to close parameter list"
  | .missingBody construct => s!"{construct.name} has no body"
  | .unexpectedIndent => "unexpected indentation"

/-- A fault and the line it was found on. -/
structure SyntaxError where
  line : Nat
  fault : Fault
  deriving DecidableEq, Repr

/-- The error in words, behind its line. -/
def SyntaxError.message (e : SyntaxError) : String := s!"Line {e.line}: {e.fault.text}"

end ServiceLang
