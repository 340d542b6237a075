-- SUMMARY: What can be wrong with a template, and how it is reported.
import Mustache.ErrorCode
import Mustache.Template

/-!
# Syntax errors

A template has at most one error, because a scan ends at the first. The error names
the fault and the tag that has it. It is shown as a message, or as a report of three
parts that also gives the place and the code.
-/

namespace Mustache

/-- What is wrong with a tag, or with the template as a whole. -/
inductive Fault where
  /-- No closing marker follows, or an opening marker comes first. -/
  | unclosedTag
  | emptyTag
  | invalidKeyPath
  | invalidPartialName
  /-- The body does not name two new markers between equals signs. -/
  | invalidDelimiters
  | templateTooLarge
  deriving DecidableEq, Repr

namespace Fault

def description : Fault → String
  | unclosedTag => "Unclosed Mustache tag"
  | emptyTag => "Empty tag"
  | invalidKeyPath => "Invalid identifier"
  | invalidPartialName => "Invalid partial name"
  | invalidDelimiters => "Invalid set delimiter tag"
  | templateTooLarge => "Template too large"

def code : Fault → ErrorCode
  | unclosedTag => .e0001
  | emptyTag => .e0002
  | invalidKeyPath => .e0003
  | invalidPartialName => .e0004
  | invalidDelimiters => .e0005
  | templateTooLarge => .e0006

end Fault

structure SyntaxError where
  fault : Fault
  line : UInt32
  /-- The bytes of the tag. An unclosed tag extends to the end of the template. -/
  span : Span
  template : TemplateId
  deriving DecidableEq, Repr

namespace SyntaxError

def code (e : SyntaxError) : ErrorCode := e.fault.code

/-- The message. It names the template if the template has a name. -/
def message (e : SyntaxError) : String :=
  let template := match e.template with
    | .anonymous => ""
    | .named name => " of template " ++ name
  "Parse error at line " ++ toString e.line.toNat ++ template ++ ": " ++ e.fault.description

/-- The place of the error. An empty span points at no tag, so that only the template is
    named. -/
def location (e : SyntaxError) : String :=
  if e.span.isEmpty then
    e.template.display
  else
    e.template.display ++ ":" ++ toString e.line.toNat ++ " (bytes " ++ e.span.display ++ ")"

def report (e : SyntaxError) : String :=
  "\n".intercalate
    ["error[" ++ e.code.name ++ "]: " ++ e.message,
     "  --> " ++ e.location,
     "  = help: run `stache explain " ++ e.code.name ++ "` for details"]

end SyntaxError

end Mustache
