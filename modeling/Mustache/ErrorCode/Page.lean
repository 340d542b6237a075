-- SUMMARY: The page of documentation for every error code, and the explanation that a user asks for.
import Mustache.ErrorCode
import Mustache.Text.Characters

/-!
# Pages

Each code has a page of Markdown that explains it. A page opens with a heading that
holds the code and a title, and shows how to mend the template.

Users name a code in upper or lower case, with any white space around it. A name that
is no code is reported as it was given.
-/

namespace Mustache

namespace ErrorCode

def title : ErrorCode → String
  | e0001 => "Unclosed Mustache Tag"
  | e0002 => "Empty Tag"
  | e0003 => "Invalid Identifier"
  | e0004 => "Invalid Partial Name"
  | e0005 => "Invalid Set Delimiter Tag"
  | e0006 => "Template Too Large"

/-- The lines below the heading of a page. -/
def body : ErrorCode → List String
  | e0001 =>
    ["",
     "An open marker (`\x7b\x7b` by default) was found, but no matching close marker",
     "follows it before the end of the template. The same error is reported when",
     "a tag body contains another open marker, which usually means a previous tag",
     "was never closed.",
     "",
     "## Example",
     "",
     "```mustache",
     "Hello \x7b\x7bname",
     "```",
     "",
     "```mustache",
     "Hello \x7b\x7bfirst \x7b\x7blast\x7d\x7d",
     "```",
     "",
     "## Solution",
     "",
     "Close every tag with the current close marker:",
     "",
     "```mustache",
     "Hello \x7b\x7bname\x7d\x7d",
     "Hello \x7b\x7bfirst\x7d\x7d \x7b\x7blast\x7d\x7d",
     "```",
     "",
     "For triple-mustache tags, remember the extra brace: `\x7b\x7b\x7bhtml\x7d\x7d\x7d`.",
     "If the template changed its delimiters with `\x7b\x7b=<% %>=\x7d\x7d`, close tags with",
     "the new marker (`%>`)."]
  | e0002 =>
    ["",
     "A tag has nothing between its open and close markers.",
     "",
     "## Example",
     "",
     "```mustache",
     "Hello \x7b\x7b\x7d\x7d",
     "```",
     "",
     "## Solution",
     "",
     "Put a key path, section, partial, or comment inside the tag, or remove it:",
     "",
     "```mustache",
     "Hello \x7b\x7bname\x7d\x7d",
     "```"]
  | e0003 =>
    ["",
     "The body of a variable or section tag is not a valid key path.",
     "",
     "A key path is one or more identifiers separated by single dots, optionally",
     "starting with a `.` that refers to the current context. Blanks may surround",
     "the path but may not appear inside it.",
     "",
     "## Example",
     "",
     "```mustache",
     "\x7b\x7b \x7d\x7d",
     "\x7b\x7buser.\x7d\x7d",
     "\x7b\x7ba..b\x7d\x7d",
     "\x7b\x7bfirst name\x7d\x7d",
     "\x7b\x7b#items. name\x7d\x7d",
     "```",
     "",
     "## Solution",
     "",
     "```mustache",
     "\x7b\x7b.\x7d\x7d",
     "\x7b\x7buser.name\x7d\x7d",
     "\x7b\x7ba.b\x7d\x7d",
     "\x7b\x7bfirst_name\x7d\x7d",
     "\x7b\x7b#items.name\x7d\x7d",
     "```"]
  | e0004 =>
    ["",
     "A partial tag (`\x7b\x7b> name\x7d\x7d`) has no name after the `>` sigil.",
     "",
     "## Example",
     "",
     "```mustache",
     "\x7b\x7b>   \x7d\x7d",
     "```",
     "",
     "## Solution",
     "",
     "Name the partial to include:",
     "",
     "```mustache",
     "\x7b\x7b> header\x7d\x7d",
     "```"]
  | e0005 =>
    ["",
     "A set-delimiter tag must be written `\x7b\x7b=OPEN CLOSE=\x7d\x7d`: it starts and ends",
     "with `=` and contains exactly two whitespace-separated markers.",
     "",
     "## Example",
     "",
     "```mustache",
     "\x7b\x7b=<% %>\x7d\x7d",
     "\x7b\x7b=<%=\x7d\x7d",
     "\x7b\x7b=<% | %>=\x7d\x7d",
     "```",
     "",
     "## Solution",
     "",
     "```mustache",
     "\x7b\x7b=<% %>=\x7d\x7d",
     "```",
     "",
     "The new markers apply to every following tag in the template."]
  | e0006 =>
    ["",
     "Token positions are 32-bit byte offsets, so templates larger than 4 GiB",
     "cannot be tokenized.",
     "",
     "## Solution",
     "",
     "Split the template into partials."]

def page (code : ErrorCode) : String :=
  Text.ofLines (("# " ++ code.name ++ ": " ++ code.title) :: code.body)

/-- All codes with their titles, a code on every line. -/
def index : String :=
  Text.ofLines (all.map fun code => "  " ++ code.name ++ "  " ++ code.title)

end ErrorCode

/-! ## Explanations -/

structure UnknownCode where
  name : String
  deriving DecidableEq, Repr

def UnknownCode.message (e : UnknownCode) : String := "Unknown error code: " ++ e.name

/-- The page of the code with the given name. -/
def explain (name : String) : Except UnknownCode String :=
  match ErrorCode.parse? (.ofList (Text.trim Text.isWhiteSpace name.toList)) with
  | some code => .ok code.page
  | none => .error ⟨name⟩

end Mustache
