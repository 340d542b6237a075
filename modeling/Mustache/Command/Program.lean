-- SUMMARY: What the command line asks for, and what the program answers.
import Mustache.Command.Listing
import Mustache.ErrorCode.Page

/-!
# The program

A command line is first understood as a request, which names the template to read, if
any. The answer to a request is what goes to the standard output, what goes to the
standard error, and the exit status. Templates come from files or from the standard
input and must be UTF-8.

A program may also log what it does to the standard error, if the variable `RUST_LOG` of
its environment asks for it. Here the variable is not set, and nothing is logged.
-/

namespace Mustache

inductive ReadFault where
  | notFound
  | permissionDenied
  | notUTF8
  | other (reason : String)
  deriving DecidableEq, Repr

def ReadFault.message (path : String) : ReadFault → String
  | notFound => "cannot find file '" ++ path ++ "'"
  | permissionDenied => "permission denied reading '" ++ path ++ "'"
  | notUTF8 => "'" ++ path ++ "' contains invalid UTF-8 data"
  | other reason => "error reading '" ++ path ++ "': " ++ reason

structure Inputs where
  stdin : ByteArray
  /-- The content of the file with a path, if there is such a file. -/
  file : String → Option ByteArray

namespace Inputs

def decode (content : ByteArray) : Except ReadFault String :=
  match String.fromUTF8? content with
  | some text => .ok text
  | none => .error .notUTF8

/-- The template with a path. The path `-` is the standard input. -/
def read (i : Inputs) (path : String) : Except ReadFault String :=
  if path = "-" then decode i.stdin
  else
    match i.file path with
    | some content => decode content
    | none => .error .notFound

end Inputs

structure Output where
  exit : UInt8
  out : String
  err : String
  deriving DecidableEq, Repr

/-! ## Requests -/

/-- What the program is asked to do. -/
inductive Request where
  | usage
  | version
  | codes
  | explain (name : String)
  | list (o : Options)
  | count (o : Options)
  | invalidOptions (command : String) (e : OptionError)
  | unknown (command : String)

namespace Request

def withOptions (command : String) (request : Options → Request) (args : List String) : Request :=
  match Options.parse args with
  | .ok o => request o
  | .error e => .invalidOptions command e

def ofArgs : List String → Request
  | [] => .usage
  | command :: args =>
    match command with
    | "lex" => withOptions command .list args
    | "check" => withOptions command .count args
    | "explain" | "--explain" =>
      match args with
      | [] => .codes
      | name :: _ => .explain name
    | "help" | "--help" | "-h" => .usage
    | "version" | "--version" | "-V" => .version
    | _ => .unknown command

def path? : Request → Option String
  | list o | count o => some o.path
  | _ => none

end Request

/-! ## Answers -/

namespace Output

def success (out : String) : Output := ⟨0, out, ""⟩

def failure (out err : String) : Output := ⟨1, out, err⟩

end Output

def Program.usage : String :=
  Text.ofLines
    ["stache: Mustache template tokenizer",
     "",
     "Usage: stache <command> [options]",
     "",
     "Commands:",
     "  lex <file>           Tokenize and print one token per line",
     "  check <file>         Validate a template and print its token count",
     "  explain [code]       Explain an error code (e.g., E0001), or list all codes",
     "  help                 Show this help message",
     "  version              Show version information",
     "",
     "Options (lex, check):",
     "  --delimiters=O,C     Start with O and C as tag markers (default: \x7b\x7b,\x7d\x7d)",
     "  --name=ID            Template name used in errors (default: the file path)",
     "",
     "Use '-' as the file to read standard input.",
     "Set RUST_LOG=stache_lexer=trace to log every token; add STACHE_LOG_TREE=1 for a tree view."]

namespace Request

def answerExplain (name : String) : Output :=
  match Mustache.explain name with
  | .ok page => .success (page ++ "\n")
  | .error e =>
    .failure "" (Text.ofLines
      [e.message, "", "Codes have the format EXXXX where X is a digit. Known codes:"]
        ++ ErrorCode.index)

def answerList (o : Options) (text : String) : Output :=
  let (result, sink) := Listing.write o text .unlimited
  match result with
  | .ok _ => .success sink.text
  | .error failure => .failure sink.text (failure.report ++ "\n")

def answerCount (o : Options) (text : String) : Output :=
  match Count.ofText o text with
  | .ok n => .success ("ok (" ++ toString n ++ " tokens)\n")
  | .error e => .failure "" (e.report ++ "\n")

def withTemplate (read : String → Except ReadFault String) (o : Options)
    (answer : Options → String → Output) : Output :=
  match read o.path with
  | .ok text => answer o text
  | .error fault => .failure "" (fault.message o.path ++ "\n")

/-- The answer to a request, given how templates are read. -/
def answer (read : String → Except ReadFault String) : Request → Output
  | usage => .success Program.usage
  | version => .success "stache 0.1.0\n"
  | codes =>
    .success ("Error codes (run `stache explain <code>` for details):\n" ++ ErrorCode.index)
  | explain name => answerExplain name
  | list o => withTemplate read o answerList
  | count o => withTemplate read o answerCount
  | invalidOptions command e =>
    .failure "" (Text.ofLines
      ["error: " ++ e.message,
       "Usage: stache " ++ command ++ " <file> [--delimiters=OPEN,CLOSE] [--name=ID]"])
  | unknown command =>
    .failure Program.usage (Text.ofLines ["Unknown command: " ++ command, ""])

end Request

def Program.run (inputs : Inputs) (args : List String) : Output :=
  (Request.ofArgs args).answer inputs.read

end Mustache
