-- SUMMARY: The options of the commands that read a template.
import Mustache.Delimiters
import Mustache.Template

/-!
# Options

The commands that read a template take its path and two options, in any order. A flag
that is given more than once counts as it is given last. The first argument that does
not fit decides the error, and only then it matters whether there is a path.
-/

namespace Mustache

structure Options where
  /-- The file to read. The path `-` is the standard input. -/
  path : String
  delimiters : Delimiters
  name : Option String
  deriving DecidableEq

inductive OptionError where
  | missingPath
  | unexpectedArgument (arg : String)
  | unknownOption (arg : String)
  | invalidDelimiters (value : String)
  | emptyName
  deriving DecidableEq, Repr

def OptionError.message : OptionError → String
  | missingPath => "missing template path"
  | unexpectedArgument arg => "unexpected argument '" ++ arg ++ "'"
  | unknownOption arg => "unknown option '" ++ arg ++ "'"
  | invalidDelimiters value =>
    "invalid delimiters '" ++ value ++ "': expected two non-empty markers separated by a comma, "
      ++ "e.g. --delimiters=<%,%>"
  | emptyName => "empty template name"

/-! ## A single argument -/

/-- An argument by its form. -/
inductive Argument where
  /-- The flag for delimiters with its value. -/
  | delimiters (value : String)
  /-- The flag for a name with its value. -/
  | name (value : String)
  /-- Any other argument that begins with a dash and goes on. -/
  | unknown (arg : String)
  /-- All others, the single dash and the empty argument included. -/
  | path (arg : String)
  deriving DecidableEq, Repr

namespace Argument

def delimitersFlag : List Char := "--delimiters=".toList

def nameFlag : List Char := "--name=".toList

def ofString (arg : String) : Argument :=
  match delimitersFlag.isPrefixOf? arg.toList with
  | some value => .delimiters (.ofList value)
  | none =>
    match nameFlag.isPrefixOf? arg.toList with
    | some value => .name (.ofList value)
    | none => if arg.toList.head? = some '-' ∧ arg ≠ "-" then .unknown arg else .path arg

end Argument

/-! ## All arguments -/

namespace Options

/-- The identifier of the template in messages. -/
def templateId (o : Options) : TemplateId := .named (o.name.getD o.path)

/-- Two markers that are free of white space, separated by the first comma. -/
def markers? (value : String) : Option Delimiters :=
  let cs := value.toList
  match cs.dropWhile (· != ',') with
  | ',' :: closing =>
    let opening := cs.takeWhile (· != ',')
    if opening.any Text.isWhiteSpace || closing.any Text.isWhiteSpace then none
    else Delimiters.ofMarkers? (.ofList opening) (.ofList closing)
  | _ => none

/-- What the arguments read so far say. -/
structure Draft where
  path : Option String
  delimiters : Delimiters
  name : Option String

def Draft.empty : Draft := ⟨none, .standard, none⟩

def Draft.add (d : Draft) : Argument → Except OptionError Draft
  | .delimiters value =>
    match markers? value with
    | some delimiters => .ok { d with delimiters }
    | none => .error (.invalidDelimiters value)
  | .name value => if value = "" then .error .emptyName else .ok { d with name := some value }
  | .unknown arg => .error (.unknownOption arg)
  | .path arg =>
    match d.path with
    | none => .ok { d with path := some arg }
    | some _ => .error (.unexpectedArgument arg)

def Draft.finish (d : Draft) : Except OptionError Options :=
  match d.path with
  | some path => .ok { path, delimiters := d.delimiters, name := d.name }
  | none => .error .missingPath

/-- Reads the arguments that follow the name of a command. -/
def parse (args : List String) : Except OptionError Options :=
  ((args.map Argument.ofString).foldlM Draft.add Draft.empty).bind Draft.finish

end Options

end Mustache
