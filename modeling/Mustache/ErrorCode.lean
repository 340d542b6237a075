-- SUMMARY: The stable codes under which errors are documented.

/-!
# Error codes

Every kind of syntax error has a code, by which users look it up. Codes are written
with a capital letter and read in either case.
-/

namespace Mustache

inductive ErrorCode where
  /-- A tag without an end. -/
  | e0001
  /-- A tag without a body. -/
  | e0002
  /-- A body that is no key path. -/
  | e0003
  /-- A partial without a name. -/
  | e0004
  /-- A malformed change of the delimiters. -/
  | e0005
  /-- A template whose offsets do not fit into 32 bits. -/
  | e0006
  deriving DecidableEq, Repr

namespace ErrorCode

def all : List ErrorCode := [e0001, e0002, e0003, e0004, e0005, e0006]

def name : ErrorCode → String
  | e0001 => "E0001"
  | e0002 => "E0002"
  | e0003 => "E0003"
  | e0004 => "E0004"
  | e0005 => "E0005"
  | e0006 => "E0006"

/-- The code with the given name, in upper or lower case. -/
def parse? (s : String) : Option ErrorCode :=
  all.find? fun code => code.name.toList == s.toList.map Char.toUpper

theorem mem_all (code : ErrorCode) : code ∈ all := by
  cases code <;> decide

end ErrorCode

end Mustache
