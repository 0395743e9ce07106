import Metrology.Options.Schema

/-!
# The file of parser options

The file that the command line names: the plain form of its path, the reasons why it cannot be
read, and the options in it.
-/

namespace Metrology.CommandLine

/-! ## Paths -/

/-- Splits a text at the solidi. -/
def splitPath (s : List Char) : List (List Char) := s.splitOnP (· = '/')

/-- The steps of a path; empty ones and single points lead nowhere. -/
def pathSteps (path : String) : List String :=
  ((splitPath path.toList).filter fun step => !step.isEmpty && step != ['.']).map String.ofList

/-- The root that a path starts from: exactly two solidi differ from one. -/
def pathRoot (path : String) : String :=
  match (path.toList.takeWhile (· = '/')).length with
  | 0 => ""
  | 2 => "//"
  | _ => "/"

/-- A path without the steps that lead nowhere. -/
def plainPath (path : String) : String :=
  let plain := pathRoot path ++ "/".intercalate (pathSteps path)
  if plain.isEmpty then "." else plain

/-! ## Reading -/

/-- Why a file cannot be read. -/
inductive FileFault where
  | missing
  | directory
  | notDirectory
  | nameTooLong
  /-- The path holds a zero character. -/
  | zeroCharacter
deriving DecidableEq, Repr

/-- The wording of a fault at a path. -/
def FileFault.message (path : String) : FileFault → String
  | .missing => s!"[Errno 2] No such file or directory: {Text.quoted path}"
  | .directory => s!"[Errno 21] Is a directory: {Text.quoted path}"
  | .notDirectory => s!"[Errno 20] Not a directory: {Text.quoted path}"
  | .nameTooLong => s!"[Errno 36] File name too long: {Text.quoted path}"
  | .zeroCharacter => "embedded null byte"

/-- The most bytes in one step of a path. -/
def stepLimit : Nat := 255

/-- The most bytes in a path. -/
def pathLimit : Nat := 4095

/-- Files by their paths in a directory, which may hold further directories. -/
structure Directory where
  files : List (String × String) := []

/-- The text of a file in a directory.  Paths that lead out of it end at directories. -/
def Directory.read (directory : Directory) (path : String) : Except FileFault String :=
  let steps := pathSteps path
  let below (entry : String × String) : Bool :=
    steps.isPrefixOf (pathSteps entry.1)
  let above (entry : String × String) : Bool :=
    (pathSteps entry.1).isPrefixOf steps
  if path.contains '\x00' then .error .zeroCharacter
  else if pathLimit < (plainPath path).utf8ByteSize then .error .nameTooLong
  else if steps.all (· = "..") then .error .directory
  else if pathRoot path ≠ "" then .error .missing
  else
    match directory.files.find? fun entry => pathSteps entry.1 = steps with
    | some entry => .ok entry.2
    | none =>
      if directory.files.any below then .error .directory
      else if directory.files.any above then .error .notDirectory
      else if steps.any fun step => stepLimit < step.utf8ByteSize then .error .nameTooLong
      else .error .missing

/-! ## Options in a file -/

/-- The report of one problem of a value. -/
def problemEntry (value : Json) (p : Options.Problem) : String :=
  let input := match value with
    | .object ms => (Json.member? ms p.option).getD value
    | _ => value
  s!"\n{p.option}\n  {p.fault.message} " ++
    s!"[type={p.fault.code}, input_value={input.describe}, input_type={input.kind}]"

/-- The report of all problems of a value. -/
def problemReport (value : Json) (problems : List Options.Problem) : String :=
  let noun := if problems.length = 1 then "error" else "errors"
  s!"{problems.length} validation {noun} for ParserOptions" ++
    String.join (problems.map (problemEntry value))

/-- Options from the text of a file, or why it has none. -/
def optionsOf (file : String) : Except String Options :=
  let text := Text.unifyLineBreaks file.toList
  match Options.load? text with
  | .ok options => .ok options
  | .error (.malformed failure) => .error (failure.message text)
  | .error (.violation value _) => .error ("; ".intercalate (Options.violationMessages value))
  | .error (.invalid value problems) => .error (problemReport value problems)

end Metrology.CommandLine
