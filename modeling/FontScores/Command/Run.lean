import FontScores.Command.Invocation
import FontScores.Command.Storage
import FontScores.Library.Import
import FontScores.Platform
import FontScores.Report.Encode

/-!
# Running commands

Every command starts from the library of the data directory: the registry of its five reference
files, and the taggings of its tagging table, if there is one.  A tagging table that was asked for
by its path has to be there.  What is left to the platform is chosen in `FontScores.Platform`.
-/

namespace FontScores.Command

/-- Why a command failed. -/
inductive Failure where
  | reference (directory : String) (cause : LoadError)
  | readTable (path : String) (cause : StorageFailure)
  | unknownFamily (name : String)
  | unknownTag (name : String)
  | createFile (path : String) (cause : StorageFailure)
  | listen (address reason : String)
deriving DecidableEq, Repr

/-- The failure and its causes, the nearest first. -/
def Failure.chain : Failure → List String
  | reference directory cause =>
    ("loading reference data from " ++ directory) :: cause.message :: cause.causes
  | readTable path cause => ["reading " ++ path, cause.message]
  | unknownFamily name => ["unknown family: " ++ name]
  | unknownTag name => ["unknown tag: " ++ name]
  | createFile path cause => ["creating " ++ path, cause.message]
  | listen address reason => ["binding HTTP server to " ++ address, reason]

def Failure.message (failure : Failure) : String :=
  "error: " ++ String.intercalate ": " failure.chain

/-- How a command ends. -/
inductive Outcome where
  /-- With this text on the standard output. -/
  | done (output : String)
  | failed (failure : Failure)
  | usageError
  /-- Not at all: the library is to be served at the address. -/
  | serving (library : Library) (address : String)

def inDirectory (directory file : String) : String :=
  if directory.endsWith "/" then directory ++ file else directory ++ "/" ++ file

section Loading

variable {m : Type → Type} [Monad m] [Storage m]

def readIn (directory file : String) : m (Except ReadFailure String) := do
  let path := inDirectory directory file
  match ← Storage.read path with
  | .ok text => return .ok text
  | .error failure => return .error ⟨"reading " ++ path, [failure.message]⟩

def readTable (path : String) : ExceptT Failure m String := do
  match ← (Storage.read path : m _) with
  | .ok text => return text
  | .error failure => throw (.readTable path failure)

/-- The text of the tagging table, if there is one. -/
def tableText (invocation : Invocation) : ExceptT Failure m (Option String) := do
  match invocation.taggings with
  | some path => return some (← readTable path)
  | none =>
    let path := inDirectory invocation.directory DataFiles.usual.taggings
    if ← (Storage.exists? path : m Bool) then return some (← readTable path)
    else return none

def loadLibrary (invocation : Invocation) : ExceptT Failure m Library := do
  match ← (Registry.load (readIn invocation.directory) DataFiles.usual : m _) with
  | .error cause => throw (.reference invocation.directory cause)
  | .ok registry =>
    let library := Library.ofRegistry registry
    match ← tableText invocation with
    | none => return library
    | some text => return (library.importTable text).2

end Loading

/-! ### Output -/

/-- The number of the terminal's colour for a severity: red, yellow or cyan. -/
def colorCode : Severity → String
  | .error => "31"
  | .fail => "31"
  | .warn => "33"
  | .info => "36"

def padRight (width : Nat) (text : String) : String :=
  text ++ String.ofList (List.replicate (width - text.length) ' ')

def padLeft (width : Nat) (text : String) : String :=
  String.ofList (List.replicate (width - text.length) ' ') ++ text

/-- A severity in a column of its own, in colour if that is wanted. -/
def severityColumn (colored : Bool) (severity : Severity) : String :=
  let text := padRight 5 severity.name
  if colored then "\x1b[" ++ colorCode severity ++ "m" ++ text ++ "\x1b[0m" else text

/-- The families with their warnings, a line for every warning. -/
def plainReport (colored : Bool) (reports : List (String × List LintWarning)) : String :=
  String.join (reports.flatMap fun (family, warnings) =>
    warnings.map fun warning =>
      family ++ "  " ++ severityColumn colored warning.severity ++ "  " ++ warning.description ++
        "\n")

/-- Exemplars of one kind, a line for each. -/
def bucketLines (bucket : String) (taggings : List StaticTagging) : List String :=
  taggings.map fun tagging =>
    padRight 6 bucket ++ "  " ++ padLeft 5 tagging.score.text ++ "  " ++ tagging.font ++ "\n"

def plainExemplars (exemplars : Exemplars) : String :=
  String.join (bucketLines "high" exemplars.high ++ bucketLines "low" exemplars.low ++
    bucketLines "medium" exemplars.medium)

/-- Warnings in the format asked for; the standard output counts as no terminal. -/
def lintReport (format : LintFormat) (reports : List (String × List LintWarning)) : String :=
  let values := reports.map fun (family, warnings) => warningsToJson family warnings
  match format with
  | .plain color => plainReport (color = .always) reports
  | .json => (Json.Value.array values).prettyText
  | .jsonLines => Json.linesOf values

/-- The families to report on, with their warnings. -/
def lintReports (library : Library) :
    Option String → Except Failure (List (String × List LintWarning))
  | none => .ok library.lintAll
  | some family =>
    match library.lint? family with
    | some warnings => .ok [(family, warnings)]
    | none => .error (.unknownFamily family)

def similarReport (json : Bool) (families : List String) : String :=
  if json then (Json.Value.array (families.map .text)).prettyText
  else String.join (families.map (· ++ "\n"))

def tableReport (library : Library) : String :=
  let text := library.exportTable
  if text = "" then "" else text ++ "\n"

/-! ### Addresses -/

/-- A port: digits, with a plus sign before them at most, that fit 16 bits. -/
def isPort (text : String) : Bool := (readCount? text).any (· < 0x10000)

/-- What is wrong with an address to listen on, if it is no host and port. -/
def addressFault? (address : String) : Option String :=
  match Text.cutLast ':' address.toList with
  | none => some "invalid socket address"
  | some (_, port) =>
    if isPort (String.ofList port) then none else some "invalid port value"

/-! ### Commands -/

/-- What an action says about a library, as far as no file is written for it. -/
def answer (library : Library) : Action → Except Failure Outcome
  | .lint family format => do
    return .done (lintReport format (← lintReports library family))
  | .exemplars tag json =>
    match library.exemplars? tag with
    | none => .error (.unknownTag tag)
    | some (exemplars, _) =>
      return .done (if json then exemplars.toJson.prettyText else plainExemplars exemplars)
  | .similar family count json =>
    return .done (similarReport json (library.similar family count))
  | .writeTable _ => return .done (tableReport library)
  | .serve address =>
    match addressFault? address with
    | some reason => .error (.listen address reason)
    | none => return .serving library address

section Running

variable {m : Type → Type} [Monad m] [Storage m]

def writeFile (path text : String) : ExceptT Failure m Outcome := do
  match ← (Storage.write path text : m _) with
  | .ok () => return .done ""
  | .error failure => throw (.createFile path failure)

def Invocation.run (invocation : Invocation) : m Outcome := do
  let result : Except Failure Outcome ← ExceptT.run (do
    let library ← loadLibrary invocation
    match invocation.action with
    | .writeTable (some path) => writeFile path (tableReport library)
    | action => ExceptT.mk (pure (answer library action)))
  match result with
  | .ok outcome => return outcome
  | .error failure => return .failed failure

def run (environment : Option String) (words : List String) : m Outcome :=
  match Invocation.read? environment words with
  | some invocation => invocation.run
  | none => return .usageError

end Running

end FontScores.Command
