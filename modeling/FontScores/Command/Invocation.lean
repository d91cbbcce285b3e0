import FontScores.Command.Options
import FontScores.Number.Numeral
import FontScores.Similarity.Index

/-!
# Command lines

A command line names one of five commands, with its own options and operands.  Some options hold
for all commands and may stand before or after the command; after it they count more.  The directory
of the data files may also come from the environment.

Whatever is not exactly that is a usage error, without further distinction.
-/

namespace FontScores.Command

inductive ColorChoice where
  | auto
  | always
  | never
deriving DecidableEq, Repr

def ColorChoice.ofName? : String → Option ColorChoice
  | "auto" => some .auto
  | "always" => some .always
  | "never" => some .never
  | _ => none

/-- How warnings are written. -/
inductive LintFormat where
  | plain (color : ColorChoice)
  | json
  /-- JSON with one family to a line. -/
  | jsonLines
deriving DecidableEq, Repr

inductive Action where
  | lint (family : Option String) (format : LintFormat)
  | exemplars (tag : String) (json : Bool)
  | similar (family : String) (count : Nat) (json : Bool)
  | writeTable (output : Option String)
  | serve (address : String)
deriving DecidableEq, Repr

structure Invocation where
  directory : String
  /-- The tagging table, if it is not the one in the directory. -/
  taggings : Option String
  action : Action
deriving DecidableEq, Repr

def globalSwitches : List Switch :=
  [⟨"data", none, true⟩, ⟨"taggings", none, true⟩, ⟨"verbose", some 'v', false⟩]

def switches? : String → Option (List Switch)
  | "lint" => some
      [⟨"family", none, true⟩, ⟨"json", none, false⟩, ⟨"ndjson", none, false⟩,
        ⟨"color", none, true⟩]
  | "exemplars" => some [⟨"json", none, false⟩]
  | "similar" => some [⟨"count", some 'k', true⟩, ⟨"json", none, false⟩]
  | "export" => some [⟨"output", some 'o', true⟩]
  | "serve" => some [⟨"bind", none, true⟩]
  | _ => none

/-- A count: digits, with a plus sign before them at most, that fit a word of 64 bits. -/
def readCount? (text : String) : Option Nat := do
  let digits :=
    match text.toList with
    | '+' :: digits => digits
    | digits => digits
  let value ← Numeral.digits? digits
  if value < 0x10000000000000000 then return value else none

/-- A path that may be missing, but not empty. -/
def readPath? (path : Option String) : Option (Option String) :=
  if path = some "" then none else some path

/-- Where the service listens if nothing else is asked for. -/
def addressByDefault : String := "127.0.0.1:8765"

/-- What the command with this name is to do, from what was found behind the name. -/
def Action.ofFound? (name : String) (found : Found) : Option Action :=
  match name, found.operands with
  | "lint", [] => do
    let color ← ColorChoice.ofName? ((found.value? "color").getD "auto")
    let format ←
      match found.hasFlag "json", found.hasFlag "ndjson" with
      | true, true => none
      | true, false => some .json
      | false, true => some .jsonLines
      | false, false => some (.plain color)
    return .lint (found.value? "family") format
  | "exemplars", [tag] => some (.exemplars tag (found.hasFlag "json"))
  | "similar", [family] => do
    let count ←
      match found.value? "count" with
      | some written => readCount? written
      | none => some EmbeddingIndex.neighboursByDefault
    return .similar family count (found.hasFlag "json")
  | "export", [] => do return .writeTable (← readPath? (found.value? "output"))
  | "serve", [] => some (.serve ((found.value? "bind").getD addressByDefault))
  | _, _ => none

/-- The value of an option that may come from the environment as well.  An empty one there is an
error unless both places where the option can stand have it. -/
def withEnvironment (outer inner environment : Option String) : Option (Option String) :=
  match outer, inner with
  | some _, some inner => some (some inner)
  | outer, inner => do
    let environment ← readPath? environment
    return inner <|> outer <|> environment

/-- Reads a command line; nothing if it is a usage error. -/
def Invocation.read? (environment : Option String) (words : List String) : Option Invocation := do
  let (outer, rest) ← readLeading globalSwitches words Found.nothing
  match rest with
  | [] => none
  | name :: words =>
    let inner ← readAll (globalSwitches ++ (← switches? name)) words Found.nothing
    let action ← Action.ofFound? name inner
    let outerData ← readPath? (outer.value? "data")
    let innerData ← readPath? (inner.value? "data")
    let data ← withEnvironment outerData innerData environment
    let outerTaggings ← readPath? (outer.value? "taggings")
    let innerTaggings ← readPath? (inner.value? "taggings")
    return ⟨data.getD ".", innerTaggings <|> outerTaggings, action⟩

end FontScores.Command
