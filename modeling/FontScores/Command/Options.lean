/-!
# Options on a command line

The words of a command line are options, values of options, and operands.  An option has a long
name after two dashes, and some have a letter after one.  Its value stands behind an equals sign,
right behind the letter, or in the next word, which then must not look like an option; letters of
options without value can share a word.  Two dashes alone end the options.

No option may be given twice.
-/

namespace FontScores.Command

/-- An option that a command knows. -/
structure Switch where
  name : String
  letter : Option Char
  takesValue : Bool
deriving DecidableEq, Repr

/-- What was found in some words: options without value, options with theirs, and operands. -/
structure Found where
  flags : List String
  values : List (String × String)
  operands : List String
deriving DecidableEq, Repr

namespace Found

def nothing : Found := ⟨[], [], []⟩

def hasFlag (found : Found) (name : String) : Bool := found.flags.contains name

def value? (found : Found) (name : String) : Option String :=
  (found.values.find? (·.1 = name)).map Prod.snd

/-- Adds an option without value; nothing if it is there already. -/
def addFlag (found : Found) (name : String) : Option Found :=
  if found.hasFlag name then none else some { found with flags := name :: found.flags }

/-- Adds an option with its value; nothing if it is there already. -/
def addValue (found : Found) (name value : String) : Option Found :=
  if (found.value? name).isSome then none
  else some { found with values := (name, value) :: found.values }

def addOperand (found : Found) (operand : String) : Found :=
  { found with operands := found.operands ++ [operand] }

end Found

inductive Shape where
  /-- Two dashes alone. -/
  | endOfOptions
  /-- A long name, and what stands behind an equals sign. -/
  | long (name : String) (value : Option String)
  /-- The letters after a single dash. -/
  | letters (letters : List Char)
  | operand
deriving DecidableEq, Repr

def Shape.ofWord (word : String) : Shape :=
  match word.toList with
  | ['-', '-'] => .endOfOptions
  | '-' :: '-' :: rest =>
    let name := String.ofList (rest.takeWhile (· ≠ '='))
    match rest.dropWhile (· ≠ '=') with
    | [] => .long name none
    | _ :: value => .long name (some (String.ofList value))
  | ['-'] => .operand
  | '-' :: cluster => .letters cluster
  | _ => .operand

/-- What the letters in one word amount to: what they add, and the option among them whose value is
still to come. -/
def readLetters (switches : List Switch) :
    List Char → Found → Option (Found × Option String)
  | [], found => some (found, none)
  | letter :: rest, found => do
    let switch ← switches.find? (·.letter = some letter)
    if switch.takesValue then
      match rest with
      | [] => return (found, some switch.name)
      | '=' :: value => return (← found.addValue switch.name (String.ofList value), none)
      | value => return (← found.addValue switch.name (String.ofList value), none)
    else readLetters switches rest (← found.addFlag switch.name)

/-- What one word amounts to, if it is an option. -/
def readOption (switches : List Switch) (shape : Shape) (found : Found) :
    Option (Found × Option String) :=
  match shape with
  | .long name attached => do
    let switch ← switches.find? (·.name = name)
    match switch.takesValue, attached with
    | false, none => return (← found.addFlag name, none)
    | false, some _ => none
    | true, none => return (found, some name)
    | true, some value => return (← found.addValue name value, none)
  | .letters cluster => readLetters switches cluster found
  | _ => none

/-- The options before the first operand, and the words from it on.  Nothing can follow two dashes
here, so they are refused. -/
def readLeading (switches : List Switch) : List String → Found → Option (Found × List String)
  | [], found => some (found, [])
  | word :: rest, found =>
    match Shape.ofWord word with
    | .operand => some (found, word :: rest)
    | .endOfOptions => none
    | shape => do
      let (found, awaiting) ← readOption switches shape found
      match awaiting, rest with
      | none, rest => readLeading switches rest found
      | some _, [] => none
      | some name, value :: rest =>
        if Shape.ofWord value = .operand then
          readLeading switches rest (← found.addValue name value)
        else none

def readAll (switches : List Switch) : List String → Found → Option Found
  | [], found => some found
  | word :: rest, found =>
    match Shape.ofWord word with
    | .operand => readAll switches rest (found.addOperand word)
    | .endOfOptions => some (rest.foldl Found.addOperand found)
    | shape => do
      let (found, awaiting) ← readOption switches shape found
      match awaiting, rest with
      | none, rest => readAll switches rest found
      | some _, [] => none
      | some name, value :: rest =>
        if Shape.ofWord value = .operand then
          readAll switches rest (← found.addValue name value)
        else none

end FontScores.Command
