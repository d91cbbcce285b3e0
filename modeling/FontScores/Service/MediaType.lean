/-!
# Media types

A request says what its body is by a media type: two names with a slash between them, and
parameters.  A body is JSON if the type is `application` and the subtype is `json`, before or after
a plus sign.
-/

namespace FontScores.MediaType

def isNameChar (c : Char) : Bool :=
  c.isAlphanum || "!#$%&'*+-.^_`|~".toList.contains c

def isQuotedChar (c : Char) : Bool := 0x1f < c.toNat && c.toNat < 0x7f

/-- Where the reader of parameters is. -/
inductive State where
  /-- Before the name of a parameter. -/
  | beforeName
  | inName
  | beforeValue
  | inValue
  /-- Behind the opening quote of a value. -/
  | quoteOpened
  | inQuotes
  /-- Behind the closing quote of a value. -/
  | afterQuotes
  | failed
deriving DecidableEq, Repr

def step (state : State) (c : Char) : State :=
  match state with
  | .beforeName => if c = ' ' then .beforeName else if isNameChar c then .inName else .failed
  | .inName => if c = '=' then .beforeValue else if isNameChar c then .inName else .failed
  | .beforeValue => if c = '"' then .quoteOpened else if isNameChar c then .inValue else .failed
  | .inValue => if c = ';' then .beforeName else if isNameChar c then .inValue else .failed
  | .quoteOpened => if isQuotedChar c then .inQuotes else .failed
  | .inQuotes => if c = '"' then .afterQuotes else if isQuotedChar c then .inQuotes else .failed
  | .afterQuotes =>
    if c = ';' then .beforeName else if c = ' ' then .afterQuotes else .failed
  | .failed => .failed

def State.isFinal : State → Bool
  | .beforeName => true
  | .beforeValue => true
  | .inValue => true
  | .afterQuotes => true
  | _ => false

/-- Whether what follows a media type, with the character that ends the type, are parameters. -/
def areParameters : List Char → Bool
  | [] => true
  | c :: rest => (c == ';' || c == ' ') && (rest.foldl step .beforeName).isFinal

/-- The parts of a subtype before and after its last plus sign; nothing after if there is none. -/
def splitSuffix (subtype : List Char) : List Char × Option (List Char) :=
  let suffix := (subtype.reverse.takeWhile (· ≠ '+')).reverse
  let before := subtype.take (subtype.length - suffix.length - 1)
  if suffix.length = subtype.length ∨ before = [] then (subtype, none) else (before, some suffix)

/-- Whether a media type says that a body is JSON. -/
def isJson (mediaType : String) : Bool :=
  let text := mediaType.toList.map Char.toLower
  let type := text.takeWhile isNameChar
  match text.dropWhile isNameChar with
  | '/' :: rest =>
    let (subtype, suffix) := splitSuffix (rest.takeWhile isNameChar)
    let isSubtype := subtype == "json".toList || suffix == some "json".toList
    type == "application".toList && isSubtype && areParameters (rest.dropWhile isNameChar)
  | _ => false

end FontScores.MediaType
