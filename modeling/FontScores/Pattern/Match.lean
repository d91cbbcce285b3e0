import FontScores.Pattern.Basic

/-!
# Matching

A text of `n` characters has `n + 1` places, numbered from the left.  A set of places is a natural
number with a bit for each of them.  A pattern sends a set of places to the set of the places where
a match that starts at one of them can end; all matches are followed at once, so there is no
backtracking, and a repetition without an upper bound is complete after as many rounds as there are
places.

A pattern is found in a text if a match starts anywhere.
-/

namespace FontScores

/-- A set of places of a text. -/
abbrev Places := Nat

namespace Places

/-- The places just before a character that satisfies `p`. -/
def before (p : Char → Bool) : List Char → Places
  | [] => 0
  | c :: rest => (if p c then 1 else 0) + 2 * before p rest

/-- The places whose neighbours satisfy `p`; `previous` is the neighbour on the left of the text. -/
def between (p : Option Char → Option Char → Bool) : Option Char → List Char → Places
  | previous, [] => if p previous none then 1 else 0
  | previous, c :: rest =>
    (if p previous (some c) then 1 else 0) + 2 * between p (some c) rest

/-- The places that `step` leads to after exactly so many rounds. -/
def after (step : Places → Places) : Nat → Places → Places
  | 0, places => places
  | rounds + 1, places => after step rounds (step places)

/-- The places that `step` leads to after at most so many rounds. -/
def within (step : Places → Places) : Nat → Places → Places
  | 0, places => places
  | rounds + 1, places => within step rounds (places ||| step places)

def all (text : List Char) : Places := 1 <<< (text.length + 1) - 1

end Places

namespace Pattern

mutual

/-- The places where a match that starts at one of `starts` can end. -/
def ends (text : List Char) : Pattern → Places → Places
  | empty, starts => starts
  | one set, starts => (starts &&& Places.before set.contains text) <<< 1
  | anchor place, starts => starts &&& Places.between place.holds none text
  | group inner, starts => inner.ends text starts
  | sequence parts, starts => endsInTurn text parts starts
  | choice branches, starts => endsOfAny text branches starts
  | repeated inner least most, starts =>
    let reached := Places.after (inner.ends text) least starts
    let rounds := text.length + 1
    match most with
    | none => Places.within (inner.ends text) rounds reached
    | some most => Places.within (inner.ends text) (min (most - least) rounds) reached

def endsInTurn (text : List Char) : List Pattern → Places → Places
  | [], starts => starts
  | part :: others, starts => endsInTurn text others (part.ends text starts)

def endsOfAny (text : List Char) : List Pattern → Places → Places
  | [], _ => 0
  | branch :: others, starts => branch.ends text starts ||| endsOfAny text others starts

end

def isFoundIn (pattern : Pattern) (text : String) : Bool :=
  pattern.ends text.toList (Places.all text.toList) != 0

end Pattern

end FontScores
