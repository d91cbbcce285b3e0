import FontScores.Exemplar.Memo
import FontScores.Reference.Registry
import FontScores.Tagging.Font

/-!
# The library

A library holds the taggings of a session: for every family of a registry its font with the taggings
it has so far.  A tagging is taken only if its family, its tag and all axes of its locations are
known and the font has no tagging of that tag yet; otherwise nothing changes at all.

The exemplars of a tag are remembered until a static tagging of that tag comes or goes.  Taggings
that vary have no part in exemplars, so they leave the memory as it is.
-/

namespace FontScores

structure Library where
  registry : Registry
  fonts : List Font
  /-- Where the font of each family stands; of two entries for a name the later one counts. -/
  positions : List (String × Nat)
  memo : ExemplarMemo

namespace Library

open ReferenceData (lastUnder?)

def positionsOf (fonts : List Font) : List (String × Nat) :=
  fonts.zipIdx.map fun (font, position) => (font.name, position)

def ofRegistry (registry : Registry) : Library :=
  let fonts := registry.families.map fun font => Font.untagged font.name font.axes
  ⟨registry, fonts, positionsOf fonts, ExemplarMemo.empty⟩

/-- The font of a family, with its position. -/
def placed? (library : Library) (family : String) : Option (Nat × Font) := do
  let position ← lastUnder? library.positions family
  let font ← library.fonts[position]?
  return (position, font)

def font? (library : Library) (name : String) : Option Font :=
  (library.placed? name).map Prod.snd

def setFont (library : Library) (position : Nat) (font : Font) : Library :=
  { library with fonts := library.fonts.set position font }

def taggings (library : Library) : List Tagging := library.fonts.flatMap Font.taggings

def size (library : Library) : Nat := library.taggings.length

def hasTagging (library : Library) (family tag : String) : Bool :=
  (library.font? family).any (·.hasTagging tag)

/-- The tags in use, in order and without repetition. -/
def categories (library : Library) : List String :=
  ((library.taggings.map Tagging.tag).mergeSort fun one other => one ≤ other).eraseDups

/-- Forgets the exemplars of a tag when a tagging of it that counts for them comes or goes. -/
def forgetFor (memo : ExemplarMemo) (tagging : Tagging) : ExemplarMemo :=
  if tagging.isStatic then memo.forget tagging.tag else memo

/-- The library after a change to the font at a position that concerns one tagging. -/
def withChange (library : Library) (position : Nat) (font : Font) (concerned : Tagging) :
    Library :=
  { library.setFont position font with memo := forgetFor library.memo concerned }

/-- Adds a tagging, and says whether it was added. -/
def add (library : Library) (tagging : Tagging) : Bool × Library :=
  match library.placed? tagging.font with
  | none => (false, library)
  | some (position, font) =>
    if ¬library.registry.tags.contains tagging.tag then (false, library)
    else if ¬tagging.locations.all font.fits then (false, library)
    else
      let (added, font) := font.take tagging
      (added,
        if added then library.withChange position font tagging
        else library.setFont position font)

def add? (library : Library) (tagging : Tagging) : Option Library := done? (library.add tagging)

/-- Takes out the tagging that a family has for a tag, and returns it if there is one. -/
def remove (library : Library) (family tag : String) : Option Tagging × Library :=
  match library.placed? family with
  | none => (none, library)
  | some (position, font) =>
    match font.tagging? tag with
    | none => (none, library.setFont position (font.remove tag))
    | some tagging => (some tagging, library.withChange position (font.remove tag) tagging)

def remove? (library : Library) (family tag : String) : Option (Tagging × Library) :=
  (library.remove family tag).1.map (·, (library.remove family tag).2)

/-- The exemplars of a known tag, and the library that remembers them. -/
def exemplars? (library : Library) (tag : String) : Option (Exemplars × Library) :=
  if library.registry.tags.contains tag then
    let (exemplars, memo) := library.memo.«recall» tag (Exemplars.select tag library.taggings)
    some (exemplars, { library with memo })
  else none

def lint? (library : Library) (family : String) : Option (List LintWarning) :=
  (library.font? family).map library.registry.rules.lint

/-- The families that have warnings, in order, each with its warnings. -/
def lintAll (library : Library) : List (String × List LintWarning) :=
  (library.fonts.map fun font => (font.name, library.registry.rules.lint font)).filter
    fun (_, warnings) => warnings ≠ []

def similar [UndefinedSign] (library : Library) (family : String) (count : Nat) : List String :=
  library.registry.embeddings.similar family count

end Library

end FontScores
