import FontScores.Tag.Definition

/-!
# The catalogue of tags

The catalogue holds one definition for every known tag, in the order of the names.  Entering a
definition replaces the one of the same name, so the catalogue depends only on the last definition
entered for each name.
-/

namespace FontScores

namespace TagCatalogue

/-- Enters a definition into a list in the order of the names. -/
def enter (tag : TagDefinition) : List TagDefinition → List TagDefinition
  | [] => [tag]
  | first :: rest =>
    if tag.name < first.name then tag :: first :: rest
    else if tag.name = first.name then tag :: rest
    else first :: enter tag rest

theorem mem_enter {tag other : TagDefinition} {tags : List TagDefinition}
    (member : other ∈ enter tag tags) : other = tag ∨ other ∈ tags := by
  induction tags with
  | nil => simpa [enter] using member
  | cons first rest ih =>
    simp only [enter] at member
    split at member
    · simpa using member
    · split at member
      · simp only [List.mem_cons] at member ⊢
        exact member.imp_right Or.inr
      · simp only [List.mem_cons] at member ⊢
        rcases member with same | deeper
        · exact Or.inr (Or.inl same)
        · exact (ih deeper).imp_right Or.inr

theorem ordered_enter (tag : TagDefinition) {tags : List TagDefinition}
    (ordered : tags.Pairwise (·.name < ·.name)) :
    (enter tag tags).Pairwise (·.name < ·.name) := by
  induction tags with
  | nil => simp [enter]
  | cons first rest ih =>
    rw [List.pairwise_cons] at ordered
    simp only [enter]
    split
    · next before =>
      refine List.pairwise_cons.2 ⟨fun other member => ?_, List.pairwise_cons.2 ordered⟩
      rcases List.mem_cons.1 member with same | deeper
      · exact same ▸ before
      · exact String.lt_trans before (ordered.1 other deeper)
    · next notBefore =>
      split
      · next same => exact List.pairwise_cons.2 ⟨fun other member =>
          same ▸ ordered.1 other member, ordered.2⟩
      · next different =>
        refine List.pairwise_cons.2 ⟨fun other member => ?_, ih ordered.2⟩
        rcases mem_enter member with same | deeper
        · subst same
          exact Std.lt_of_le_of_ne (String.not_lt.1 notBefore) (fun h => different h.symm)
        · exact ordered.1 other deeper

end TagCatalogue

structure TagCatalogue where
  definitions : List TagDefinition
  /-- The definitions stand in the order of their names, which are all different. -/
  ordered : definitions.Pairwise (·.name < ·.name)
deriving DecidableEq

namespace TagCatalogue

def empty : TagCatalogue := ⟨[], List.Pairwise.nil⟩

def size (catalogue : TagCatalogue) : Nat := catalogue.definitions.length

/-- Enters a definition, in the place of an earlier one of the same name. -/
def register (catalogue : TagCatalogue) (tag : TagDefinition) : TagCatalogue :=
  ⟨enter tag catalogue.definitions, ordered_enter tag catalogue.ordered⟩

def get? (catalogue : TagCatalogue) (name : String) : Option TagDefinition :=
  catalogue.definitions.find? (·.name = name)

def contains (catalogue : TagCatalogue) (name : String) : Bool := (catalogue.get? name).isSome

end TagCatalogue

end FontScores
