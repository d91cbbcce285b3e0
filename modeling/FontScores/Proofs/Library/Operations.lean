import Mathlib
import FontScores.Library.Import

/-!
# What an operation can do to a library

A session is a list of operations.  However many rows an operation brings in, and whether it is
accepted or refused, it acts on the library by a series of single edits: a tagging is appended to
its font, a score is added to a variable tagging, a tagging is taken out, or exemplars are
remembered.  `Font.Edited` and `Library.Edited` say once what an edit is, with all the checks that
came before it; `run_invariant` then reduces a fact about all sessions to a fact about one edit.

The predicate `source` holds of the taggings that are brought in.  A row with a location brings in
the tagging of that one location, whether it starts a tagging or lengthens one.
-/

namespace FontScores

open ReferenceData (lastUnder?)

/-- The tagging that a row stands for if its slot is empty. -/
def TaggingRecord.tagging (record : TaggingRecord) : Tagging :=
  match record.location with
  | none => .fixed ⟨record.family, record.tag, record.score⟩
  | some location => Library.oneLocation record.family record.tag location record.score

inductive Operation where
  | add (tagging : Tagging)
  | remove (family tag : String)
  | importRecord (record : TaggingRecord)
  | importTable (text : String)
  | exemplars (tag : String)

/-- The taggings that an operation tries to bring in. -/
def Operation.Brings : Operation → Tagging → Prop
  | add tagging, brought => brought = tagging
  | importRecord record, brought => brought = record.tagging
  | importTable text, brought => ∃ record ∈ Table.readTaggings text, brought = record.tagging
  | remove _ _, _ => False
  | exemplars _, _ => False

namespace Library

/-- The library after an operation. -/
def perform (library : Library) : Operation → Library
  | .add tagging => (library.add tagging).2
  | .remove family tag => (library.remove family tag).2
  | .importRecord record => (library.addRecord record).2
  | .importTable text => (library.importTable text).2
  | .exemplars tag => ((library.exemplars? tag).map Prod.snd).getD library

/-- The library after a session. -/
def run (library : Library) (operations : List Operation) : Library :=
  operations.foldl perform library

end Library

/-! ## Edits -/

/-- One edit of the font of `family`, and the tagging that it is about. -/
inductive Font.Edited (source : Tagging → Prop) (tags : TagCatalogue) (family : String)
    (font : Font) : Tagging → Font → Prop
  | append {tagging : Tagging} (given : source tagging) (asked : tagging.font = family)
      (own : tagging.font = font.name) (known : tags.contains tagging.tag = true)
      (fitting : ∀ location ∈ tagging.locations, font.fits location = true)
      (free : font.tagging? tagging.tag = none) :
      Edited source tags family font tagging { font with taggings := font.taggings ++ [tagging] }
  | extend {tagging : VariableTagging} {location : Location} {score : Single}
      (given : source (Library.oneLocation family tagging.tag location score))
      (fitting : font.fits location = true)
      (held : font.tagging? tagging.tag = some (.varying tagging))
      (absent : tagging.scoreAt? location = none) :
      Edited source tags family font (.varying tagging)
        (font.replace (.varying { tagging with entries := tagging.entries ++ [(location, score)] }))
  | takeOut {tagging : Tagging} (held : font.tagging? tagging.tag = some tagging) :
      Edited source tags family font tagging (font.remove tagging.tag)

/-- One edit of a library. -/
inductive Library.Edited (source : Tagging → Prop) (library : Library) : Library → Prop
  | font {family : String} {position : Nat} {before after : Font} {tagging : Tagging}
      (placed : library.placed? family = some (position, before))
      (edited : before.Edited source library.registry.tags family tagging after) :
      Edited source library (library.withChange position after tagging)
  | retrieve {tag : String} (known : library.registry.tags.contains tag = true) :
      Edited source library
        { library with
          memo := (library.memo.«recall» tag (Exemplars.select tag library.taggings)).2 }

/-! ## Which edit an accepted call makes -/

section Outcomes

variable {α : Type} {outcome : Bool × α} {after : α}

theorem done?_eq_some_iff : done? outcome = some after ↔ outcome = (true, after) := by
  obtain ⟨_ | _, _⟩ := outcome <;> simp [done?]

theorem isSome_done? : (done? outcome).isSome = outcome.1 := by
  obtain ⟨_ | _, _⟩ := outcome <;> rfl

theorem done?_of_done (done : outcome.1 = true) : done? outcome = some outcome.2 := if_pos done

/-- Where a refusal leaves everything as it was, what is left tells whether there was one. -/
theorem eq_of_done? {before : α} (kept : outcome.1 = false → outcome.2 = before) :
    outcome = ((done? outcome).map (true, ·)).getD (false, before) := by
  obtain ⟨done, after⟩ := outcome
  cases done with
  | true => rfl
  | false => exact congrArg (false, ·) (kept rfl)

end Outcomes

namespace Font

variable {font after : Font} {tag : String} {tagging : Tagging}

theorem tagging?_tag (held : font.tagging? tag = some tagging) : tagging.tag = tag := by
  simpa using List.find?_some held

theorem tagging?_mem (held : font.tagging? tag = some tagging) : tagging ∈ font.taggings :=
  List.mem_of_find?_eq_some held

theorem tagging?_eq_none_iff :
    font.tagging? tag = none ↔ ∀ tagging ∈ font.taggings, tagging.tag ≠ tag := by
  simp [tagging?]

theorem add?_eq_some_iff :
    font.add? tagging = some after ↔
      tagging.font = font.name ∧ font.tagging? tagging.tag = none ∧
        after = { font with taggings := font.taggings ++ [tagging] } := by
  simp only [add?, done?_eq_some_iff, take, hasTagging, Option.isSome_iff_ne_none]
  -- The two checks are made in this order, and nothing is added if one of them fails.
  by_cases own : tagging.font = font.name
  · by_cases free : font.tagging? tagging.tag = none <;> simp [own, free, eq_comm]
  · simp [own]

theorem take_of_refused (refused : (font.take tagging).1 = false) :
    (font.take tagging).2 = font := by
  simp only [take] at refused ⊢
  split
  · rfl
  next own =>
    split
    · rfl
    next free => simp [own, free] at refused

/-- The taggings around the one held for a tag, and what becomes of them when it is taken out or
another one is put in its place. -/
theorem split_of_held (held : font.tagging? tag = some tagging) :
    ∃ before after, font.taggings = before ++ tagging :: after ∧
      (font.remove tag).taggings = before ++ after ∧
      ∀ new : Tagging, new.tag = tag → (font.replace new).taggings = before ++ new :: after := by
  obtain ⟨matching, before, after, split, earlier⟩ := List.find?_eq_some_iff_append.mp held
  have passed : ∀ other ∈ before, ¬decide (other.tag = tag) = true := fun other member => by
    simpa using earlier other member
  have place : font.taggings.findIdx (fun other => decide (other.tag = tag)) = before.length := by
    rw [split, List.findIdx_append, List.findIdx_eq_length_of_false fun other member =>
      Bool.not_eq_true _ ▸ passed other member]
    simp [List.findIdx_cons, matching]
  -- Both operations look for the first tagging of the tag, which is the one that is held.
  refine ⟨before, after, split, ?_, fun new same => ?_⟩
  · simp only [remove, split]
    rw [List.eraseP_append_right _ passed, List.eraseP_cons_of_pos (by simpa using matching)]
  · simp only [replace, same, place]
    rw [split, List.set_append_right _ _ (Nat.le_refl _), Nat.sub_self, List.set_cons_zero]

/-- Nothing happens where nothing is found to take out. -/
theorem remove_of_free (free : font.tagging? tag = none) : font.remove tag = font := by
  rw [remove, List.eraseP_of_forall_not]
  simpa [tagging?] using free

/-- Nothing happens where a tagging takes its own place. -/
theorem replace_held (held : font.tagging? tag = some tagging) : font.replace tagging = font := by
  obtain ⟨before, after, split, _, replaced⟩ := split_of_held held
  have same : (font.replace tagging).taggings = font.taggings :=
    (replaced tagging (tagging?_tag held)).trans split.symm
  cases font
  simpa [replace] using same

end Font

theorem VariableTagging.push?_eq_some_iff {tagging longer : VariableTagging}
    {location : Location} {score : Single} :
    tagging.push? location score = some longer ↔ tagging.scoreAt? location = none ∧
      longer = { tagging with entries := tagging.entries ++ [(location, score)] } := by
  simp only [VariableTagging.push?]
  cases tagging.scoreAt? location <;> simp [eq_comm]

namespace Library

variable {library after : Library}

theorem placed?_eq_some_iff {family : String} {position : Nat} {font : Font} :
    library.placed? family = some (position, font) ↔
      lastUnder? library.positions family = some position ∧
        library.fonts[position]? = some font := by
  simp [placed?, Option.bind_eq_some_iff]

theorem setFont_same {family : String} {position : Nat} {font : Font}
    (placed : library.placed? family = some (position, font)) :
    library.setFont position font = library := by
  obtain ⟨inside, same⟩ := List.getElem?_eq_some_iff.mp (placed?_eq_some_iff.mp placed).2
  simp [setFont, ← same, List.set_getElem_self]

theorem add?_eq_some_iff {tagging : Tagging} :
    library.add? tagging = some after ↔
      ∃ position font, library.placed? tagging.font = some (position, font) ∧
        library.registry.tags.contains tagging.tag = true ∧
        (∀ location ∈ tagging.locations, font.fits location = true) ∧
        tagging.font = font.name ∧ font.tagging? tagging.tag = none ∧
        after = library.withChange position
          { font with taggings := font.taggings ++ [tagging] } tagging := by
  rw [add?, done?_eq_some_iff]
  constructor
  · -- Each check that fails ends the call, so an accepted tagging has passed all of them.
    intro added
    rw [add] at added
    split at added
    · cases added
    next position font placed =>
      split at added
      · cases added
      next known =>
        split at added
        · cases added
        next fitting =>
          obtain ⟨done, result⟩ := Prod.mk.inj added
          have longer : font.take tagging = (true, (font.take tagging).2) := Prod.ext done rfl
          rw [if_pos done] at result
          obtain ⟨own, free, grown⟩ :=
            Font.add?_eq_some_iff.mp (done?_eq_some_iff.mpr longer)
          exact ⟨position, font, placed, not_not.mp known,
            List.all_eq_true.mp (not_not.mp fitting), own, free, grown ▸ result.symm⟩
  · rintro ⟨position, font, placed, known, fitting, own, free, rfl⟩
    have longer := done?_eq_some_iff.mp (Font.add?_eq_some_iff.mpr ⟨own, free, rfl⟩)
    have fits : tagging.locations.all font.fits = true := List.all_eq_true.mpr fitting
    simp [add, placed, known, fits, longer]

/-- A tagging that is refused leaves no trace. -/
theorem add_of_refused {tagging : Tagging} (refused : (library.add tagging).1 = false) :
    (library.add tagging).2 = library := by
  simp only [add] at refused ⊢
  cases placed : library.placed? tagging.font with
  | none => rfl
  | some place =>
    simp only [placed] at refused
    dsimp only
    split
    · rfl
    next known =>
      rw [if_neg known] at refused
      split
      · rfl
      next fitting =>
        -- The font takes nothing, and it is put back where it was.
        rw [if_neg fitting] at refused
        have nothing : (place.2.take tagging).1 = false := refused
        rw [if_neg (by simp [nothing]), Font.take_of_refused nothing, setFont_same placed]

theorem remove?_eq_some_iff {family tag : String} {tagging : Tagging} :
    library.remove? family tag = some (tagging, after) ↔
      ∃ position font, library.placed? family = some (position, font) ∧
        font.tagging? tag = some tagging ∧
        after = library.withChange position (font.remove tag) tagging := by
  rw [remove?, remove]
  cases placed : library.placed? family with
  | none => simp
  | some place =>
    obtain ⟨position, font⟩ := place
    dsimp only
    cases held : font.tagging? tag with
    | none => simp [held]
    | some other =>
      simp only [Option.map_some, Option.some.injEq, Prod.mk.injEq, and_assoc]
      constructor
      · rintro ⟨rfl, rfl⟩
        exact ⟨position, font, rfl, rfl, held, rfl⟩
      · rintro ⟨_, _, rfl, rfl, also, rfl⟩
        obtain rfl := Option.some.inj (held.symm.trans also)
        exact ⟨rfl, rfl⟩

/-- A removal that finds nothing leaves no trace. -/
theorem remove_of_refused {family tag : String} (refused : (library.remove family tag).1 = none) :
    (library.remove family tag).2 = library := by
  simp only [remove] at refused ⊢
  cases placed : library.placed? family with
  | none => rfl
  | some place =>
    simp only [placed] at refused
    dsimp only
    cases held : place.2.tagging? tag with
    | none =>
      -- The font is put back as it was.
      dsimp only
      rw [Font.remove_of_free held, setFont_same placed]
    | some tagging => simp [held] at refused

theorem withChange_varying (library : Library) (position : Nat) (font : Font)
    (tagging : VariableTagging) :
    library.withChange position font (.varying tagging) = library.setFont position font :=
  rfl

/-- A score at a location is taken by the slot's variable tagging if there is one, and otherwise
as a tagging of its own. -/
theorem addAt?_eq_some_iff {family tag : String} {location : Location} {score : Single} :
    library.addAt? family tag location score = some after ↔
      ∃ position font, library.placed? family = some (position, font) ∧
        font.fits location = true ∧
        ((∃ tagging, font.tagging? tag = some (.varying tagging) ∧
            tagging.scoreAt? location = none ∧
            after = library.withChange position
              (font.replace (.varying
                { tagging with entries := tagging.entries ++ [(location, score)] }))
              (.varying tagging)) ∨
          ((∀ tagging, font.tagging? tag ≠ some (.varying tagging)) ∧
            library.add? (oneLocation family tag location score) = some after)) := by
  rw [addAt?, done?_eq_some_iff]
  cases placed : library.placed? family with
  | none =>
    -- Without a font the score is refused like a tagging of its own.
    have refused : library.add (oneLocation family tag location score) = (false, library) := by
      have nowhere : library.placed? (oneLocation family tag location score).font = none := placed
      rw [add, nowhere]
    simp [addAt, placed, refused]
  | some place =>
    obtain ⟨position, font⟩ := place
    by_cases fitting : font.fits location = true
    · cases held : font.tagging? tag with
      | none => simp [addAt, placed, fitting, held, add?, done?_eq_some_iff]
      | some old =>
        cases old with
        | fixed old => simp [addAt, placed, fitting, held, add?, done?_eq_some_iff]
        | varying tagging =>
          have outcome : library.addAt family tag location score =
              ((tagging.push? location score).isSome, library.setFont position
                (font.replace (.varying (tagging.push location score)))) := by
            simp [addAt, placed, fitting, held]
          rw [outcome, VariableTagging.push, VariableTagging.push?]
          cases absent : tagging.scoreAt? location with
          | none =>
            have turned (longer : Library) : longer = after ↔ after = longer := eq_comm
            simp [fitting, held, absent, withChange_varying, turned]
          | some known => simp [fitting, held, absent]
    · simp [addAt, placed, fitting]

/-- A score that is refused leaves no trace. -/
theorem addAt_of_refused {family tag : String} {location : Location} {score : Single}
    (refused : (library.addAt family tag location score).1 = false) :
    (library.addAt family tag location score).2 = library := by
  unfold addAt at refused ⊢
  split
  next absent => exact add_of_refused (by simpa [absent] using refused)
  next position font placed =>
    simp only [placed] at refused
    split
    · rfl
    next fitting =>
      rw [if_neg fitting] at refused
      split
      next tagging held =>
        -- The tagging has a score there, and stays in its place.
        have known : tagging.push? location score = none := by simpa [held] using refused
        have same : tagging.push location score = tagging := by simp [VariableTagging.push, known]
        dsimp only
        rw [same, Font.replace_held held, setFont_same placed]
      next other =>
        refine add_of_refused ?_
        split at refused
        next tagging held => exact absurd held (other tagging)
        · exact refused

theorem addRecord_of_refused {record : TaggingRecord}
    (refused : (library.addRecord record).1 = false) : (library.addRecord record).2 = library := by
  obtain ⟨family, location?, tag, score⟩ := record
  cases location? with
  | none => exact add_of_refused refused
  | some location => exact addAt_of_refused refused

theorem add_eq (library : Library) (tagging : Tagging) :
    library.add tagging = ((library.add? tagging).map (true, ·)).getD (false, library) :=
  eq_of_done? add_of_refused

theorem addRecord_eq (library : Library) (record : TaggingRecord) :
    library.addRecord record = ((library.addRecord? record).map (true, ·)).getD (false, library) :=
  eq_of_done? addRecord_of_refused

theorem remove_eq (library : Library) (family tag : String) :
    library.remove family tag =
      ((library.remove? family tag).map (Prod.map some id)).getD (none, library) := by
  rw [remove?]
  cases found : (library.remove family tag).1 with
  | none => exact Prod.ext found (remove_of_refused found)
  | some tagging => exact Prod.ext found rfl

theorem addRecords_cons (library : Library) (record : TaggingRecord)
    (others : List TaggingRecord) :
    library.addRecords (record :: others) = match library.addRecord? record with
      | some after => ((after.addRecords others).1 + 1, (after.addRecords others).2)
      | none => library.addRecords others := by
  rw [addRecords, addRecord_eq]
  cases library.addRecord? record <;> rfl

/-! ## From edits to sessions -/

variable {source : Tagging → Prop}

theorem edited_of_add? {tagging : Tagging} (given : source tagging)
    (added : library.add? tagging = some after) : library.Edited source after := by
  obtain ⟨position, font, placed, known, fitting, own, free, rfl⟩ := add?_eq_some_iff.mp added
  exact .font placed (.append given rfl own known fitting free)

theorem edited_of_remove? {family tag : String} {tagging : Tagging}
    (removed : library.remove? family tag = some (tagging, after)) :
    library.Edited source after := by
  obtain ⟨position, font, placed, held, rfl⟩ := remove?_eq_some_iff.mp removed
  obtain rfl := Font.tagging?_tag held
  exact .font placed (.takeOut held)

theorem edited_of_addRecord? {record : TaggingRecord} (given : source record.tagging)
    (added : library.addRecord? record = some after) : library.Edited source after := by
  obtain ⟨family, location?, tag, score⟩ := record
  cases location? with
  | none => exact edited_of_add? given added
  | some location =>
    obtain ⟨position, font, placed, fitting, merged | ⟨_, started⟩⟩ :=
      addAt?_eq_some_iff.mp added
    -- The row lengthens the tagging in its slot, or it is added as a tagging of its own.
    · obtain ⟨tagging, held, absent, rfl⟩ := merged
      have same : tagging.tag = tag := Font.tagging?_tag held
      subst same
      exact .font placed (.extend given fitting held absent)
    · exact edited_of_add? given started

/-- What one edit keeps, a series of rows keeps. -/
theorem addRecords_invariant (source : Tagging → Prop) {P : Library → Prop}
    (kept : ∀ {before after : Library}, P before → before.Edited source after → P after)
    {records : List TaggingRecord} (given : ∀ record ∈ records, source record.tagging)
    (holds : P library) : P (library.addRecords records).2 := by
  -- The rows are taken in one after the other, so the library changes along the induction.
  induction records generalizing library with
  | nil => exact holds
  | cons record others ih =>
    have later := fun other member => given other (List.mem_cons_of_mem record member)
    rw [addRecords_cons]
    split
    next after added =>
      exact ih later (kept holds (edited_of_addRecord? (given record (by simp)) added))
    · exact ih later holds

/-- What one edit keeps, an operation keeps. -/
theorem perform_invariant (source : Tagging → Prop) {P : Library → Prop}
    (kept : ∀ {before after : Library}, P before → before.Edited source after → P after)
    {operation : Operation} (given : ∀ tagging, operation.Brings tagging → source tagging)
    (holds : P library) : P (library.perform operation) := by
  cases operation with
  | add tagging =>
    rw [perform, add_eq]
    cases added : library.add? tagging with
    | none => exact holds
    | some after => exact kept holds (edited_of_add? (given tagging rfl) added)
  | remove family tag =>
    rw [perform, remove_eq]
    cases removed : library.remove? family tag with
    | none => exact holds
    | some result => exact kept holds (edited_of_remove? removed)
  | importRecord record =>
    rw [perform, addRecord_eq]
    cases added : library.addRecord? record with
    | none => exact holds
    | some after => exact kept holds (edited_of_addRecord? (given _ rfl) added)
  | importTable text =>
    exact addRecords_invariant source kept
      (fun record member => given _ ⟨record, member, rfl⟩) holds
  | exemplars tag =>
    simp only [perform, exemplars?]
    split
    next known => exact kept holds (.retrieve known)
    · exact holds

/-- What one edit keeps, a session keeps. -/
theorem run_invariant (source : Tagging → Prop) {P : Library → Prop}
    (kept : ∀ {before after : Library}, P before → before.Edited source after → P after)
    {operations : List Operation}
    (given : ∀ operation ∈ operations, ∀ tagging, operation.Brings tagging → source tagging)
    (holds : P library) : P (library.run operations) := by
  -- The library is general: the rest of the session runs on what the first operation leaves.
  induction operations generalizing library with
  | nil => exact holds
  | cons operation others ih =>
    simp only [run, List.foldl_cons]
    exact ih (fun other member => given other (List.mem_cons_of_mem operation member))
      (perform_invariant source kept (given operation (by simp)) holds)

theorem registry_run (library : Library) (operations : List Operation) :
    (library.run operations).registry = library.registry :=
  run_invariant (fun _ => True) (P := fun after => after.registry = library.registry)
    (fun same edited => by cases edited <;> exact same) (fun _ _ _ _ => trivial) rfl

end Library

end FontScores
