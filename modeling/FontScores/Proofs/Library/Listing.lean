import Mathlib
import FontScores.Proofs.Library.Consistency

/-!
# Taking in taggings row by row

The rows of a tagging, taken in one after the other, have the same effect as the tagging added as a
whole: the first row starts it and the others lengthen it.  So a table that lists taggings adds each
of them, and every font receives, behind its own, those that are entered under its name.
-/

namespace FontScores

open ReferenceData (lastUnder?)

/-- Taggings for different slots: not of the same font for the same tag. -/
def Tagging.Apart (one other : Tagging) : Prop := one.font = other.font → one.tag ≠ other.tag

theorem Tagging.Apart.symm {one other : Tagging} (apart : one.Apart other) : other.Apart one :=
  fun same equal => apart same.symm equal.symm

theorem Font.replace_last {font : Font} {taggings : List Tagging} {old new : Tagging}
    (free : ∀ tagging ∈ taggings, tagging.tag ≠ old.tag) (same : new.tag = old.tag) :
    Font.replace { font with taggings := taggings ++ [old] } new =
      { font with taggings := taggings ++ [new] } := by
  have place : (taggings ++ [old]).findIdx (fun tagging => decide (tagging.tag = new.tag)) =
      taggings.length := by
    rw [List.findIdx_append, List.findIdx_eq_length_of_false fun tagging member => by
      simpa [same] using free tagging member]
    simp [same, List.findIdx_cons]
  simp only [replace, place]
  rw [List.set_append_right _ _ (Nat.le_refl _), Nat.sub_self, List.set_cons_zero]

namespace Library

variable {library after : Library}

/-! ## The rows of one tagging -/

theorem placed?_setFont {family : String} {position : Nat} {old : Font}
    (placed : library.placed? family = some (position, old)) (new : Font) :
    (library.setFont position new).placed? family = some (position, new) := by
  obtain ⟨indexed, found⟩ := placed?_eq_some_iff.mp placed
  have inside := (List.getElem?_eq_some_iff.mp found).1
  exact placed?_eq_some_iff.mpr ⟨indexed, by simp [setFont, inside]⟩

theorem setFont_setFont (position : Nat) (one other : Font) :
    (library.setFont position one).setFont position other = library.setFont position other := by
  simp [setFont]

/-- A row for a variable tagging that is its font's last lengthens it, or is refused. -/
theorem addAt?_last {tagging : VariableTagging} {family : String} {position : Nat} {font : Font}
    {taggings : List Tagging}
    (placed : library.placed? family = some (position,
      { font with taggings := taggings ++ [.varying tagging] }))
    (free : ∀ other ∈ taggings, other.tag ≠ tagging.tag) {location : Location}
    (fitting : font.fits location = true) (score : Single) :
    library.addAt? family tagging.tag location score =
      (tagging.push? location score).map fun longer =>
        library.setFont position { font with taggings := taggings ++ [.varying longer] } := by
  have held : Font.tagging? { font with taggings := taggings ++ [.varying tagging] } tagging.tag =
      some (.varying tagging) := by
    have earlier : taggings.find? (·.tag = tagging.tag) = none := by simpa using free
    rw [Font.tagging?, List.find?_append, earlier, Option.none_or]
    exact List.find?_cons_of_pos (decide_eq_true rfl)
  have fits : Font.fits { font with taggings := taggings ++ [.varying tagging] } location = true :=
    fitting
  have outcome : library.addAt family tagging.tag location score =
      ((tagging.push? location score).isSome, library.setFont position
        (Font.replace { font with taggings := taggings ++ [.varying tagging] }
          (.varying (tagging.push location score)))) := by
    simp [addAt, placed, fits, held]
  rw [addAt?, outcome, VariableTagging.push]
  cases pushed : tagging.push? location score with
  | none => rfl
  | some longer =>
    obtain ⟨_, rfl⟩ := VariableTagging.push?_eq_some_iff.mp pushed
    have replaced : Font.replace { font with taggings := taggings ++ [.varying tagging] }
        (.varying { tagging with entries := tagging.entries ++ [(location, score)] }) =
        { font with taggings := taggings ++
          [.varying { tagging with entries := tagging.entries ++ [(location, score)] }] } :=
      Font.replace_last free rfl
    exact congrArg (fun font => some (library.setFont position font)) replaced

/-- The rows of a variable tagging that is its font's last push their scores to it; as many of them
are taken in as there are scores more. -/
theorem addRecords_pushAll (tagging : VariableTagging) {family tag : String} {position : Nat}
    {font : Font} {taggings : List Tagging} (entries : List (Location × Single))
    (placed : library.placed? family = some (position,
      { font with taggings := taggings ++ [.varying tagging] }))
    (tagged : tagging.tag = tag) (free : ∀ other ∈ taggings, other.tag ≠ tag)
    (fitting : ∀ entry ∈ entries, font.fits entry.1 = true) :
    let taken := library.addRecords
      (entries.map fun entry => ⟨family, some entry.1, tag, entry.2⟩)
    tagging.entries.length + taken.1 = (tagging.pushAll entries).entries.length ∧
      taken.2 = library.setFont position
        { font with taggings := taggings ++ [.varying (tagging.pushAll entries)] } := by
  -- On the scores still to come; those that were taken stand in the tagging already.
  induction entries generalizing library tagging with
  | nil => exact ⟨rfl, (setFont_same placed).symm⟩
  | cons entry others ih =>
    obtain ⟨location, score⟩ := entry
    subst tagged
    have fits := fitting (location, score) (by simp)
    have first : library.addRecord? ⟨family, some location, tagging.tag, score⟩ = _ :=
      addAt?_last placed free fits score
    have rest := fun other member => fitting other (List.mem_cons_of_mem _ member)
    rw [VariableTagging.pushAll_cons]
    cases pushed : tagging.push? location score with
    | none =>
      -- The location has a score, so neither the row nor the push does anything.
      have same : tagging.push location score = tagging := by simp [VariableTagging.push, pushed]
      simp only [List.map_cons, addRecords_cons, first, pushed, Option.map_none, same]
      exact ih _ placed rfl rest
    | some longer =>
      have same : tagging.push location score = longer := by simp [VariableTagging.push, pushed]
      simp only [List.map_cons, addRecords_cons, first, pushed, Option.map_some, same]
      obtain ⟨_, rfl⟩ := VariableTagging.push?_eq_some_iff.mp pushed
      obtain ⟨count, after⟩ := ih { tagging with entries := tagging.entries ++ [(location, score)] }
        (placed?_setFont placed _) rfl rest
      rw [after, setFont_setFont]
      simp only [List.length_append, List.length_singleton] at count
      exact ⟨by omega, rfl⟩

/-- Rows for an empty slot have the effect of the tagging of their scores. -/
theorem addRecords_ofEntries {family tag : String} {position : Nat} {font : Font}
    {entries : List (Location × Single)}
    (nonempty : entries ≠ []) (placed : library.placed? family = some (position, font))
    (own : family = font.name) (known : library.registry.tags.contains tag = true)
    (free : font.tagging? tag = none) (fitting : ∀ entry ∈ entries, font.fits entry.1 = true) :
    library.addRecords (entries.map fun entry => ⟨family, some entry.1, tag, entry.2⟩) =
      ((VariableTagging.ofEntries family tag entries).entries.length,
        library.setFont position { font with
          taggings := font.taggings ++ [.varying (.ofEntries family tag entries)] }) := by
  obtain ⟨⟨location, score⟩, others, rfl⟩ := List.exists_cons_of_ne_nil nonempty
  simp only [List.mem_cons, forall_eq_or_imp] at fitting
  have started : library.addRecord? ⟨family, some location, tag, score⟩ =
      some (library.setFont position { font with
        taggings := font.taggings ++ [oneLocation family tag location score] }) := by
    refine addAt?_eq_some_iff.mpr ⟨position, font, placed, fitting.1, .inr ⟨by simp [free], ?_⟩⟩
    refine add?_eq_some_iff.mpr ⟨position, font, placed, known, ?_, own, free, rfl⟩
    exact fun other member => List.mem_singleton.mp member ▸ fitting.1
  -- The first row starts the tagging, which the others find in its slot.
  have tagged : ((VariableTagging.empty family tag).push location score).tag = tag := rfl
  have one : ((VariableTagging.empty family tag).push location score).entries.length = 1 := rfl
  have whole : ((VariableTagging.empty family tag).push location score).pushAll others =
      .ofEntries family tag ((location, score) :: others) := rfl
  obtain ⟨count, after⟩ := addRecords_pushAll _ others (placed?_setFont placed _) tagged
    (Font.tagging?_eq_none_iff.mp free) fitting.2
  rw [whole] at count after
  rw [setFont_setFont] at after
  rw [List.map_cons, addRecords_cons, started]
  refine Prod.ext ?_ after
  simp only [oneLocation]
  omega

/-- The rows of a tagging have the effect of the tagging. -/
theorem addRecords_records {tagging : Tagging} (listed : tagging.records ≠ [])
    (separate : tagging.Separate) (added : library.add? tagging = some after) :
    library.addRecords tagging.records = (tagging.records.length, after) := by
  cases tagging with
  | fixed tagging =>
    have taken : library.addRecord? ⟨tagging.font, none, tagging.tag, tagging.score⟩ = some after :=
      added
    simp [Tagging.records, addRecords_cons, addRecords, taken]
  | varying tagging =>
    obtain ⟨family, tag, entries⟩ := tagging
    obtain ⟨position, font, placed, known, fitting, own, free, rfl⟩ := add?_eq_some_iff.mp added
    simp only [Tagging.font, Tagging.tag] at placed known own free
    have nonempty : entries ≠ [] := fun none => listed (by simp [Tagging.records, none])
    have whole : VariableTagging.ofEntries family tag entries = ⟨family, tag, entries⟩ :=
      VariableTagging.pushAll_of_separate (.empty family tag) separate
    have rows := addRecords_ofEntries nonempty placed own known free fun entry member =>
      fitting entry.1 (List.mem_map_of_mem member)
    rw [whole] at rows
    rw [Tagging.records, List.length_map]
    exact rows

/-! ## The rows of many taggings -/

theorem addRecords_le_length (library : Library) (records : List TaggingRecord) :
    (library.addRecords records).1 ≤ records.length := by
  induction records generalizing library with
  | nil => simp [addRecords]
  | cons record others ih =>
    rw [addRecords_cons, List.length_cons]
    split
    next after _ => exact Nat.succ_le_succ (ih after)
    · exact Nat.le_succ_of_le (ih library)

theorem addRecords_append (library : Library) (one other : List TaggingRecord) :
    library.addRecords (one ++ other) =
      ((library.addRecords one).1 + ((library.addRecords one).2.addRecords other).1,
        ((library.addRecords one).2.addRecords other).2) := by
  -- The library moves on with every row of the first list.
  induction one generalizing library with
  | nil => simp [addRecords]
  | cons record others ih =>
    rw [List.cons_append, addRecords_cons, addRecords_cons]
    split
    · simp [ih, Nat.add_right_comm]
    · exact ih library

/-- Adds taggings in turn; nothing if one of them is refused. -/
def addAll? (library : Library) (taggings : List Tagging) : Option Library :=
  taggings.foldlM add? library

/-- The rows of taggings that can all be added are all taken in. -/
theorem addRecords_flatMap {taggings : List Tagging}
    (listed : ∀ tagging ∈ taggings, tagging.records ≠ [])
    (separate : ∀ tagging ∈ taggings, tagging.Separate)
    (added : library.addAll? taggings = some after) :
    library.addRecords (taggings.flatMap Tagging.records) =
      ((taggings.flatMap Tagging.records).length, after) := by
  induction taggings generalizing library with
  | nil =>
    obtain rfl : library = after := by simpa [addAll?] using added
    rfl
  | cons tagging others ih =>
    simp only [addAll?, List.foldlM_cons, Option.bind_eq_bind, Option.bind_eq_some_iff] at added
    obtain ⟨next, first, later⟩ := added
    have rest := ih (fun other member => listed other (List.mem_cons_of_mem tagging member))
      (fun other member => separate other (List.mem_cons_of_mem tagging member)) later
    rw [List.flatMap_cons, addRecords_append,
      addRecords_records (listed tagging (by simp)) (separate tagging (by simp)) first, rest,
      List.length_append]

/-- Those of the taggings that go to the font at a position. -/
def received (positions : List (String × Nat)) (taggings : List Tagging) (position : Nat) :
    List Tagging :=
  taggings.filter fun tagging => lastUnder? positions tagging.font = some position

theorem received_cons_same {positions : List (String × Nat)} {tagging : Tagging} {position : Nat}
    (indexed : lastUnder? positions tagging.font = some position) (others : List Tagging) :
    received positions (tagging :: others) position =
      tagging :: received positions others position :=
  List.filter_cons_of_pos (decide_eq_true indexed)

theorem received_cons_other {positions : List (String × Nat)} {tagging : Tagging}
    {position place : Nat} (indexed : lastUnder? positions tagging.font = some position)
    (different : position ≠ place) (others : List Tagging) :
    received positions (tagging :: others) place = received positions others place :=
  List.filter_cons_of_neg (by simpa [indexed] using different)

/-- A tagging that can be added can still be added after one for another slot. -/
theorem isSome_add?_of_apart {one other : Tagging} (apart : one.Apart other)
    (first : library.add? one = some after) (second : (library.add? other).isSome = true) :
    (after.add? other).isSome = true := by
  obtain ⟨result, second⟩ := Option.isSome_iff_exists.mp second
  obtain ⟨position, font, placed, _, _, own, _, rfl⟩ := add?_eq_some_iff.mp first
  obtain ⟨place, target, found, known, fitting, owned, free, _⟩ := add?_eq_some_iff.mp second
  obtain ⟨indexed, stands⟩ := placed?_eq_some_iff.mp placed
  obtain ⟨entered, there⟩ := placed?_eq_some_iff.mp found
  -- The second tagging goes to the font that was changed, or to one that was left alone.
  by_cases same : position = place
  · subst same
    obtain rfl : font = target := Option.some.inj (stands.symm.trans there)
    have different : one.tag ≠ other.tag := apart (own.trans owned.symm)
    -- Their tags differ then, so the first one does not take the slot of the second.
    have vacant : Font.tagging? { font with taggings := font.taggings ++ [one] } other.tag =
        none := by
      rw [Font.tagging?_eq_none_iff] at free ⊢
      intro tagging member
      rcases List.mem_append.mp member with held | last
      · exact free tagging held
      · exact List.mem_singleton.mp last ▸ different
    have inside := (List.getElem?_eq_some_iff.mp there).1
    have moved : (library.withChange position
        { font with taggings := font.taggings ++ [one] } one).placed? other.font =
          some (position, { font with taggings := font.taggings ++ [one] }) :=
      placed?_eq_some_iff.mpr ⟨entered, by simp [withChange, setFont, inside]⟩
    exact Option.isSome_iff_exists.mpr
      ⟨_, add?_eq_some_iff.mpr ⟨_, _, moved, known, fitting, owned, vacant, rfl⟩⟩
  · have kept : (library.withChange position
        { font with taggings := font.taggings ++ [one] } one).placed? other.font =
          some (place, target) :=
      placed?_eq_some_iff.mpr ⟨entered, by simp [withChange, setFont, same, there]⟩
    exact Option.isSome_iff_exists.mpr
      ⟨_, add?_eq_some_iff.mpr ⟨_, _, kept, known, fitting, owned, free, rfl⟩⟩

/-- Taggings for different slots that could each be added can be added in turn, and every font
receives its own. -/
theorem addAll?_of_apart {taggings : List Tagging}
    (accepted : ∀ tagging ∈ taggings, (library.add? tagging).isSome = true)
    (apart : taggings.Pairwise Tagging.Apart) :
    ∃ after, library.addAll? taggings = some after ∧
      after.fonts = library.fonts.mapIdx fun position font =>
        { font with
          taggings := font.taggings ++ received library.positions taggings position } := by
  induction taggings generalizing library with
  | nil =>
    refine ⟨library, rfl, List.ext_getElem? fun place => ?_⟩
    simp [received]
  | cons tagging others ih =>
    obtain ⟨next, first⟩ := Option.isSome_iff_exists.mp (accepted tagging (by simp))
    obtain ⟨before, rest⟩ := List.pairwise_cons.mp apart
    -- The rest is still accepted by the library with the first tagging in it.
    have still : ∀ other ∈ others, (next.add? other).isSome = true := fun other member =>
      isSome_add?_of_apart (before other member) first
        (accepted other (List.mem_cons_of_mem tagging member))
    obtain ⟨after, later, fonts⟩ := ih still rest
    refine ⟨after, by simp [addAll?, first, ← later], ?_⟩
    obtain ⟨position, font, placed, _, _, _, _, rfl⟩ := add?_eq_some_iff.mp first
    obtain ⟨indexed, stands⟩ := placed?_eq_some_iff.mp placed
    rw [fonts]
    refine List.ext_getElem? fun place => ?_
    rw [List.getElem?_mapIdx, List.getElem?_mapIdx]
    change ((library.fonts.set position _)[place]?).map _ = _
    rw [List.getElem?_set]
    -- At its own position the first tagging arrives before the others; elsewhere it does not
    -- arrive.
    by_cases here : position = place
    · subst here
      have inside := (List.getElem?_eq_some_iff.mp stands).1
      rw [if_pos rfl, if_pos inside, stands]
      simp only [Option.map_some, received_cons_same indexed, List.append_assoc]
      rfl
    · rw [if_neg here]
      simp only [received_cons_other indexed here]
      rfl

end Library

end FontScores
