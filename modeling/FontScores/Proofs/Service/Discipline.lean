import Mathlib
import FontScores.Platform
import FontScores.Proofs.Json.Reading
import FontScores.Proofs.Library.Slots
import FontScores.Proofs.Service.Steps

/-!
# What the answers say about a slot

The answers alone tell what is in the slot of a family for a tag: what was added since its tagging
was last taken out.  That is nothing, or one score for the whole font, or scores at different
locations.  So a removal succeeds exactly if something was added since the last one that did, and
what is added between two removals follows the same rule.

Requests for other slots, and requests that are refused, make no difference to this, so it holds
however the requests of many clients come one after the other.
-/

namespace FontScores

/-- Exemplars are not kept in slots. -/
theorem Library.Unchanged.slot?_eq {library after : Library} (unchanged : library.Unchanged after)
    (family tag : String) : after.slot? family tag = library.slot? family tag := by
  obtain ⟨memo, rfl⟩ := unchanged.exists_memo
  rfl

namespace Service

/-! ## Reading a log -/

/-- The location with which the request added something to the slot, if it did; that of a score for
the whole font is nothing. -/
def added? (family tag : String) (exchange : Request × Response) : Option (Option Location) :=
  match exchange.1.addition? with
  | some body =>
    if body.family = family ∧ body.tag = tag ∧ exchange.2 = .changed true then
      (location? body.location).toOption
    else none
  | none => none

/-- The request is to take out what is in the slot. -/
def AsksFor (family tag : String) (request : Request) : Prop :=
  request.removal? = some ⟨family, tag⟩

/-- The request took out what was in the slot. -/
def TookOut (family tag : String) (exchange : Request × Response) : Prop :=
  AsksFor family tag exchange.1 ∧ exchange.2 = .changed true

/-- The locations with which a slot may be filled before it is emptied again. -/
inductive Disciplined : List (Option Location) → Prop
  | nothing : Disciplined []
  | whole : Disciplined [none]
  | located {locations : List Location} (several : locations ≠ [])
      (different : locations.Pairwise fun one other => (one == other) = false) :
      Disciplined (locations.map some)

/-- A part of such a list from some place on is such a list. -/
theorem Disciplined.suffix {front back : List (Option Location)}
    (disciplined : Disciplined (front ++ back)) : Disciplined back := by
  generalize whole : front ++ back = adds at disciplined
  cases disciplined with
  | nothing => exact (List.append_eq_nil_iff.mp whole).2 ▸ .nothing
  | whole =>
    rcases List.append_eq_singleton_iff.mp whole with ⟨rfl, rfl⟩ | ⟨rfl, rfl⟩
    · exact .whole
    · exact .nothing
  | located several different =>
    obtain ⟨first, second, rfl, rfl, rfl⟩ := List.append_eq_map_iff.mp whole
    by_cases empty : second = []
    · exact empty ▸ .nothing
    · exact .located empty (List.pairwise_append.mp different).2.1

/-! ## What is in the slot -/

/-- The slot holds what was added with these locations. -/
inductive Tells : List (Option Location) → Option Tagging → Prop
  | vacant : Tells [] none
  | whole (tagging : StaticTagging) : Tells [none] (some (.fixed tagging))
  | parts {tagging : VariableTagging} (several : tagging.entries ≠ [])
      (separate : (Tagging.varying tagging).Separate) :
      Tells ((Tagging.varying tagging).locations.map some) (some (.varying tagging))

variable {adds : List (Option Location)} {slot : Option Tagging}

theorem Tells.disciplined (tells : Tells adds slot) : Disciplined adds := by
  cases tells with
  | vacant => exact .nothing
  | whole => exact .whole
  | parts several separate => exact .located (by simpa [Tagging.locations] using several) separate

theorem Tells.eq_nil_iff (tells : Tells adds slot) : adds = [] ↔ slot = none := by
  cases tells with
  | vacant => simp
  | whole => simp
  | parts several => simpa [Tagging.locations] using several

/-- What a row does to the slot is told by its location. -/
theorem Tells.filled {record : TaggingRecord} {new : Tagging} (tells : Tells adds slot)
    (filled : Library.Filled record slot new) : Tells (adds ++ [record.location]) (some new) := by
  cases filled with
  | started =>
    -- The slot was empty, so nothing was added to it before.
    obtain rfl : adds = [] := tells.eq_nil_iff.mpr rfl
    obtain ⟨family, location?, tag, score⟩ := record
    cases location? with
    | none => exact .whole _
    | some location =>
      exact @Tells.parts ⟨family, tag, [(location, score)]⟩ (List.cons_ne_nil _ _)
        (List.pairwise_singleton _ _)
  | @lengthened tagging location located absent =>
    cases tells with
    | parts several separate =>
      have longer : (Tagging.varying
          { tagging with entries := tagging.entries ++ [(location, record.score)] }).Separate :=
        VariableTagging.separate_extend separate absent
      simpa [Tagging.locations, located] using Tells.parts (by simp) longer

/-! ## One request -/

variable {library : Library} {request : Request} {family tag : String}

theorem added?_eq_some_iff {response : Response} {location : Option Location} :
    added? family tag (request, response) = some location ↔
      ∃ body, request.addition? = some body ∧ body.family = family ∧ body.tag = tag ∧
        response = .changed true ∧ location? body.location = .ok location := by
  unfold added?
  split
  next body asked =>
    simp only [asked, Option.some.injEq, exists_eq_left']
    cases location? body.location <;> simp [Except.toOption, and_assoc]
  next missing => simp [missing]

section Runs

variable [UndefinedSign]

theorem sound_answer (sound : library.Sound) (request : Request) :
    (answer library request).2.Sound := by
  refine answer_invariant Tagging.Pushed (Library.sound_edited fun _ => Tagging.Pushed.separate)
    ?_ sound
  rintro _ ⟨body, location, _, _, rfl⟩
  exact (body.record location).pushed_tagging

/-- An accepted addition fills the slot that it names. -/
theorem tells_of_added (sound : library.Sound) {location : Option Location}
    (tells : Tells adds (library.slot? family tag))
    (added : added? family tag (request, (answer library request).1) = some location) :
    Tells (adds ++ [location]) ((answer library request).2.slot? family tag) := by
  have effect := effect_answer library request
  generalize answer library request = outcome at effect added ⊢
  obtain ⟨body, addition, rfl, rfl, changed, spelled⟩ := added?_eq_some_iff.mp added
  cases effect with
  | added asked located taken =>
    cases asked.symm.trans addition
    cases located.symm.trans spelled
    obtain ⟨⟨new, holds, filled⟩, _⟩ := sound.arranged.slot?_addRecord? taken
    exact holds ▸ tells.filled filled
  -- It is no removal, it was not refused, and it is not something else either.
  | removed asked => cases asked.symm.trans (Request.removal?_of_addition? addition)
  | refused unlike => exact absurd changed unlike
  | shown notAdded => cases notAdded.symm.trans addition

/-- Any other request leaves the slot alone, unless it took out what was in it. -/
theorem slot?_answer (sound : library.Sound)
    (notAdded : added? family tag (request, (answer library request).1) = none)
    (notTaken : ¬TookOut family tag (request, (answer library request).1)) :
    (answer library request).2.slot? family tag = library.slot? family tag := by
  have effect := effect_answer library request
  generalize answer library request = outcome at effect notAdded notTaken ⊢
  cases effect with
  | @added body location after asked located taken =>
    -- It was taken in, so it was for another slot.
    refine (sound.arranged.slot?_addRecord? taken).2 family tag ?_
    rintro rfl rfl
    cases notAdded.symm.trans (added?_eq_some_iff.mpr ⟨body, asked, rfl, rfl, rfl, located⟩)
  | removed asked taken =>
    refine (sound.arranged.slot?_remove? taken).2 family tag ?_
    rintro rfl rfl
    exact notTaken ⟨asked, rfl⟩
  | refused => rfl
  | shown _ _ unchanged => rw [unchanged.slot?_eq]

theorem changed_iff_of_asksFor (asked : AsksFor family tag request) :
    (answer library request).1 = .changed true ↔ library.slot? family tag ≠ none := by
  simp [answer_of_removal? asked, removeTagging, Library.fst_remove, Option.isSome_iff_ne_none]

theorem slot?_of_tookOut (sound : library.Sound)
    (taken : TookOut family tag (request, (answer library request).1)) :
    (answer library request).2.slot? family tag = none := by
  have effect := effect_answer library request
  generalize answer library request = outcome at effect taken ⊢
  obtain ⟨asking, changed⟩ := taken
  cases effect with
  | added asked => cases asking.symm.trans (Request.removal?_of_addition? asked)
  | removed asked removed =>
    cases asked.symm.trans asking
    exact (sound.arranged.slot?_remove? removed).1
  | refused unlike => exact absurd changed unlike
  | shown _ notRemoved => cases notRemoved.symm.trans asking

/-! ## Runs -/

theorem sound_answerAll (sound : library.Sound) (requests : List Request) :
    (answerAll library requests).2.Sound := by
  induction requests generalizing library with
  | nil => exact sound
  | cons request others ih => exact ih (sound_answer sound request)

/-- As long as nothing is taken out of the slot, what is added adds up. -/
theorem tells_answerAll (sound : library.Sound) {requests : List Request}
    (tells : Tells adds (library.slot? family tag))
    (kept : ∀ exchange ∈ log library requests, ¬TookOut family tag exchange) :
    Tells (adds ++ (log library requests).filterMap (added? family tag))
      ((answerAll library requests).2.slot? family tag) := by
  induction requests generalizing library adds with
  | nil => simpa [log, answerAll] using tells
  | cons request others ih =>
    rw [log_cons] at kept ⊢
    have later := fun exchange member => kept exchange (List.mem_cons_of_mem _ member)
    have next := sound_answer sound request
    cases added : added? family tag (request, (answer library request).1) with
    | some location =>
      have more := ih next (tells_of_added sound tells added) later
      rw [List.filterMap_cons_some added]
      simpa using more
    | none =>
      have same := slot?_answer sound added (kept _ (List.mem_cons_self ..))
      rw [List.filterMap_cons_none added]
      exact ih next (same ▸ tells) later

/-- Whatever was asked for, the slot holds what some additions put there. -/
theorem exists_tells_answerAll (sound : library.Sound) (requests : List Request)
    (tells : Tells adds (library.slot? family tag)) :
    ∃ adds, Tells adds ((answerAll library requests).2.slot? family tag) := by
  induction requests generalizing library adds with
  | nil => exact ⟨adds, tells⟩
  | cons request others ih =>
    have next := sound_answer sound request
    cases added : added? family tag (request, (answer library request).1) with
    | some location => exact ih next (tells_of_added sound tells added)
    | none =>
      by_cases taken : TookOut family tag (request, (answer library request).1)
      · -- The slot was emptied, so the list starts anew.
        have empty : Tells [] ((answer library request).2.slot? family tag) := by
          rw [slot?_of_tookOut sound taken]
          exact .vacant
        exact ih next empty
      · exact ih next ((slot?_answer sound added taken).symm ▸ tells)

/-- Something was added to the slot and nothing was taken out of it behind that. -/
def Standing (family tag : String) (log : List (Request × Response)) : Prop :=
  ∃ earlier add recent, log = earlier ++ add :: recent ∧ (added? family tag add).isSome = true ∧
    ∀ exchange ∈ recent, ¬TookOut family tag exchange

/-- The slot is filled exactly if something was added to it and not taken out again. -/
theorem slot?_ne_none_iff_standing (sound : library.Sound) (requests : List Request)
    (vacant : library.slot? family tag = none) :
    (answerAll library requests).2.slot? family tag ≠ none ↔
      Standing family tag (log library requests) := by
  constructor
  · -- From the last request backwards, to the one that filled the slot.
    intro filled
    induction requests using List.reverseRecOn with
    | nil => exact absurd vacant filled
    | append_singleton requests request ih =>
      have reached := sound_answerAll sound requests
      rw [answerAll_append, answerAll_cons] at filled
      rw [log_append, log_cons]
      generalize (answerAll library requests).2 = library at filled reached ih ⊢
      cases added : added? family tag (request, (answer library request).1) with
      | some location => exact ⟨_, _, [], rfl, by simp [added], nofun⟩
      | none =>
        by_cases taken : TookOut family tag (request, (answer library request).1)
        · exact absurd (slot?_of_tookOut reached taken) filled
        · obtain ⟨earlier, add, recent, split, added, kept⟩ :=
            ih (slot?_answer reached added taken ▸ filled)
          refine ⟨earlier, add, recent ++ [_], by rw [split, List.append_assoc]; rfl, added, ?_⟩
          intro exchange member
          rcases List.mem_append.mp member with before | last
          · exact kept exchange before
          · exact List.mem_singleton.mp last ▸ taken
  · rintro ⟨earlier, add, recent, split, added, kept⟩
    obtain ⟨_, behind⟩ := log_eq_append split
    have whole := (map_fst_log library requests).symm.trans (congrArg (List.map Prod.fst) split)
    have reached := sound_answerAll sound (earlier.map Prod.fst)
    have empty : Tells [] (library.slot? family tag) := by
      rw [vacant]
      exact .vacant
    obtain ⟨adds, tells⟩ := exists_tells_answerAll sound (earlier.map Prod.fst) empty
    rw [whole, List.map_append, answerAll_append]
    generalize (answerAll library (earlier.map Prod.fst)).2 = library at behind reached tells ⊢
    rw [List.map_cons, log_cons] at behind
    obtain ⟨answered, later⟩ := List.cons.inj behind
    -- The addition fills the slot, and the requests behind it can only add to it.
    obtain ⟨location, added⟩ := Option.isSome_iff_exists.mp added
    have filled := tells_of_added reached tells (answered ▸ added)
    have told := tells_answerAll (sound_answer reached add.1) filled (later ▸ kept)
    rw [List.map_cons, answerAll_cons, ne_eq, ← told.eq_nil_iff]
    simp

end Runs

/-! ## Whole runs -/

/-- However requests come in, starting from an empty library, a removal succeeds exactly if
something was added to its slot and not taken out again; and what is added to a slot while nothing
is taken out of it is nothing at all, one score for the whole font, or scores at locations of which
no two are the same. -/
theorem slot_discipline [UndefinedSign] (registry : Registry) (requests : List Request)
    (family tag : String) :
    (∀ before request response later,
      log (Library.ofRegistry registry) requests = before ++ (request, response) :: later →
      AsksFor family tag request →
      (response = .changed true ↔ Standing family tag before)) ∧
    (∀ before between later,
      log (Library.ofRegistry registry) requests = before ++ between ++ later →
      (∀ exchange ∈ between, ¬TookOut family tag exchange) →
      Disciplined (between.filterMap (added? family tag))) := by
  have sound := Library.sound_ofRegistry registry
  have vacant := Library.slot?_ofRegistry registry family tag
  constructor
  · intro before request response later split asked
    obtain ⟨first, behind⟩ := log_eq_append split
    rw [List.map_cons, log_cons] at behind
    obtain ⟨answered, _⟩ := List.cons.inj behind
    have same : response = (answer _ request).1 := (Prod.mk.inj answered).2
    rw [same, changed_iff_of_asksFor asked, slot?_ne_none_iff_standing sound _ vacant, ← first]
  · intro before between later split kept
    rw [List.append_assoc] at split
    obtain ⟨_, behind⟩ := log_eq_append split
    obtain ⟨middle, _⟩ := log_eq_append behind.symm
    have reached := sound_answerAll sound (before.map Prod.fst)
    have empty : Tells [] ((Library.ofRegistry registry).slot? family tag) := by
      rw [vacant]
      exact .vacant
    obtain ⟨adds, tells⟩ := exists_tells_answerAll sound (before.map Prod.fst) empty
    -- What was added earlier may still be there, and what was added between comes behind it.
    have told := tells_answerAll reached tells (middle ▸ kept)
    rw [← middle] at told
    exact told.disciplined.suffix

/-- A score is added, taken out and asked for once more. -/
theorem slot_discipline_of_loud :
    let registry : Registry := ⟨
      TagCatalogue.empty.register (TagDefinition.named "/Expressive/Loud"),
      [.untagged "Roboto" []], RuleTable.ofRows [], EmbeddingIndex.empty⟩
    let adding : Request := ⟨"POST", "/taggings/add", some "application/json",
      "\x7b\"family\":\"Roboto\",\"tag\":\"/Expressive/Loud\",\"score\":95\x7d"⟩
    let removing : Request := ⟨"POST", "/taggings/remove", some "application/json",
      "\x7b\"family\":\"Roboto\",\"tag\":\"/Expressive/Loud\"\x7d"⟩
    log (Library.ofRegistry registry) [adding, removing, removing] =
        [(adding, .changed true), (removing, .changed true), (removing, .changed false)] ∧
      AsksFor "Roboto" "/Expressive/Loud" removing ∧
      Standing "Roboto" "/Expressive/Loud" [(adding, .changed true)] ∧
      (∀ exchange ∈ [(adding, Response.changed true)],
        ¬TookOut "Roboto" "/Expressive/Loud" exchange) ∧
      Disciplined ([(adding, Response.changed true)].filterMap
        (added? "Roboto" "/Expressive/Loud")) := by
  intro registry adding removing
  have asked : adding.addition? =
      some ⟨"Roboto", "/Expressive/Loud", Binary.ofNat _ false 95, none⟩ := by
    have body : Json.Document.ofText adding.body = ⟨.object
        [(some "family", .text (some "Roboto")), (some "tag", .text (some "/Expressive/Loud")),
          (some "score", .number (some (.natural 95)))], false⟩ := by
      dsimp only [adding]
      refine Json.ofText_eq (Json.gives_object rfl (by decide) ?_)
      refine Json.gives_members rfl rfl rfl (Json.gives_text rfl rfl) (.inr ⟨_, rfl, ?_⟩)
      refine Json.gives_members rfl rfl rfl (Json.gives_text rfl rfl) (.inr ⟨_, rfl, ?_⟩)
      exact Json.gives_members rfl rfl rfl (Json.gives_numeral rfl rfl rfl rfl) (.inl ⟨rfl, rfl⟩)
    exact Request.body?_eq_some_iff.mpr ⟨by decide, by decide +kernel, by rw [body]; rfl⟩
  have asksFor : AsksFor "Roboto" "/Expressive/Loud" removing := by
    have body : Json.Document.ofText removing.body = ⟨.object
        [(some "family", .text (some "Roboto")), (some "tag", .text (some "/Expressive/Loud"))],
        false⟩ := by
      dsimp only [removing]
      refine Json.ofText_eq (Json.gives_object rfl (by decide) ?_)
      refine Json.gives_members rfl rfl rfl (Json.gives_text rfl rfl) (.inr ⟨_, rfl, ?_⟩)
      exact Json.gives_members rfl rfl rfl (Json.gives_text rfl rfl) (.inl ⟨rfl, rfl⟩)
    exact Request.body?_eq_some_iff.mpr ⟨by decide, by decide +kernel, by rw [body]; rfl⟩
  have whole : log (Library.ofRegistry registry) [adding, removing, removing] =
      [(adding, .changed true), (removing, .changed true), (removing, .changed false)] := by
    rw [log_cons, log_cons, log_cons, answer_of_addition? asked, answer_of_removal? asksFor,
      answer_of_removal? asksFor]
    rfl
  have kept : ∀ exchange ∈ [(adding, Response.changed true)],
      ¬TookOut "Roboto" "/Expressive/Loud" exchange := by
    intro exchange member taken
    obtain rfl := List.mem_singleton.mp member
    exact absurd (taken.1.symm.trans (Request.removal?_of_addition? asked)) nofun
  have discipline := slot_discipline registry [adding, removing, removing] "Roboto"
    "/Expressive/Loud"
  exact ⟨whole, asksFor, (discipline.1 [_] removing _ [_] whole asksFor).mp rfl, kept,
    discipline.2 [] [_] [_, _] whole kept⟩

end Service

end FontScores
