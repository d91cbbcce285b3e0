import Mathlib
import FontScores.Platform
import FontScores.Proofs.Library.Exemplars
import FontScores.Proofs.Service.Steps

/-!
# Requests that cannot be seen

Two libraries are alike if they differ in nothing but the exemplars that they remember.  As long as
these are current, alike libraries answer every request alike, and stay alike.  A request that only
reads or was refused leaves the library alike, so whether it was made at all makes no difference to
any later answer.

Asking for exemplars is the one case in which something is written by a request that only reads.
-/

namespace FontScores

namespace Library

/-- The libraries differ in what they remember at most. -/
def Alike (one other : Library) : Prop := ∃ memo, other = { one with memo }

variable {one other after : Library}

theorem Alike.refl (library : Library) : library.Alike library := ⟨library.memo, rfl⟩

theorem Alike.symm (alike : one.Alike other) : other.Alike one := by
  obtain ⟨memo, rfl⟩ := alike
  exact ⟨one.memo, rfl⟩

theorem Alike.trans (alike : one.Alike other) (also : other.Alike after) : one.Alike after := by
  obtain ⟨memo, rfl⟩ := alike
  obtain ⟨memo, rfl⟩ := also
  exact ⟨memo, rfl⟩

theorem Unchanged.alike (unchanged : one.Unchanged after) : one.Alike after :=
  unchanged.exists_memo

/-! ## Alike libraries change alike -/

theorem Alike.add? {tagging : Tagging} (alike : one.Alike other)
    (added : one.add? tagging = some after) :
    ∃ same, other.add? tagging = some same ∧ after.Alike same := by
  obtain ⟨memo, rfl⟩ := alike
  obtain ⟨position, font, placed, known, fitting, own, free, rfl⟩ := add?_eq_some_iff.mp added
  exact ⟨_, add?_eq_some_iff.mpr ⟨position, font, placed, known, fitting, own, free, rfl⟩, _, rfl⟩

theorem Alike.addRecord? {record : TaggingRecord} (alike : one.Alike other)
    (added : one.addRecord? record = some after) :
    ∃ same, other.addRecord? record = some same ∧ after.Alike same := by
  obtain ⟨family, location?, tag, score⟩ := record
  cases location? with
  | none => exact alike.add? added
  | some location =>
    obtain ⟨position, font, placed, fitting, merged | ⟨apart, started⟩⟩ :=
      addAt?_eq_some_iff.mp added
    · obtain ⟨tagging, held, absent, rfl⟩ := merged
      obtain ⟨memo, rfl⟩ := alike
      refine ⟨_, addAt?_eq_some_iff.mpr ⟨position, font, placed, fitting, .inl ⟨tagging, held,
        absent, rfl⟩⟩, _, rfl⟩
    · obtain ⟨same, taken, still⟩ := alike.add? started
      obtain ⟨memo, rfl⟩ := alike
      exact ⟨same, addAt?_eq_some_iff.mpr ⟨position, font, placed, fitting, .inr ⟨apart, taken⟩⟩,
        still⟩

theorem Alike.remove? {family tag : String} {tagging : Tagging} (alike : one.Alike other)
    (removed : one.remove? family tag = some (tagging, after)) :
    ∃ same, other.remove? family tag = some (tagging, same) ∧ after.Alike same := by
  obtain ⟨memo, rfl⟩ := alike
  obtain ⟨position, font, placed, held, rfl⟩ := remove?_eq_some_iff.mp removed
  exact ⟨_, remove?_eq_some_iff.mpr ⟨position, font, placed, held, rfl⟩, _, rfl⟩

/-- The exemplars shown are the same, remembered or not. -/
theorem Alike.exemplars? {tag : String} {exemplars : Exemplars} (alike : one.Alike other)
    (current : one.MemoCurrent) (also : other.MemoCurrent)
    (shown : one.exemplars? tag = some (exemplars, after)) :
    ∃ same, other.exemplars? tag = some (exemplars, same) ∧ after.Alike same := by
  have known : one.registry.tags.contains tag = true := by
    by_contra unknown
    simp [Library.exemplars?, unknown] at shown
  have first := exemplars?_of_memoCurrent current known
  rw [shown] at first
  have remembering : other.Alike after :=
    alike.symm.trans (Unchanged.alike (.remembering shown))
  obtain ⟨memo, rfl⟩ := alike
  -- Both answers are what would be picked from the taggings, and these are the same.
  obtain ⟨⟨answered, same⟩, found, picked⟩ :=
    Option.map_eq_some_iff.mp (exemplars?_of_memoCurrent also known)
  obtain rfl : answered = exemplars := picked.trans (Option.some.inj first).symm
  exact ⟨same, found, remembering.symm.trans (Unchanged.alike (.remembering found))⟩

end Library

namespace Service

variable {one other : Library}

/-- The answers are the same and leave alike libraries. -/
def Agree (first second : Answer) : Prop := first.1 = second.1 ∧ first.2.Alike second.2

theorem agree_withBody {α : Type} {request : Request} {decoder : Json.Decoder α}
    {handler similarly : α → Answer} (alike : one.Alike other)
    (handled : ∀ body, Agree (handler body) (similarly body)) :
    Agree (withBody one request decoder handler) (withBody other request decoder similarly) := by
  unfold withBody
  split
  · split
    · split
      · exact handled _
      · exact ⟨rfl, alike⟩
    · exact ⟨rfl, alike⟩
  · exact ⟨rfl, alike⟩

theorem agree_lint (alike : one.Alike other) (body : Request.Lint) :
    Agree (lint one body) (lint other body) := by
  have same : one.lint? body.family = other.lint? body.family := by
    obtain ⟨memo, rfl⟩ := alike
    rfl
  simp only [lint, same]
  split <;> exact ⟨rfl, alike⟩

theorem agree_similar [UndefinedSign] (alike : one.Alike other) (body : Request.Similar) :
    Agree (similar one body) (similar other body) := by
  obtain ⟨memo, rfl⟩ := alike
  exact ⟨rfl, memo, rfl⟩

/-- What corresponds both ways is there on both sides or on neither. -/
theorem rel_of_both {α β : Type} {R : α → β → Prop} {first : Option α} {second : Option β}
    (forth : ∀ one, first = some one → ∃ other, second = some other ∧ R one other)
    (back : ∀ other, second = some other → ∃ one, first = some one) :
    Option.Rel R first second := by
  cases first with
  | some one =>
    obtain ⟨other, rfl, related⟩ := forth one rfl
    exact .some related
  | none =>
    cases second with
    | some other =>
      obtain ⟨one, impossible⟩ := back other rfl
      cases impossible
    | none => exact .none

theorem agree_exemplars (alike : one.Alike other) (current : one.MemoCurrent)
    (also : other.MemoCurrent) (body : Request.ShowExemplars) :
    Agree (exemplars one body) (exemplars other body) := by
  have both : Option.Rel (fun first second => first.1 = second.1 ∧ first.2.Alike second.2)
      (one.exemplars? body.tag) (other.exemplars? body.tag) := by
    refine rel_of_both ?_ ?_
    · rintro ⟨exemplars, after⟩ shown
      obtain ⟨same, found, still⟩ := alike.exemplars? current also shown
      exact ⟨_, found, rfl, still⟩
    · rintro ⟨exemplars, after⟩ shown
      obtain ⟨same, found, _⟩ := alike.symm.exemplars? also current shown
      exact ⟨_, found⟩
  simp only [exemplars]
  generalize one.exemplars? body.tag = first, other.exemplars? body.tag = second at both ⊢
  cases both with
  | some same =>
    exact ⟨congrArg (fun shown : Exemplars => Response.json shown.toJson) same.1, same.2⟩
  | none => exact ⟨rfl, alike⟩

theorem agree_addTagging (alike : one.Alike other) (body : Request.AddTagging) :
    Agree (addTagging one body) (addTagging other body) := by
  simp only [addTagging]
  split
  · exact ⟨rfl, alike⟩
  next location _ =>
    have both : Option.Rel Library.Alike
        (one.addRecord? ⟨body.family, location, body.tag, body.score⟩)
        (other.addRecord? ⟨body.family, location, body.tag, body.score⟩) := by
      refine rel_of_both (fun _ => alike.addRecord?) fun _ added => ?_
      obtain ⟨same, taken, _⟩ := alike.symm.addRecord? added
      exact ⟨same, taken⟩
    rw [Library.addRecord_eq one, Library.addRecord_eq other]
    generalize one.addRecord? _ = first, other.addRecord? _ = second at both ⊢
    cases both with
    | some still => exact ⟨rfl, still⟩
    | none => exact ⟨rfl, alike⟩

theorem agree_removeTagging (alike : one.Alike other) (body : Request.RemoveTagging) :
    Agree (removeTagging one body) (removeTagging other body) := by
  have both : Option.Rel (fun first second => first.2.Alike second.2)
      (one.remove? body.family body.tag) (other.remove? body.family body.tag) := by
    refine rel_of_both ?_ ?_
    · rintro ⟨tagging, after⟩ removed
      obtain ⟨same, taken, still⟩ := alike.remove? removed
      exact ⟨_, taken, still⟩
    · rintro ⟨tagging, after⟩ removed
      obtain ⟨same, taken, _⟩ := alike.symm.remove? removed
      exact ⟨_, taken⟩
  rw [removeTagging, removeTagging, Library.remove_eq one, Library.remove_eq other]
  generalize one.remove? body.family body.tag = first,
    other.remove? body.family body.tag = second at both ⊢
  cases both with
  | some still => exact ⟨rfl, still⟩
  | none => exact ⟨rfl, alike⟩

/-- Alike libraries that remember nothing out of date answer alike and stay alike. -/
theorem agree_answer [UndefinedSign] (alike : one.Alike other) (current : one.MemoCurrent)
    (also : other.MemoCurrent) (request : Request) :
    Agree (answer one request) (answer other request) := by
  have routed (route : Route) :
      Agree (answerRoute one request route) (answerRoute other request route) := by
    cases route with
    | health => exact ⟨rfl, alike⟩
    | exportTaggings =>
      obtain ⟨memo, rfl⟩ := alike
      exact ⟨rfl, memo, rfl⟩
    | lint => exact agree_withBody alike (agree_lint alike)
    | similar => exact agree_withBody alike (agree_similar alike)
    | exemplars => exact agree_withBody alike (agree_exemplars alike current also)
    | addTagging => exact agree_withBody alike (agree_addTagging alike)
    | removeTagging => exact agree_withBody alike (agree_removeTagging alike)
  unfold answer
  split
  · exact ⟨rfl, alike⟩
  next route _ =>
    repeat' split
    all_goals first | exact routed route | exact ⟨rfl, alike⟩

/-! ## Requests that make no difference -/

/-- The request is for something that is only read, or it was answered with "not changed" or an
error. -/
def Invisible (exchange : Request × Response) : Prop :=
  (∃ route, Route.ofPath? exchange.1.path = some route ∧ route ≠ .addTagging ∧
    route ≠ .removeTagging) ∨
  exchange.2 = .changed false ∨ 400 ≤ exchange.2.status

theorem not_invisible_changed {request : Request} {response : Response} {route : Route}
    (path : Route.ofPath? request.path = some route)
    (writing : route = .addTagging ∨ route = .removeTagging) (changed : response = .changed true) :
    ¬Invisible (request, response) := by
  subst changed
  rintro (⟨other, reading, notAdd, notRemove⟩ | refused | failed)
  · obtain rfl : route = other := Option.some.inj (path.symm.trans reading)
    exact writing.elim notAdd notRemove
  · exact absurd refused (by decide : Response.changed true ≠ .changed false)
  · exact absurd failed (by decide : ¬400 ≤ (Response.changed true).status)

/-- A request that makes no difference leaves the library alike. -/
theorem alike_of_invisible [UndefinedSign] {library : Library} {request : Request}
    (invisible : Invisible (request, (answer library request).1)) :
    library.Alike (answer library request).2 := by
  have effect := effect_answer library request
  generalize answer library request = outcome at effect invisible ⊢
  cases effect with
  | added asked =>
    obtain ⟨⟨path, _⟩, _⟩ := Request.body?_eq_some_iff.mp asked
    exact absurd invisible (not_invisible_changed path (.inl rfl) rfl)
  | removed asked =>
    obtain ⟨⟨path, _⟩, _⟩ := Request.body?_eq_some_iff.mp asked
    exact absurd invisible (not_invisible_changed path (.inr rfl) rfl)
  | refused => exact .refl library
  | shown _ _ unchanged => exact unchanged.alike

/-- The second log is left of the first one when some requests that make no difference are taken
out of it. -/
inductive Thinned : List (Request × Response) → List (Request × Response) → Prop
  | nil : Thinned [] []
  | keep (exchange : Request × Response) {log kept : List (Request × Response)}
      (others : Thinned log kept) : Thinned (exchange :: log) (exchange :: kept)
  | drop {exchange : Request × Response} {log kept : List (Request × Response)}
      (invisible : Invisible exchange) (others : Thinned log kept) : Thinned (exchange :: log) kept

theorem memoCurrent_answer [UndefinedSign] {library : Library} (current : library.MemoCurrent)
    (request : Request) : (answer library request).2.MemoCurrent :=
  answer_invariant (fun _ => True) Library.memoCurrent_edited (fun _ _ => trivial) current

/-- What is kept of a log is the log of the requests that are kept, from any alike library. -/
theorem log_of_thinned [UndefinedSign] {requests : List Request} {kept : List (Request × Response)}
    (alike : one.Alike other) (current : one.MemoCurrent) (also : other.MemoCurrent)
    (thinned : Thinned (log one requests) kept) : log other (kept.map Prod.fst) = kept := by
  induction requests generalizing one other kept with
  | nil =>
    cases thinned
    rfl
  | cons request others ih =>
    rw [log_cons] at thinned
    have next := memoCurrent_answer current request
    cases thinned with
    | keep _ thinned =>
      -- Both libraries handle the request, with the same answer.
      obtain ⟨same, still⟩ := agree_answer alike current also request
      rw [List.map_cons, log_cons, ← same, ih still next (memoCurrent_answer also request) thinned]
    | drop invisible thinned =>
      -- The other library does not move, and it is still alike.
      have still : (answer one request).2.Alike other :=
        (alike_of_invisible invisible).symm.trans alike
      exact ih still next also thinned

/-- Taking requests that only read or were refused out of a series of requests changes none of the
other answers, whatever happened to the library before. -/
theorem invisible_requests [UndefinedSign] (registry : Registry) (operations : List Operation)
    (requests : List Request) (kept : List (Request × Response))
    (thinned : Thinned (log ((Library.ofRegistry registry).run operations) requests) kept) :
    log ((Library.ofRegistry registry).run operations) (kept.map Prod.fst) = kept := by
  have current := Library.memoCurrent_run registry operations
  exact log_of_thinned (.refl _) current current thinned

/-- A request to add a score is answered alike before and after its tag's exemplars were shown and
a page was not found. -/
theorem invisible_requests_of_loud :
    let registry : Registry := ⟨
      TagCatalogue.empty.register (TagDefinition.named "/Expressive/Loud"),
      [.untagged "Roboto" []], RuleTable.ofRows [], EmbeddingIndex.empty⟩
    let library := (Library.ofRegistry registry).run [.importTable "Roboto,,/Expressive/Loud,95"]
    let shown : Request :=
      ⟨"POST", "/exemplars", some "application/json", "\x7b\"tag\":\"/Expressive/Loud\"\x7d"⟩
    let lost : Request := ⟨"GET", "/nowhere", none, ""⟩
    let added : Request := ⟨"POST", "/taggings/add", some "application/json",
      "\x7b\"family\":\"Roboto\",\"tag\":\"/Expressive/Loud\",\"score\":5\x7d"⟩
    ∃ response, log library [shown, lost, added] =
        [(shown, (answer library shown).1), (lost, .notFound ""), (added, response)] ∧
      log library [added] = [(added, response)] := by
  intro registry library shown lost added
  have reading : Invisible (shown, (answer library shown).1) :=
    .inl ⟨.exemplars, by decide, nofun, nofun⟩
  have refused : Invisible (lost, .notFound "") := .inr (.inr (by decide))
  have whole : log library [shown, lost, added] =
      [(shown, (answer library shown).1), (lost, .notFound ""),
        (added, (answer (answer library shown).2 added).1)] := by
    have unknown : Route.ofPath? lost.path = none := by decide
    have missed (library : Library) : answer library lost = (.notFound "", library) := by
      simp only [answer, unknown]
    rw [log_cons, log_cons, log_cons, missed]
    rfl
  have thinned : Thinned (log library [shown, lost, added])
      [(added, (answer (answer library shown).2 added).1)] := by
    rw [whole]
    exact .drop reading (.drop refused (.keep _ .nil))
  exact ⟨_, whole, invisible_requests registry _ [shown, lost, added] _ thinned⟩

end Service

end FontScores
