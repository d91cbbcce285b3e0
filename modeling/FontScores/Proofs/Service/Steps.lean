import Mathlib
import FontScores.Service.Router
import FontScores.Proofs.Library.Operations

/-!
# What requests do to the library

Only two kinds of requests can change what is stored: one to add a score and one to remove a
tagging, each with a body that can be taken as what it should be.  All other requests leave the
library as it is, or let it remember exemplars.  `Effect` lists what can happen, and what is proved
of requests later is a case analysis over it that does not look at the router again.  Every request
makes one edit at most, so what an edit keeps, all requests keep.

A log holds the requests in the order in which they were handled, each with its answer.  Any part of
a log is the log of its own requests, from the library that the earlier ones left behind.
-/

namespace FontScores

/-! ## The two kinds that change something -/

namespace Request

/-- The request is sent to this route, and its body is said to be JSON. -/
def SentTo (request : Request) (route : Route) : Prop :=
  Route.ofPath? request.path = some route ∧ request.method = "POST" ∧
    request.contentType.any MediaType.isJson = true

instance (request : Request) (route : Route) : Decidable (request.SentTo route) :=
  inferInstanceAs (Decidable (_ ∧ _))

/-- What the text of a request says, if it is JSON of the right shape. -/
def decoded? {α : Type} (request : Request) (decoder : Json.Decoder α) : Option α :=
  ((Json.Document.ofText request.body).decode decoder).toOption

/-- The body of a request that is sent to this route, if it can be taken. -/
def body? {α : Type} (request : Request) (route : Route) (decoder : Json.Decoder α) : Option α :=
  if request.SentTo route ∧ request.body.utf8ByteSize ≤ Service.bodyLimit then
    request.decoded? decoder
  else none

def addition? (request : Request) : Option AddTagging :=
  request.body? .addTagging AddTagging.decoder

def removal? (request : Request) : Option RemoveTagging :=
  request.body? .removeTagging RemoveTagging.decoder

/-- The row that the body of an addition stands for, with its location read. -/
def AddTagging.record (body : AddTagging) (location : Option Location) : TaggingRecord :=
  ⟨body.family, location, body.tag, body.score⟩

variable {request : Request}

theorem body?_eq_some_iff {α : Type} {route : Route} {decoder : Json.Decoder α} {body : α} :
    request.body? route decoder = some body ↔
      request.SentTo route ∧ request.body.utf8ByteSize ≤ Service.bodyLimit ∧
        (Json.Document.ofText request.body).decode decoder = .ok body := by
  unfold body? decoded?
  split
  next sent =>
    simp only [sent, true_and]
    cases (Json.Document.ofText request.body).decode decoder <;> simp [Except.toOption]
  next other =>
    simp only [reduceCtorEq, false_iff]
    rintro ⟨sent, fits, _⟩
    exact other ⟨sent, fits⟩

/-- No request is for both. -/
theorem removal?_of_addition? {body : AddTagging} (asked : request.addition? = some body) :
    request.removal? = none := by
  obtain ⟨⟨path, _⟩, _⟩ := body?_eq_some_iff.mp asked
  simp [removal?, body?, SentTo, path]

end Request

/-- The library is the same, except that it may remember more exemplars. -/
inductive Library.Unchanged (library : Library) : Library → Prop
  | same : Unchanged library library
  | remembering {tag : String} {exemplars : Exemplars} {after : Library}
      (shown : library.exemplars? tag = some (exemplars, after)) : Unchanged library after

theorem Library.Unchanged.exists_memo {library after : Library}
    (unchanged : library.Unchanged after) : ∃ memo, after = { library with memo } := by
  cases unchanged with
  | same => exact ⟨library.memo, rfl⟩
  | remembering shown =>
    unfold exemplars? at shown
    split at shown
    · cases shown
      exact ⟨_, rfl⟩
    · cases shown

theorem Library.edited_of_exemplars? {source : Tagging → Prop} {library after : Library}
    {tag : String} {exemplars : Exemplars}
    (shown : library.exemplars? tag = some (exemplars, after)) : library.Edited source after := by
  unfold exemplars? at shown
  split at shown
  next known =>
    cases shown
    exact .retrieve known
  · cases shown

@[simp] theorem Response.changed_inj {one other : Bool} :
    Response.changed one = .changed other ↔ one = other := by
  cases one <;> cases other <;> decide

namespace Service

variable {library : Library} {request : Request}

/-- What holds of the library and of whatever the body leads to, holds behind the request. -/
theorem withBody_invariant {α : Type} {P : Library → Prop} {decoder : Json.Decoder α}
    {handler : α → Answer} (holds : P library)
    (handled : ∀ body, request.contentType.any MediaType.isJson = true →
      request.body.utf8ByteSize ≤ bodyLimit →
      (Json.Document.ofText request.body).decode decoder = .ok body → P (handler body).2) :
    P (withBody library request decoder handler).2 := by
  unfold withBody
  split
  next json =>
    split
    next fits =>
      split
      next body decoded => exact handled body json fits decoded
      · exact holds
    · exact holds
  · exact holds

variable [UndefinedSign]

/-- A request that is sent to a route is answered by it. -/
theorem answer_of_sentTo {route : Route} (sent : request.SentTo route)
    (posted : route.isGet = false) :
    answer library request = answerRoute library request route := by
  obtain ⟨path, post, _⟩ := sent
  simp [answer, path, posted, post]

/-- A request with a body that can be taken is answered by the handler of its route. -/
theorem answer_of_body? {α : Type} {route : Route} {decoder : Json.Decoder α} {body : α}
    (asked : request.body? route decoder = some body) (posted : route.isGet = false)
    {handler : α → Answer}
    (routed : answerRoute library request route = withBody library request decoder handler) :
    answer library request = handler body := by
  obtain ⟨sent, fits, decoded⟩ := Request.body?_eq_some_iff.mp asked
  rw [answer_of_sentTo sent posted, routed, withBody, if_pos sent.2.2, if_pos fits, decoded]

/-- A body that is too long is not taken, whatever it says. -/
theorem answer_of_oversize {route : Route} (sent : request.SentTo route)
    (posted : route.isGet = false) (oversize : bodyLimit < request.body.utf8ByteSize) :
    answer library request = (.payloadTooLarge, library) := by
  have refused {α : Type} (decoder : Json.Decoder α) (handler : α → Answer) :
      withBody library request decoder handler = (.payloadTooLarge, library) := by
    rw [withBody, if_pos sent.2.2, if_neg (Nat.not_le_of_lt oversize)]
  rw [answer_of_sentTo sent posted]
  cases route with
  | health | exportTaggings => cases posted
  | lint | similar | exemplars | addTagging | removeTagging => exact refused _ _

theorem answer_of_addition? {body : Request.AddTagging}
    (asked : request.addition? = some body) : answer library request = addTagging library body :=
  answer_of_body? asked rfl rfl

theorem answer_of_removal? {body : Request.RemoveTagging}
    (asked : request.removal? = some body) :
    answer library request = removeTagging library body :=
  answer_of_body? asked rfl rfl

theorem unchanged_answerRoute {route : Route} (path : Route.ofPath? request.path = some route)
    (method : request.method = if route.isGet then "GET" else "POST")
    (notAdded : request.addition? = none) (notRemoved : request.removal? = none) :
    library.Unchanged (answerRoute library request route).2 := by
  cases route with
  | health | exportTaggings => exact .same
  | lint =>
    refine withBody_invariant .same fun body _ _ _ => ?_
    unfold lint
    split <;> exact .same
  | similar => exact withBody_invariant .same fun body _ _ _ => .same
  | exemplars =>
    refine withBody_invariant .same fun body _ _ _ => ?_
    unfold exemplars
    split
    next found => exact .remembering found
    · exact .same
  -- The last two kinds are left, and a body that could be taken would make it one of them.
  | addTagging =>
    refine withBody_invariant .same fun body json fits decoded => ?_
    have taken := Request.body?_eq_some_iff.mpr ⟨⟨path, method, json⟩, fits, decoded⟩
    exact absurd (notAdded.symm.trans taken) nofun
  | removeTagging =>
    refine withBody_invariant .same fun body json fits decoded => ?_
    have taken := Request.body?_eq_some_iff.mpr ⟨⟨path, method, json⟩, fits, decoded⟩
    exact absurd (notRemoved.symm.trans taken) nofun

/-- Any other request changes nothing. -/
theorem unchanged_answer (notAdded : request.addition? = none)
    (notRemoved : request.removal? = none) : library.Unchanged (answer library request).2 := by
  unfold answer
  split
  · exact .same
  next route path =>
    by_cases get : route.isGet
    · rw [if_pos get]
      split
      next method => exact unchanged_answerRoute path (by simp [get, method]) notAdded notRemoved
      · split <;> exact .same
    · rw [if_neg get]
      split
      next method => exact unchanged_answerRoute path (by simp [get, method]) notAdded notRemoved
      · exact .same

/-- What a request does, with the answer that it gets. -/
inductive Effect (library : Library) (request : Request) : Answer → Prop
  | added {body : Request.AddTagging} {location : Option Location} {after : Library}
      (asked : request.addition? = some body) (located : location? body.location = .ok location)
      (taken : library.addRecord? (body.record location) = some after) :
      Effect library request (.changed true, after)
  | removed {body : Request.RemoveTagging} {tagging : Tagging} {after : Library}
      (asked : request.removal? = some body)
      (taken : library.remove? body.family body.tag = some (tagging, after)) :
      Effect library request (.changed true, after)
  | refused {response : Response} (unlike : response ≠ .changed true) :
      Effect library request (response, library)
  | shown {response : Response} {after : Library} (notAdded : request.addition? = none)
      (notRemoved : request.removal? = none) (unchanged : library.Unchanged after) :
      Effect library request (response, after)

theorem effect_answer (library : Library) (request : Request) :
    Effect library request (answer library request) := by
  cases added : request.addition? with
  | some body =>
    rw [answer_of_addition? added]
    unfold addTagging
    split
    · exact .refused nofun
    next location located =>
      rw [Library.addRecord_eq]
      cases taken : library.addRecord? _ with
      | some after => exact .added added located taken
      | none => exact .refused (by simp)
  | none =>
    cases removed : request.removal? with
    | some body =>
      rw [answer_of_removal? removed]
      rw [removeTagging, Library.remove_eq]
      cases taken : library.remove? body.family body.tag with
      | some result => exact .removed removed taken
      | none => exact .refused (by simp)
    | none => exact .shown added removed (unchanged_answer added removed)

/-! ## Runs -/

/-- The taggings that a request tries to bring in. -/
def Brings (request : Request) (tagging : Tagging) : Prop :=
  ∃ body location, request.addition? = some body ∧ location? body.location = .ok location ∧
    tagging = (body.record location).tagging

/-- What one edit keeps, a request keeps. -/
theorem answer_invariant (source : Tagging → Prop) {P : Library → Prop}
    (kept : ∀ {before after : Library}, P before → before.Edited source after → P after)
    (given : ∀ tagging, Brings request tagging → source tagging) (holds : P library) :
    P (answer library request).2 := by
  have effect := effect_answer library request
  generalize answer library request = outcome at effect ⊢
  -- Nothing but an edit has to be looked at.
  cases effect with
  | added asked located taken =>
    have brought := given _ ⟨_, _, asked, located, rfl⟩
    exact kept holds (Library.edited_of_addRecord? brought taken)
  | removed _ taken => exact kept holds (Library.edited_of_remove? taken)
  | refused => exact holds
  | shown _ _ unchanged =>
    cases unchanged with
    | same => exact holds
    | remembering shown => exact kept holds (Library.edited_of_exemplars? shown)

/-- What one edit keeps, all requests keep. -/
theorem answerAll_invariant (source : Tagging → Prop) {P : Library → Prop}
    (kept : ∀ {before after : Library}, P before → before.Edited source after → P after)
    {requests : List Request}
    (given : ∀ request ∈ requests, ∀ tagging, Brings request tagging → source tagging)
    (holds : P library) : P (answerAll library requests).2 := by
  induction requests generalizing library with
  | nil => exact holds
  | cons request others ih =>
    exact ih (fun other member => given other (List.mem_cons_of_mem request member))
      (answer_invariant source kept (given request (by simp)) holds)

/-! ## Logs -/

/-- The requests, each with its answer. -/
def log (library : Library) (requests : List Request) : List (Request × Response) :=
  requests.zip (answerAll library requests).1

theorem log_cons (library : Library) (request : Request) (others : List Request) :
    log library (request :: others) =
      (request, (answer library request).1) :: log (answer library request).2 others :=
  rfl

theorem map_fst_log (library : Library) (requests : List Request) :
    (log library requests).map Prod.fst = requests := by
  induction requests generalizing library with
  | nil => rfl
  | cons request others ih => rw [log_cons, List.map_cons, ih]

@[simp] theorem answerAll_cons (library : Library) (request : Request) (others : List Request) :
    (answerAll library (request :: others)).2 = (answerAll (answer library request).2 others).2 :=
  rfl

theorem answerAll_append (library : Library) (one other : List Request) :
    (answerAll library (one ++ other)).2 = (answerAll (answerAll library one).2 other).2 := by
  induction one generalizing library with
  | nil => rfl
  | cons request others ih => exact ih (answer library request).2

theorem log_append (library : Library) (one other : List Request) :
    log library (one ++ other) =
      log library one ++ log (answerAll library one).2 other := by
  induction one generalizing library with
  | nil => rfl
  | cons request others ih =>
    rw [List.cons_append, log_cons, log_cons, List.cons_append, ih]
    rfl

/-- The two parts of a log are the logs of their requests. -/
theorem log_eq_append {requests : List Request} {front back : List (Request × Response)}
    (split : log library requests = front ++ back) :
    front = log library (front.map Prod.fst) ∧
      back = log (answerAll library (front.map Prod.fst)).2 (back.map Prod.fst) := by
  induction front generalizing library requests with
  | nil =>
    obtain rfl : log library requests = back := split
    exact ⟨rfl, by rw [map_fst_log]; rfl⟩
  | cons exchange front ih =>
    cases requests with
    | nil => cases split
    | cons request others =>
      obtain ⟨rfl, later⟩ := List.cons.inj ((log_cons library request others).symm.trans split)
      obtain ⟨first, second⟩ := ih later
      refine ⟨?_, second⟩
      rw [List.map_cons, log_cons, ← first]

end Service

end FontScores
