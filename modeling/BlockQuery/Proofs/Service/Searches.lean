import BlockQuery.Proofs.Search.Limit
import BlockQuery.Service.Requests

/-!
# How a search is answered

A request for a search is looked at before anything is done about it. If its query is not a text
with something in it, or if it asks for a mode that there is none of, it is refused and **no service
is called.** Any other request is put to the search service once. If that fails, so does the
request; if tweets were found, the analyst is asked once, and whatever becomes of that, the tweets
are handed on.

`Searched` lists the courses that a search can take behind a sound request, each with the calls that
were made. What is to be said of all requests (`KeepsToProtocol`) follows from there: which failures
there are, and that the status tells whether a service was called.
-/

namespace BlockQuery

/-! ### What is asked for -/

/-- A query is a text that is not blank. -/
theorem requestedQuery?_eq_some_iff {v : Option Json} {text : String} :
    requestedQuery? v = some text ↔ v = some (.text text) ∧ Text.allBlank text = false := by
  unfold requestedQuery?
  split
  · next s =>
    cases hblank : Text.allBlank s <;> grind
  · next h => exact ⟨fun h' ↦ (by cases h'), fun h' ↦ absurd h'.1 (h text)⟩

theorem ofName?_eq_some_iff {given : String} {mode : SearchMode} :
    SearchMode.ofName? given = some mode ↔ given = mode.name := by
  constructor
  · intro h
    rw [SearchMode.ofName?] at h
    have hname := List.find?_some h
    exact (beq_iff_eq.1 hname).symm
  · rintro rfl
    exact mode.ofName?_name

/-- There are two modes, each with one name. -/
theorem ofName?_eq_none_iff {given : String} :
    SearchMode.ofName? given = none ↔ given ≠ "latest" ∧ given ≠ "top" := by
  rw [SearchMode.ofName?, List.find?_eq_none, ne_comm, ne_comm (a := given)]
  simp [SearchMode.all, SearchMode.name]

namespace SearchRequest

variable {r : SearchRequest} {s : Services}

/-- The request has this text as its query. -/
def AsksFor (r : SearchRequest) (text : String) : Prop :=
  r.query = some (.text text) ∧ Text.allBlank text = false

/-- The request asks for this mode, by its name or, if it is the latest tweets, by no name. -/
def AsksIn (r : SearchRequest) (mode : SearchMode) : Prop :=
  r.mode = none ∧ mode = .latest ∨ r.mode = some mode.name

/-- The request asks for a mode that there is none of. -/
def Misnames (r : SearchRequest) (given : String) : Prop :=
  r.mode = some given ∧ given ≠ "latest" ∧ given ≠ "top"

/-- The mode that is found is the one that was asked for, and without one the latest. -/
theorem requestedMode_eq_ok_iff {mode : SearchMode} :
    r.requestedMode = .ok mode ↔ r.AsksIn mode := by
  unfold requestedMode AsksIn
  cases r.mode with
  | none => simp [eq_comm]
  | some given =>
    simp only [reduceCtorEq, false_and, false_or, Option.some.injEq, ← ofName?_eq_some_iff]
    cases SearchMode.ofName? given <;> simp

/-- Only a name that is none is refused, and the refusal repeats it. -/
theorem requestedMode_eq_error_iff {f : Failure} :
    r.requestedMode = .error f ↔ ∃ given, r.Misnames given ∧ f = .invalidMode given := by
  unfold requestedMode Misnames
  cases r.mode with
  | none => simp
  | some given =>
    simp only [Option.some.injEq, ← ofName?_eq_none_iff]
    cases h : SearchMode.ofName? given <;> grind

theorem AsksFor.unique {text text' : String} (h : r.AsksFor text) (h' : r.AsksFor text') :
    text = text' :=
  Json.text.inj (Option.some.inj (h.1.symm.trans h'.1))

theorem AsksIn.unique {mode mode' : SearchMode} (h : r.AsksIn mode) (h' : r.AsksIn mode') :
    mode = mode' :=
  Except.ok.inj ((requestedMode_eq_ok_iff.2 h).symm.trans (requestedMode_eq_ok_iff.2 h'))

theorem Misnames.not_asksIn {given : String} {mode : SearchMode} (h : r.Misnames given)
    (h' : r.AsksIn mode) : False := by
  have hmode := requestedMode_eq_error_iff.2 ⟨given, h, rfl⟩
  rw [requestedMode_eq_ok_iff.2 h'] at hmode
  cases hmode

/-! ### Requests that are refused -/

/-- **A request comes to a query exactly if it asks for one in some mode,** whatever its limit is.
-/
theorem toQuery_eq_ok_iff {q : TweetQuery} :
    r.toQuery = .ok q ↔ r.AsksFor q.query ∧ r.AsksIn q.mode ∧ q.limit = clampLimit r.limit := by
  obtain ⟨query, mode, limit⟩ := q
  rw [toQuery, AsksFor, ← requestedQuery?_eq_some_iff, ← requestedMode_eq_ok_iff]
  cases requestedQuery? r.query with
  | none => simp
  | some text => cases r.requestedMode <;> simp [Except.map, eq_comm]

/-- A request is refused for its query before it is refused for its mode. -/
theorem toQuery_eq_error_iff {f : Failure} :
    r.toQuery = .error f ↔
      (¬∃ text, r.AsksFor text) ∧ f = .invalidQuery ∨
        (∃ text, r.AsksFor text) ∧ ∃ given, r.Misnames given ∧ f = .invalidMode given := by
  simp only [toQuery, AsksFor, ← requestedQuery?_eq_some_iff, ← requestedMode_eq_error_iff]
  cases requestedQuery? r.query with
  | none => simp [eq_comm]
  | some text => cases r.requestedMode <;> simp [Except.map]

/-! ### The course of a search -/

/-- What can come of a search for tweets, with the calls made for it. -/
inductive Searched (s : Services) (q : TweetQuery) : RequestOutcome SearchAnswer → Prop where
  /-- There were no tweets to be had. -/
  | unfetched (f : Failure) (hfetch : s.fetch q = .error f) :
      Searched s q ⟨[.fetch q], .error (.fetch f.message)⟩
  /-- No tweet was found, so there was nothing to analyze. -/
  | nothingFound (hfetch : s.fetch q = .ok []) :
      Searched s q ⟨[.fetch q], .ok ⟨q.query, [], .empty⟩⟩
  | analyzed (tweets : List Tweet) (hfetch : s.fetch q = .ok tweets) (hfound : tweets ≠ [])
      (a : Analysis) (hanalyze : s.analyze q.query tweets = .ok a) :
      Searched s q ⟨[.fetch q, .analyze q.query tweets], .ok ⟨q.query, tweets, a⟩⟩
  /-- The analyst failed, which is no reason to keep the tweets back. -/
  | unanalyzed (tweets : List Tweet) (hfetch : s.fetch q = .ok tweets) (hfound : tweets ≠ [])
      (f : Failure) (hanalyze : s.analyze q.query tweets = .error f) :
      Searched s q ⟨[.fetch q, .analyze q.query tweets], .ok ⟨q.query, tweets, .unavailable⟩⟩

/-- A refused request calls nothing. -/
theorem answer_of_refused {f : Failure} (h : r.toQuery = .error f) :
    r.answer s = ⟨[], .error f⟩ := by
  rw [answer, h]

/-- **A sound request takes one of four courses.** -/
theorem searched_of_sound {q : TweetQuery} (h : r.toQuery = .ok q) : Searched s q (r.answer s) := by
  simp only [answer, h]
  cases hfetch : s.fetch q with
  | error f => exact .unfetched f hfetch
  | ok tweets =>
    cases tweets with
    | nil => exact .nothingFound hfetch
    | cons t ts =>
      simp only [analysisOf, List.isEmpty_cons, Bool.false_eq_true, if_false]
      cases hanalyze : s.analyze q.query (t :: ts) with
      | ok a => exact .analyzed _ hfetch (List.cons_ne_nil t ts) a hanalyze
      | error f => exact .unanalyzed _ hfetch (List.cons_ne_nil t ts) f hanalyze

theorem Searched.calls_ne_nil {q : TweetQuery} {o : RequestOutcome SearchAnswer}
    (h : Searched s q o) : o.calls ≠ [] := by
  cases h <;> exact List.cons_ne_nil _ _

/-- A search fails only where tweets could not be had. -/
theorem Searched.exists_fetch {q : TweetQuery} {o : RequestOutcome SearchAnswer}
    (h : Searched s q o) {f : Failure} (hf : o.result = .error f) :
    ∃ detail, f = .fetch detail := by
  cases h with
  | unfetched g => exact ⟨g.message, (Except.error.inj hf).symm⟩
  | nothingFound | analyzed | unanalyzed => cases hf

/-! ### Every request -/

/-- What is owed to a request, whatever the services do. -/
structure KeepsToProtocol (s : Services) (r : SearchRequest) (o : RequestOutcome SearchAnswer) :
    Prop where
  invalidQuery_iff : o.result = .error .invalidQuery ↔ ¬∃ text, r.AsksFor text
  invalidMode_iff : ∀ given, o.result = .error (.invalidMode given) ↔
    (∃ text, r.AsksFor text) ∧ r.Misnames given
  /-- A sound request is put to the search service, word for word. -/
  searched : ∀ text mode, r.AsksFor text → r.AsksIn mode →
    ∃ limit, 1 ≤ limit ∧ limit ≤ 20 ∧ Searched s ⟨text, mode, limit⟩ o
  failures : ∀ f, o.result = .error f →
    f = .invalidQuery ∨ (∃ given, f = .invalidMode given) ∨ ∃ detail, f = .fetch detail
  /-- The status tells whether a service was called. -/
  status_iff : (∃ f, o.result = .error f ∧ f.status = 400) ↔ o.calls = []

/-- A request without a query is refused. -/
theorem keepsToProtocol_of_invalidQuery (h : ¬∃ text, r.AsksFor text) :
    KeepsToProtocol s r ⟨[], .error .invalidQuery⟩ where
  invalidQuery_iff := iff_of_true rfl h
  invalidMode_iff _ := iff_of_false (fun h' ↦ nomatch h') fun h' ↦ h h'.1
  searched text _ htext := absurd ⟨text, htext⟩ h
  failures _ hf := .inl (Except.error.inj hf).symm
  status_iff := iff_of_true ⟨_, rfl, rfl⟩ rfl

/-- A request for a mode that there is none of is refused. -/
theorem keepsToProtocol_of_misnames {text given : String} (htext : r.AsksFor text)
    (h : r.Misnames given) : KeepsToProtocol s r ⟨[], .error (.invalidMode given)⟩ where
  invalidQuery_iff := iff_of_false (fun h' ↦ nomatch h') (not_not_intro ⟨text, htext⟩)
  invalidMode_iff given' := by
    constructor
    · rintro ⟨⟩
      exact ⟨⟨text, htext⟩, h⟩
    · rintro ⟨-, h'⟩
      rw [Option.some.inj (h.1.symm.trans h'.1)]
  searched _ _ _ hmode := (h.not_asksIn hmode).elim
  failures _ hf := .inr (.inl ⟨given, (Except.error.inj hf).symm⟩)
  status_iff := iff_of_true ⟨_, rfl, rfl⟩ rfl

/-- A sound request is searched for. -/
theorem keepsToProtocol_of_searched {q : TweetQuery} {o : RequestOutcome SearchAnswer}
    (h : r.toQuery = .ok q) (hsearched : Searched s q o) : KeepsToProtocol s r o := by
  obtain ⟨htext, hmode, hlimit⟩ := toQuery_eq_ok_iff.1 h
  have hfetch {f : Failure} (hf : o.result = .error f) := hsearched.exists_fetch hf
  refine ⟨iff_of_false ?_ (not_not_intro ⟨_, htext⟩), fun given ↦ iff_of_false ?_ ?_, ?_,
    fun f hf ↦ .inr (.inr (hfetch hf)), iff_of_false ?_ hsearched.calls_ne_nil⟩
  · intro hf
    obtain ⟨_, ⟨⟩⟩ := hfetch hf
  · intro hf
    obtain ⟨_, ⟨⟩⟩ := hfetch hf
  · exact fun h' ↦ h'.2.not_asksIn hmode
  · intro text mode htext' hmode'
    obtain rfl := htext.unique htext'
    obtain rfl := hmode.unique hmode'
    have hlimits := clampLimit_bounds r.limit
    rw [← hlimit] at hlimits
    exact ⟨q.limit, hlimits.1, hlimits.2, hsearched⟩
  · rintro ⟨f, hf, hstatus⟩
    obtain ⟨detail, rfl⟩ := hfetch hf
    exact absurd hstatus (by simp [Failure.status, Failure.isValidation])

/-- **Searches keep to the protocol,** whatever is requested and whatever the services do. -/
theorem answer_keepsToProtocol (s : Services) (r : SearchRequest) :
    KeepsToProtocol s r (r.answer s) := by
  cases hquery : r.toQuery with
  | ok q => exact keepsToProtocol_of_searched hquery (searched_of_sound hquery)
  | error f =>
    rw [answer_of_refused hquery]
    obtain ⟨hno, rfl⟩ | ⟨⟨text, htext⟩, given, hgiven, rfl⟩ := toQuery_eq_error_iff.1 hquery
    · exact keepsToProtocol_of_invalidQuery hno
    · exact keepsToProtocol_of_misnames htext hgiven

end SearchRequest

end BlockQuery
