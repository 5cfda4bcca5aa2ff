import BlockQuery.Proofs.Service.Searches

/-!
# What a failure tells

A request fails for one of two reasons: it was wrong in the first place, or a service that it needs
failed it (`Failed`). **The request alone decides which of the two it can be.** So in production,
where a body tells the sort of a failure and nothing else, two failures of one request are alike,
however the services failed.

In development the body also holds what the failed service said, in the words of its own message. Of
a request that was wrong it still says nothing more.
-/

namespace BlockQuery

/-! ### Failures that cannot be told apart -/

/-- In production the two failures are sent as one and the same body, without a detail, whether the
body repeats a text or not. -/
structure Failure.AlikeInProduction (f g : Failure) : Prop where
  isValidation_eq : f.isValidation = g.isValidation
  body_eq : f.body false = g.body false
  withQuery_eq : ∀ text, (f.body false).withQuery text = (g.body false).withQuery text
  detail_eq_none : (f.body false).detail = none ∧ (g.body false).detail = none
  detail_withQuery_eq_none : ∀ text, ((f.body false).withQuery text).detail = none ∧
    ((g.body false).withQuery text).detail = none

namespace Failure

variable {f g : Failure}

/-- The sort of a failure decides on all that is sent in production. -/
theorem alikeInProduction_of_publicMessage (hsort : f.isValidation = g.isValidation)
    (hpublic : f.publicMessage = g.publicMessage) : f.AlikeInProduction g := by
  have hbody : f.body false = g.body false := by
    rw [body, body, hpublic]
    rfl
  exact ⟨hsort, hbody, fun text ↦ congrArg (·.withQuery text) hbody, ⟨rfl, rfl⟩,
    fun _ ↦ ⟨rfl, rfl⟩⟩

theorem AlikeInProduction.refl (f : Failure) : f.AlikeInProduction f :=
  alikeInProduction_of_publicMessage rfl rfl

/-- Nothing is told of a request that was wrong. -/
theorem detail_of_isValidation (h : f.isValidation = true) (development : Bool) :
    (f.body development).detail = none := by
  cases f with
  | invalidQuery | invalidMode => cases development <;> rfl
  | fetch | interpretation | analysis | malformed | transport => cases h

end Failure

/-! ### Where failures come from -/

/-- The call of a service failed with this failure. -/
def ServiceCall.FailedWith (s : Services) (g : Failure) : ServiceCall → Prop
  | .fetch q => s.fetch q = .error g
  | .analyze query tweets => s.analyze query tweets = .error g
  | .interpret text => s.interpret text = .error g

/-- The ways in which a request can fail, with the calls that were made for it. -/
inductive Failed (s : Services) : List ServiceCall → Failure → Prop where
  /-- The request was wrong. -/
  | refused (f : Failure) (hf : f.isValidation = true) : Failed s [] f
  /-- There were no tweets to be had. -/
  | unfetched (q : TweetQuery) (g : Failure) (hfetch : s.fetch q = .error g) :
      Failed s [.fetch q] (.fetch g.message)
  /-- There were no blocks to be had. -/
  | uninterpreted (text : String) (g : Failure) (hinterpret : s.interpret text = .error g) :
      Failed s [.interpret text] (.interpretation g.message)

namespace RequestOutcome

variable {α : Type}

/-- If both requests failed, nobody can tell the one failure from the other in production. -/
def AlikeInProduction (o o' : RequestOutcome α) : Prop :=
  ∀ f f', o.result = .error f → o'.result = .error f' → f.AlikeInProduction f'

/-- In development a failure tells what the service said that failed, unless the request was wrong:
then it tells nothing. -/
def TellsCause (s : Services) (o : RequestOutcome α) : Prop :=
  ∀ f, o.result = .error f →
    f.isValidation = true ∧ (f.body true).detail = none ∨
      f.isValidation = false ∧ ∃ c g, o.calls = [c] ∧ c.FailedWith s g ∧
        (f.body true).detail = some g.message

/-- Every course of a failed run tells what the service that was called said. -/
theorem tellsCause_of_failed {s : Services} {o : RequestOutcome α}
    (h : ∀ f, o.result = .error f → Failed s o.calls f) : o.TellsCause s := by
  obtain ⟨calls, result⟩ := o
  intro f hf
  cases h f hf with
  | refused _ hsort => exact .inl ⟨hsort, Failure.detail_of_isValidation hsort true⟩
  | unfetched q g hfetch => exact .inr ⟨rfl, _, g, rfl, hfetch, rfl⟩
  | uninterpreted text g hinterpret => exact .inr ⟨rfl, _, g, rfl, hinterpret, rfl⟩

end RequestOutcome

/-! ### Searches -/

namespace SearchRequest

variable {r : SearchRequest} {s s' : Services} {f : Failure}

/-- A request is refused only for what is wrong with it. -/
theorem isValidation_of_toQuery (h : r.toQuery = .error f) : f.isValidation = true := by
  obtain ⟨-, rfl⟩ | ⟨-, given, -, rfl⟩ := toQuery_eq_error_iff.1 h <;> rfl

theorem failed_of_answer (h : (r.answer s).result = .error f) : Failed s (r.answer s).calls f := by
  cases hquery : r.toQuery with
  | error g =>
    rw [answer_of_refused hquery] at h ⊢
    obtain rfl := Except.error.inj h
    exact .refused g (isValidation_of_toQuery hquery)
  | ok q =>
    have hcourse := searched_of_sound (s := s) hquery
    generalize r.answer s = o at h hcourse
    cases hcourse with
    | unfetched g hfetch =>
      obtain rfl := Except.error.inj h
      exact .unfetched q g hfetch
    | nothingFound | analyzed | unanalyzed => cases h

/-- **The services have no say in what sort of failure a search meets.** -/
theorem answer_alikeInProduction (r : SearchRequest) (s s' : Services) :
    (r.answer s).AlikeInProduction (r.answer s') := by
  intro f f' hf hf'
  cases hquery : r.toQuery with
  | error g =>
    rw [answer_of_refused hquery] at hf hf'
    rw [← Except.error.inj hf, ← Except.error.inj hf']
    exact .refl g
  | ok q =>
    obtain ⟨detail, rfl⟩ := (searched_of_sound hquery).exists_fetch hf
    obtain ⟨detail', rfl⟩ := (searched_of_sound hquery).exists_fetch hf'
    exact Failure.alikeInProduction_of_publicMessage rfl rfl

end SearchRequest

/-! ### Interpretations -/

namespace InterpretationRequest

variable {r : InterpretationRequest} {s : Services} {ids : IdSupply} {today : Day}
  {timestamp : String} {f : Failure}

/-- A request without a query is refused, and nothing is called. -/
theorem answer_of_refused (h : requestedQuery? r.query = none) :
    r.answer s ids today timestamp = ⟨[], .error .invalidQuery⟩ := by
  rw [answer, h]

/-- The failure of a sound request is that of the interpreter. -/
theorem failed_of_sound {text : String} (h : requestedQuery? r.query = some text)
    (hf : (r.answer s ids today timestamp).result = .error f) :
    ∃ g, s.interpret text = .error g ∧ f = .interpretation g.message ∧
      (r.answer s ids today timestamp).calls = [.interpret text] := by
  simp only [answer, h] at hf ⊢
  cases hinterpret : s.interpret text with
  | error g =>
    rw [hinterpret] at hf
    exact ⟨g, rfl, (Except.error.inj hf).symm, rfl⟩
  | ok ps =>
    rw [hinterpret] at hf
    cases hf

theorem failed_of_answer (hf : (r.answer s ids today timestamp).result = .error f) :
    Failed s (r.answer s ids today timestamp).calls f := by
  cases hquery : requestedQuery? r.query with
  | none =>
    rw [answer_of_refused hquery] at hf ⊢
    obtain rfl := Except.error.inj hf
    exact .refused .invalidQuery rfl
  | some text =>
    obtain ⟨g, hinterpret, rfl, hcalls⟩ := failed_of_sound hquery hf
    rw [hcalls]
    exact .uninterpreted text g hinterpret

/-- **Nor do they in what sort of failure an interpretation meets,** whenever it is asked for. -/
theorem answer_alikeInProduction (r : InterpretationRequest) (s s' : Services) (ids ids' : IdSupply)
    (today today' : Day) (timestamp timestamp' : String) :
    (r.answer s ids today timestamp).AlikeInProduction (r.answer s' ids' today' timestamp') := by
  intro f f' hf hf'
  cases hquery : requestedQuery? r.query with
  | none =>
    rw [answer_of_refused hquery] at hf hf'
    rw [← Except.error.inj hf, ← Except.error.inj hf']
    exact .refl .invalidQuery
  | some text =>
    obtain ⟨g, -, rfl, -⟩ := failed_of_sound hquery hf
    obtain ⟨g', -, rfl, -⟩ := failed_of_sound hquery hf'
    exact Failure.alikeInProduction_of_publicMessage rfl rfl

end InterpretationRequest

/-! ### Every failed request -/

/-- **What a failure tells.** In production the body of a failed request tells nothing of how the
services failed, nor which mode was asked for that there is none of. In development it tells what
the failed service said, and nothing of a request that was wrong. -/
theorem failures_discreet :
    (∀ (r : SearchRequest) (s s' : Services), (r.answer s).AlikeInProduction (r.answer s')) ∧
      (∀ (r : InterpretationRequest) (s s' : Services) (ids ids' : IdSupply) (today today' : Day)
        (timestamp timestamp' : String),
        (r.answer s ids today timestamp).AlikeInProduction
          (r.answer s' ids' today' timestamp')) ∧
      (∀ (r r' : SearchRequest) (s s' : Services) (given given' : String),
        (r.answer s).result = .error (.invalidMode given) →
          (r'.answer s').result = .error (.invalidMode given') →
            (r.answer s).AlikeInProduction (r'.answer s')) ∧
      (∀ (r : SearchRequest) (s : Services), (r.answer s).TellsCause s) ∧
      ∀ (r : InterpretationRequest) (s : Services) (ids : IdSupply) (today : Day)
        (timestamp : String), (r.answer s ids today timestamp).TellsCause s := by
  refine ⟨SearchRequest.answer_alikeInProduction, InterpretationRequest.answer_alikeInProduction,
    fun r r' s s' given given' hgiven hgiven' f f' hf hf' ↦ ?_,
    fun r s ↦ RequestOutcome.tellsCause_of_failed fun _ ↦ SearchRequest.failed_of_answer,
    fun r s ids today timestamp ↦
      RequestOutcome.tellsCause_of_failed fun _ ↦ InterpretationRequest.failed_of_answer⟩
  rw [hgiven] at hf
  rw [hgiven'] at hf'
  rw [← Except.error.inj hf, ← Except.error.inj hf']
  exact Failure.alikeInProduction_of_publicMessage rfl rfl

/-- Services of which each call fails with this failure. -/
def Services.failing (g : Failure) : Services where
  fetch _ := .error g
  analyze _ _ := .error g
  interpret _ := .error g

/-- A search for a word in the mode that is named, if one is. -/
def SearchRequest.forRust (mode : Option String) : SearchRequest :=
  ⟨some (.text "rust"), mode, none⟩

theorem failures_discreet_outage :
    ((SearchRequest.forRust none).answer (.failing (.transport "refused"))).result =
        .error (.fetch (Failure.transport "refused").message) ∧
      ((SearchRequest.forRust none).answer (.failing (.malformed "expected value"))).result =
        .error (.fetch (Failure.malformed "expected value").message) ∧
      (Failure.fetch (Failure.transport "refused").message).AlikeInProduction
        (.fetch (Failure.malformed "expected value").message) ∧
      ((SearchRequest.forRust (some "new")).answer (.failing .invalidQuery)).result =
        .error (.invalidMode "new") ∧
      ((SearchRequest.forRust (some "old")).answer (.failing .invalidQuery)).result =
        .error (.invalidMode "old") ∧
      (Failure.invalidMode "new").AlikeInProduction (.invalidMode "old") ∧
      ∃ (c : ServiceCall) (g : Failure), c.FailedWith (.failing (.transport "refused")) g ∧
        ((Failure.fetch (Failure.transport "refused").message).body true).detail =
          some g.message := by
  have hrefused : ((SearchRequest.forRust none).answer (.failing (.transport "refused"))).result =
      .error (.fetch (Failure.transport "refused").message) := rfl
  have hgarbled :
      ((SearchRequest.forRust none).answer (.failing (.malformed "expected value"))).result =
        .error (.fetch (Failure.malformed "expected value").message) := rfl
  have hnew : ((SearchRequest.forRust (some "new")).answer (.failing .invalidQuery)).result =
      .error (.invalidMode "new") := rfl
  have hold : ((SearchRequest.forRust (some "old")).answer (.failing .invalidQuery)).result =
      .error (.invalidMode "old") := rfl
  obtain ⟨hsearch, -, hmodes, htells, -⟩ := failures_discreet
  obtain ⟨hsort, -⟩ | ⟨-, c, g, -, hc, hdetail⟩ := htells _ _ _ hrefused
  · cases hsort
  · exact ⟨hrefused, hgarbled, hsearch _ _ _ _ _ hrefused hgarbled, hnew, hold,
      hmodes _ _ _ _ _ _ hnew hold _ _ hnew hold, c, g, hc, hdetail⟩

end BlockQuery
