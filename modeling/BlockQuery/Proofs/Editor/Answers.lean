import BlockQuery.Proofs.Agreement
import BlockQuery.Proofs.Json.Opening
import BlockQuery.Proofs.Query.Opening

/-!
# Queries and errors in one answer

One call answers with the query of a payload or, if the payload cannot be read, with an object that
has the member `error`. Whoever gets the answer has nothing else to tell the two apart by.

An error opens a brace. **A query opens one only if its leading block echoes a value that does,** so
what the compiler writes itself is never taken for an error. Where a value opens a brace there is
nothing to go by, since every text without blanks around it is the query of some payload
(`exists_payload`).
-/

namespace BlockQuery

open Json Text

namespace Editor

/-- The text is a JSON object with the member `error`. -/
def IsErrorObject (s : String) : Prop :=
  ∃ members, Document.ofText s = ⟨.object members .closed, false⟩ ∧
    ∃ n, ((.ok "error" : Key), n) ∈ members

/-! ### Errors -/

theorem isErrorObject_errorAnswer (problem : String) : IsErrorObject (errorAnswer problem) :=
  ⟨_, ofText_compact_of_numbers_eq_nil rfl, _, List.mem_cons_self ..⟩

/-- What cannot be read is answered with what is wrong with it. -/
theorem exists_queryOf_eq_errorAnswer {payload : String} {f : Json.Fault}
    (h : Proposal.ofText payload = .error f) (place : Json.Place) :
    ∃ problem, queryOf payload place = errorAnswer problem := by
  rw [queryOf, readProposals, h, Except.mapError]
  exact ⟨_, rfl⟩

/-- An error with no blanks around it opens a brace. -/
theorem IsErrorObject.head?_eq {s : String} (h : IsErrorObject s) (hs : s = "" ∨ Flush s.toList) :
    s.toList.head? = some '\x7b' := by
  obtain ⟨members, htree, -⟩ := h
  have hobject : (Document.ofText s).root.isObject = true := by
    rw [htree]
    rfl
  rcases hs with rfl | hflush
  · cases isObject_root_iff.1 hobject
  · exact (isObject_root_iff_of_flush hflush).1 hobject

/-! ### Queries -/

/-- **What the compiler writes itself never looks like an error.** -/
theorem exists_leading_of_isErrorObject {r : Registry} {bs : List Block}
    (h : IsErrorObject (r.compile bs)) : ∃ b ∈ r.leading? bs, b.EchoesBrace :=
  (r.head?_compile_eq_brace_iff bs).1 (h.head?_eq (r.compile_eq_empty_or_flush bs))

/-- **Every text without blanks around it is the query of some payload.** -/
theorem exists_payload {answer : String} (h : Flush answer.toList) :
    ∃ payload ps, Proposal.ofText payload = .ok ps ∧
      ∀ place, queryOf payload place = answer := by
  let p : Proposal := ⟨"all-words", answer, none, none⟩
  let b : Block := .ofKind (anonymous 0) (Registry.builtin.kindOf p) answer
  have hps : Proposal.ofText (Json.list ([p].map Proposal.toJson)).compact = .ok [p] :=
    Proposal.ofText_list [p]
  have hb : b.fragment? = some answer := by
    show (ruleOf? (Registry.builtin.kindOf p).type).bind (·.fragment? answer) = some answer
    rw [Registry.builtin_kindOf_type]
    exact nonBlank?_of_flush h
  have hblocks : Registry.builtin.instantiate anonymous [p] = [b] := rfl
  refine ⟨_, [p], hps, fun place ↦ ?_⟩
  rw [queryOf_of_ofText hps, hblocks, Registry.compile_singleton, hb, Option.getD_some]

/-- Errors have no blanks around them, so each is the query of some payload. -/
theorem exists_payload_alike (problem : String) :
    ∃ payload ps, Proposal.ofText payload = .ok ps ∧
      ∀ place, queryOf payload place = errorAnswer problem := by
  have hopen : IsWord ['\x7b'] := by decide
  have hclose : IsWord ['\x7d'] := by decide
  have hchars : (errorAnswer problem).toList =
      ['\x7b'] ++ compactMembers [("error", .text problem)] ++ ['\x7d'] :=
    String.toList_ofList
  refine exists_payload ?_
  rw [hchars]
  exact hopen.flush.append _ hclose.flush

/-- **What can be told from an answer.** A payload that cannot be read is answered with an object
whose only member is `error`. A payload that can is answered with its query, and this is an object
with the member `error` only if the first block that contributes to it echoes a value that opens a
brace. Where it does there is nothing to go by: whatever is said of a payload that cannot be read is
also the query of one that can. -/
theorem queryOf_tells_errors (payload : String) (place : Json.Place) :
    (∀ f, Proposal.ofText payload = .error f →
      (∃ problem, queryOf payload place = (Json.object [("error", .text problem)]).compact) ∧
        IsErrorObject (queryOf payload place) ∧
        ∃ payload₂ ps, Proposal.ofText payload₂ = .ok ps ∧
          ∀ place₂, queryOf payload₂ place₂ = queryOf payload place) ∧
      ∀ ps, Proposal.ofText payload = .ok ps →
        let bs := Registry.builtin.instantiate anonymous ps
        queryOf payload place = Registry.builtin.compile bs ∧
          (IsErrorObject (queryOf payload place) →
            ∃ b ∈ Registry.builtin.leading? bs, b.EchoesBrace) := by
  refine ⟨fun f hf ↦ ?_, fun ps hps ↦ ?_⟩
  · obtain ⟨problem, hquery⟩ := exists_queryOf_eq_errorAnswer hf place
    rw [hquery]
    exact ⟨⟨problem, rfl⟩, isErrorObject_errorAnswer problem, exists_payload_alike problem⟩
  · rw [queryOf_of_ofText hps]
    exact ⟨rfl, exists_leading_of_isErrorObject⟩

/-- A payload with one block, whose value is an error object. -/
def errorIn (type : String) : String :=
  "[\x7b\"type\":\"" ++ type ++ "\",\"value\":\"\x7b\\\"error\\\":\\\"x\\\"\x7d\"\x7d]"

/-- A payload that breaks off is told from one in which an error object is a phrase. -/
theorem queryOf_tells_errors_phrase :
    IsErrorObject (queryOf "[") ∧
      queryOf (errorIn "exact-phrase") = "\"\x7b\"error\":\"x\"\x7d\"" ∧
      ¬IsErrorObject (queryOf (errorIn "exact-phrase")) := by
  have hcut : Proposal.ofText "[" = .error .endInList := by decide +kernel
  have hread : Proposal.ofText (errorIn "exact-phrase") =
      .ok [⟨"exact-phrase", "\x7b\"error\":\"x\"\x7d", none, none⟩] := by
    decide +kernel
  refine ⟨((queryOf_tells_errors _ _).1 _ hcut).2.1, by decide +kernel, fun herror ↦ ?_⟩
  obtain ⟨b, hleading, hechoes⟩ := ((queryOf_tells_errors _ _).2 _ hread).2 herror
  obtain rfl := List.mem_singleton.1 (Registry.mem_of_mem_leading? hleading)
  rcases hechoes with ⟨htype, -⟩ | ⟨htype, -⟩ <;> exact absurd htype (by decide)

/-- As a value of its own it is not told from one. -/
theorem queryOf_echoing_error :
    Proposal.ofText (errorIn "all-words") =
        .ok [⟨"all-words", "\x7b\"error\":\"x\"\x7d", none, none⟩] ∧
      queryOf (errorIn "all-words") = "\x7b\"error\":\"x\"\x7d" ∧
      IsErrorObject (queryOf (errorIn "all-words")) := by
  have hquery : queryOf (errorIn "all-words") = errorAnswer "x" := by decide +kernel
  refine ⟨by decide +kernel, by decide +kernel, ?_⟩
  rw [hquery]
  exact isErrorObject_errorAnswer "x"

end Editor

end BlockQuery
