import BlockQuery.Proofs.Json.Given
import BlockQuery.Proofs.Json.Settled
import BlockQuery.Wire.Searches

/-!
# The sentiment of an analysis

An analyst is asked for one word and may answer with a list of words. The sentiment is then the
first of them, and it is neutral if the first item is no text, or one that says nothing
(`Analysis.labelOf`).

A sentiment that is no list should count as the list that begins with it. **It does so for every
value but the empty text** (`Analysis.sentiment_listed_iff`): that one is taken as it stands, so
that an analysis may come with a sentiment that says nothing, and this is the only way to get one.

Nothing else of the analysis depends on the sentiment, but a list takes one more bracket, and an
analysis that nests too deep is refused.
-/

namespace BlockQuery

open Json Json.Record

namespace Analysis

variable {depth : ℕ} {v : Json} {a : Analysis}

/-! ### Labels -/

/-- The label that a value states: a text that says something. Any other value is neutral. -/
def labelOf : Json → String
  | .text s => if s.isEmpty then neutral else s
  | _ => neutral

theorem neutral_ne_empty : neutral ≠ "" := by
  decide

theorem labelOf_text (s : String) : labelOf (.text s) = if s = "" then neutral else s := by
  simp only [labelOf, String.isEmpty_iff]

/-- No label is empty. -/
theorem labelOf_ne_empty (v : Json) : labelOf v ≠ "" := by
  cases v with
  | text s =>
    rw [labelOf_text]
    split
    · exact neutral_ne_empty
    · assumption
  | _ => exact neutral_ne_empty

/-- Of a list the first item counts. -/
theorem sentimentOf_list (v : Json) (vs : List Json) :
    sentimentOf (.list (v :: vs)) = labelOf v := by
  cases v <;> rfl

/-- Any other value counts as its label, the empty text apart. -/
theorem sentimentOf_eq_labelOf_iff (hv : ∀ items, v ≠ .list items) :
    sentimentOf v = labelOf v ↔ v ≠ .text "" := by
  cases v with
  | text s =>
    rw [sentimentOf, labelOf_text, ne_eq, Json.text.injEq]
    split
    · next hs => exact iff_of_false (hs ▸ neutral_ne_empty.symm) (not_not_intro hs)
    · next hs => exact iff_of_true rfl hs
  | list items => exact absurd rfl (hv items)
  | _ => exact iff_of_true rfl nofun

/-- **Only an empty text that stands alone is taken for an empty sentiment.** -/
theorem sentimentOf_eq_empty_iff : sentimentOf v = "" ↔ v = .text "" := by
  by_cases hlist : ∃ items, v = .list items
  · obtain ⟨items, rfl⟩ := hlist
    refine iff_of_false ?_ nofun
    cases items with
    | nil => exact neutral_ne_empty
    | cons v vs => exact sentimentOf_list v vs ▸ labelOf_ne_empty v
  · have hv : ∀ items, v ≠ .list items := fun items heq ↦ hlist ⟨items, heq⟩
    constructor
    · intro hempty
      by_contra hne
      exact labelOf_ne_empty v (((sentimentOf_eq_labelOf_iff hv).2 hne).symm.trans hempty)
    · rintro rfl
      rfl

theorem sentimentOf_settled (hv : ∀ items, v ≠ .list items) :
    sentimentOf v.settled = sentimentOf v := by
  cases v with
  | list items => exact absurd rfl (hv items)
  | _ => rfl

/-- Settling a value does not change its label. -/
theorem labelOf_settled (v : Json) : labelOf v.settled = labelOf v := by
  cases v <;> rfl

/-- Any value is taken for a sentiment, unless it is nested too deep. -/
theorem sentimentReader_toNode (depth : ℕ) (v : Json) :
    sentimentReader depth v.toNode =
      if v.nesting ≤ depth then .ok (sentimentOf v.settled) else .error .tooDeep := by
  rw [sentimentReader, anything_toNode]
  split <;> rfl

/-! ### The fields of an analysis -/

/-- An analysis is made field by field, with a default for each. -/
theorem build_eq_ok_iff {given? : String → Option Node} :
    record.build depth given? = .ok a ↔
      ((given? "summary").map (Reader.text depth)).getD (.ok "") = .ok a.summary ∧
      ((given? "topics").map (Reader.listOf Reader.text depth)).getD (.ok []) = .ok a.topics ∧
      ((given? "sentiment").map (sentimentReader depth)).getD (.ok neutral) = .ok a.sentiment ∧
      ((given? "insights").map (Reader.listOf Reader.text depth)).getD (.ok []) = .ok a.insights ∧
      ((given? "relatedQuestions").map ((Reader.listOf Reader.text).optional depth)).getD
        (.ok none) = .ok a.relatedQuestions := by
  simp only [record, build_seq_eq_ok_iff, build_map_eq_ok_iff]
  constructor
  · rintro ⟨_, _, ⟨_, _, ⟨_, _, ⟨_, _, ⟨_, hsummary, rfl⟩, htopics, rfl⟩, hsentiment, rfl⟩,
      hinsights, rfl⟩, hquestions, rfl⟩
    exact ⟨hsummary, htopics, hsentiment, hinsights, hquestions⟩
  · rintro ⟨hsummary, htopics, hsentiment, hinsights, hquestions⟩
    exact ⟨_, _, ⟨_, _, ⟨_, _, ⟨_, _, ⟨_, hsummary, rfl⟩, htopics, rfl⟩, hsentiment, rfl⟩,
      hinsights, rfl⟩, hquestions, rfl⟩

/-! ### Exchanging sentiments -/

/-- An object with a sentiment or without one, and with any other members. -/
def withSentiment (before after : List (Key × Node)) (ending : ObjectEnd) : Option Json → Node
  | none => .object (before ++ after) ending
  | some v => .object (before ++ (.ok "sentiment", v.toNode) :: after) ending

section Exchange

variable {before after : List (Key × Node)} {ending : ObjectEnd} {given : Option Json}

/-- A sentiment that is missing counts as one that is `null`. -/
theorem reader_withSentiment_null (hbefore : ∀ m ∈ before, m.1 ≠ .ok "sentiment")
    (hafter : ∀ m ∈ after, m.1 ≠ .ok "sentiment") :
    reader depth (withSentiment before after ending (some .null)) =
      reader depth (withSentiment before after ending none) := by
  have halike depth : record.Alike depth "sentiment" (some .null) none := by
    iterate 4 refine Alike.seq ?_ ?_
    · exact (alike_of_ne (by decide)).map _
    · exact alike_of_ne (by decide)
    · exact alike_null rfl
    · exact alike_of_ne (by decide)
    · exact alike_of_ne (by decide)
  exact read_leaveOut (by decide) (halike _) hbefore hafter _ ending

/-- **Any sentiment may be exchanged for any other,** and nothing else changes. -/
theorem reader_withSentiment (hbefore : ∀ m ∈ before, m.1 ≠ .ok "sentiment")
    (hafter : ∀ m ∈ after, m.1 ≠ .ok "sentiment")
    (h : reader depth (withSentiment before after ending given) = .ok a) (w : Json) :
    reader depth (withSentiment before after ending (some w)) =
      if w.nesting < depth then .ok { a with sentiment := sentimentOf w.settled }
      else .error .tooDeep := by
  -- without a sentiment there is nothing to exchange, so let it be `null` first
  obtain ⟨v, h⟩ : ∃ v, reader depth (withSentiment before after ending (some v)) = .ok a := by
    cases given with
    | none => exact ⟨.null, (reader_withSentiment_null hbefore hafter).trans h⟩
    | some v => exact ⟨v, h⟩
  obtain ⟨outer, -, rfl, -⟩ := exists_given_of_read h
  have hfield : record.fields.find? (·.name == "sentiment") =
      some ⟨"sentiment", fun depth n ↦ (sentimentReader depth n).map fun _ ↦ (), .optional⟩ :=
    rfl
  have hread := sentimentReader_toNode outer w
  simp only [Nat.lt_succ_iff]
  split at hread
  · next hnesting =>
    rw [if_pos hnesting]
    obtain ⟨given, given', hbut, hbuild, heq⟩ :=
      exists_giveBut_of_read hfield (congrArg (Except.map _) hread) h
    rw [withSentiment, reader, heq]
    obtain ⟨hsummary, htopics, -, hinsights, hquestions⟩ := build_eq_ok_iff.1 hbuild
    refine build_eq_ok_iff.2 ⟨?_, ?_, ?_, ?_, ?_⟩
    · rwa [← hbut.elsewhere _ (by decide)]
    · rwa [← hbut.elsewhere _ (by decide)]
    · rw [hbut.here']
      exact hread
    · rwa [← hbut.elsewhere _ (by decide)]
    · rwa [← hbut.elsewhere _ (by decide)]
  · next hnesting =>
    rw [if_neg hnesting]
    exact read_exchange_of_error hfield (congrArg (Except.map _) hread) h

end Exchange

/-- The sentiment of an analysis is the one that is given, and neutral if none is. -/
theorem sentiment_of_reader {members : List (Key × Node)} {ending : ObjectEnd}
    (h : reader depth (.object members ending) = .ok a) :
    (∃ n, (.ok "sentiment", n) ∈ members ∧ sentimentReader (depth - 1) n = .ok a.sentiment) ∨
      (∀ m ∈ members, m.1 ≠ .ok "sentiment") ∧ a.sentiment = neutral := by
  obtain ⟨outer, given, rfl, hgather, -, hbuild⟩ := exists_given_of_read h
  obtain ⟨-, -, hsentiment, -, -⟩ := build_eq_ok_iff.1 hbuild
  have hname : "sentiment" ∈ record.fields.map Field.name := by
    decide
  obtain ⟨n, hn, hgiven⟩ | ⟨hnone, hgiven⟩ := lookup_gather_cases hname hgather
  · rw [hgiven] at hsentiment
    exact .inl ⟨n, hn, hsentiment⟩
  · rw [hgiven] at hsentiment
    exact .inr ⟨hnone, (Except.ok.inj hsentiment).symm⟩

/-- Only the empty text is a sentiment that says nothing. -/
theorem sentiment_eq_empty_iff {members : List (Key × Node)} {ending : ObjectEnd}
    (h : reader depth (.object members ending) = .ok a) :
    a.sentiment = "" ↔ (.ok "sentiment", .text (.ok "")) ∈ members := by
  constructor
  · intro hempty
    obtain ⟨n, hn, hread⟩ | ⟨-, hneutral⟩ := sentiment_of_reader h
    · obtain ⟨v, hv, hlabel⟩ := map_eq_ok.1 hread
      obtain rfl := sentimentOf_eq_empty_iff.1 (hlabel.trans hempty)
      rwa [← Reader.anything_eq_ok_text hv]
    · exact absurd (hneutral.symm.trans hempty) neutral_ne_empty
  · intro hn
    obtain ⟨outer, given, rfl, hgather, -, hbuild⟩ := exists_given_of_read h
    obtain ⟨-, -, hsentiment, -, -⟩ := build_eq_ok_iff.1 hbuild
    rw [lookup_gather_of_mem (by decide) hn hgather] at hsentiment
    exact (Except.ok.inj hsentiment).symm

/-- **A sentiment counts as the list that begins with it, unless it is the empty text.** Let an
object be read as an analysis. With any value for a sentiment and with a list that begins with this
value it is read as the same analysis, with the label of the value, if and only if the value is not
the empty text and the list does not nest too deep. The list always gives the label, which says
something. A sentiment that says nothing is read of the empty text alone, and without a sentiment
it is neutral. -/
theorem sentiment_listed_iff {before after : List (Key × Node)} {ending : ObjectEnd}
    {given : Option Json} (hbefore : ∀ m ∈ before, m.1 ≠ .ok "sentiment")
    (hafter : ∀ m ∈ after, m.1 ≠ .ok "sentiment")
    (h : reader depth (withSentiment before after ending given) = .ok a)
    (hv : ∀ items, v ≠ .list items) (rest : List Json) :
    ((∃ b, reader depth (withSentiment before after ending (some v)) = .ok b ∧
        reader depth (withSentiment before after ending (some (.list (v :: rest)))) = .ok b ∧
        b.sentiment = labelOf v) ↔
      v ≠ .text "" ∧ (Json.list (v :: rest)).nesting < depth) ∧
    reader depth (withSentiment before after ending (some (.list (v :: rest)))) =
      (if (Json.list (v :: rest)).nesting < depth then .ok { a with sentiment := labelOf v }
        else .error .tooDeep) ∧
    labelOf v ≠ "" ∧
    ∀ members ending b, reader depth (.object members ending) = .ok b →
      (b.sentiment = "" ↔ (.ok "sentiment", .text (.ok "")) ∈ members) ∧
        ((∀ m ∈ members, m.1 ≠ .ok "sentiment") → b.sentiment = neutral) := by
  have hlisted := reader_withSentiment hbefore hafter h (.list (v :: rest))
  rw [settled, settledItems, sentimentOf_list, labelOf_settled] at hlisted
  have hscalar := reader_withSentiment hbefore hafter h v
  rw [sentimentOf_settled hv] at hscalar
  refine ⟨?_, hlisted, labelOf_ne_empty v,
    fun members ending b hb ↦ ⟨sentiment_eq_empty_iff hb, fun hnone ↦ ?_⟩⟩
  · rw [hlisted, hscalar, ← sentimentOf_eq_labelOf_iff hv]
    by_cases hnesting : (Json.list (v :: rest)).nesting < depth
    · have hfirst : v.nesting < depth :=
        (Nat.lt_succ_of_le (le_max_left _ _)).trans hnesting
      rw [if_pos hnesting, if_pos hfirst]
      constructor
      · rintro ⟨b, hb, -, hlabel⟩
        rw [← Except.ok.inj hb] at hlabel
        exact ⟨hlabel, hnesting⟩
      · rintro ⟨hlabel, -⟩
        exact ⟨{ a with sentiment := labelOf v }, by rw [hlabel], rfl, rfl⟩
    · rw [if_neg hnesting]
      constructor
      · rintro ⟨_, -, hlist, -⟩
        cases hlist
      · exact fun hboth ↦ absurd hboth.2 hnesting
  · obtain ⟨n, hn, -⟩ | ⟨-, hneutral⟩ := sentiment_of_reader hb
    · exact absurd rfl (hnone _ hn)
    · exact hneutral

theorem sentiment_listed_iff_positive :
    ∃ b, reader.run (Json.object [("summary", .text "Fine"),
          ("sentiment", .text "positive")]).compact = .ok b ∧
      reader.run (Json.object [("summary", .text "Fine"),
          ("sentiment", .list [.text "positive", .null])]).compact = .ok b ∧
      b.sentiment = "positive" := by
  have hread : reader 127 (withSentiment [(.ok "summary", .text (.ok "Fine"))] [] .closed none) =
      .ok ⟨"Fine", [], "neutral", [], none⟩ := by
    rfl
  have hother : ∀ m ∈ [((.ok "summary", .text (.ok "Fine")) : Key × Node)],
      m.1 ≠ .ok "sentiment" :=
    List.forall_mem_singleton.2 (by simp)
  have hpositive : Json.text "positive" ≠ .text "" := by
    simp
  obtain ⟨hiff, -⟩ := sentiment_listed_iff hother (List.forall_mem_nil _) hread
    (v := .text "positive") nofun [.null]
  obtain ⟨b, hscalar, hlisted, hlabel⟩ := hiff.2 ⟨hpositive, by decide⟩
  rw [Reader.run_compact _ _ (List.forall_mem_nil _),
    Reader.run_compact _ _ (List.forall_mem_nil _)]
  exact ⟨b, hscalar, hlisted, hlabel⟩

/-- The empty text is taken for a sentiment, and the list of it is not. -/
theorem sentiment_empty_not_listed :
    (reader.run "\x7b\"sentiment\":\"\"\x7d").toOption.map Analysis.sentiment = some "" ∧
      (reader.run "\x7b\"sentiment\":[\"\"]\x7d").toOption.map Analysis.sentiment =
        some "neutral" := by
  decide +kernel

end Analysis

end BlockQuery
