import BlockQuery.Proofs.Block.Id
import BlockQuery.Proofs.Json.Integers
import BlockQuery.Proofs.Json.Records
import BlockQuery.Proofs.Wire.Proposals
import BlockQuery.Wire.Searches

/-!
# Records in data exchange are read back

Kinds, blocks, proposals, tweets and analyses are read back from the text that they are written as,
whatever their texts say and whichever optional members are there.

For each record this comes down to one member after another. `members` lists what a record states,
the members that may have nothing to say among them; that the fields make the record of these
(`makes`) says for every field that its reader undoes how its member is written. **Members that are
left out and members that are `null` are two things:** a record writes one of them for a value that
is not there, and its reader takes both.
-/

namespace BlockQuery

open Json Json.Record

/-! ### Values of fields -/

theorem Category.reader_toNode (c : Category) (depth : ℕ) :
    reader depth (text c.name).toNode = .ok c := by
  cases c <;> rfl

theorem InputKind.reader_toNode (i : InputKind) (depth : ℕ) :
    reader depth (text i.name).toNode = .ok i := by
  cases i <;> rfl

/-- Identifiers are read back from their text. -/
theorem BlockId.reader_toNode (i : BlockId) (depth : ℕ) :
    reader depth (Json.text i.text).toNode = .ok i := by
  rw [toNode, reader, i.parse_text]
  rfl

/-- Counts are read back, however large. -/
theorem Json.Reader.count_toNode (n depth : ℕ) : count depth (ofNat n).toNode = .ok n := by
  rw [ofNat, toNode, count, if_pos (Int.natCast_nonneg n), Int.toNat_natCast]

/-- Lists of texts are read back. -/
theorem Json.Reader.texts_toNode (ss : List String) (depth : ℕ) :
    listOf text (depth + 1) (list (ss.map Json.text)).toNode = .ok ss := by
  have htext (s : String) : text depth (Json.text s).toNode = .ok (id s) := rfl
  rw [listOf_toNode htext, List.map_id]

/-- A sentiment that is a text is taken as it is, even if it is empty. -/
theorem Analysis.sentimentReader_text (s : String) (depth : ℕ) :
    sentimentReader depth (text s).toNode = .ok s :=
  rfl

/-! ### Kinds -/

namespace Kind

/-- What a kind states. -/
def members (k : Kind) : List (String × Option Json) :=
  [("id", some (.text k.id)), ("type", some (.text k.type)), ("label", some (.text k.label)),
    ("category", some (.text k.category.name)), ("requiresValue", some (.bool k.needsValue)),
    ("requiresSecondValue", k.takesSecond.map .bool), ("placeholder", k.hint.map .text),
    ("placeholder2", k.secondHint.map .text), ("inputType", k.input.map fun i ↦ .text i.name)]

theorem toJson_eq_stated (k : Kind) : k.toJson = object (stated k.members) := by
  simp [toJson, members, stated]

theorem makes (k : Kind) (depth : ℕ) : record.Makes depth (givenBy k.members) k := by
  obtain ⟨id, type, label, category, needsValue, takesSecond, hint, secondHint, input⟩ := k
  iterate 8 refine Makes.seq ?_ ?_
  · exact (makes_required rfl rfl).map _
  · exact makes_required rfl rfl
  · exact makes_required rfl rfl
  · exact makes_required rfl (category.reader_toNode depth)
  · exact makes_required rfl rfl
  · exact makes_maybe rfl (by simp) fun _ ↦ rfl
  · exact makes_maybe rfl (by simp) fun _ ↦ rfl
  · exact makes_maybe rfl (by simp) fun _ ↦ rfl
  · exact makes_maybe rfl (by simp) fun i ↦ i.reader_toNode depth

/-- **A kind is read back.** -/
theorem run_compact_toJson (k : Kind) : reader.run k.toJson.compact = .ok k := by
  rw [toJson_eq_stated]
  have hinput : ReadsBack (k.input.map fun i ↦ .text i.name) := readsBack_map (fun _ ↦ rfl) _
  refine run_compact (by simp [members]) (k.makes 126) ?_ "BlockDefinition"
  simp [members, numbers, hinput]

end Kind

/-! ### Blocks -/

namespace Block

/-- What a block states. -/
def members (b : Block) : List (String × Option Json) :=
  [("id", some (.text b.id.text)), ("type", some (.text b.type)), ("label", some (.text b.label)),
    ("category", some (.text b.category.name)), ("requiresValue", some (.bool b.needsValue)),
    ("requiresSecondValue", b.takesSecond.map .bool), ("value", some (.text b.value)),
    ("value2", b.second.map .text)]

theorem toJson_eq_stated (b : Block) : b.toJson = object (stated b.members) := by
  simp [toJson, members, stated]

theorem makes (b : Block) (depth : ℕ) : record.Makes depth (givenBy b.members) b := by
  obtain ⟨id, type, label, category, needsValue, takesSecond, value, second⟩ := b
  iterate 7 refine Makes.seq ?_ ?_
  · exact (makes_required rfl (id.reader_toNode depth)).map _
  · exact makes_required rfl rfl
  · exact makes_required rfl rfl
  · exact makes_required rfl (category.reader_toNode depth)
  · exact makes_required rfl rfl
  · exact makes_maybe rfl (by simp) fun _ ↦ rfl
  · exact makes_optional rfl rfl _
  · exact makes_maybe rfl (by simp) fun _ ↦ rfl

/-- **A block is read back.** -/
theorem run_compact_toJson (b : Block) : reader.run b.toJson.compact = .ok b := by
  rw [toJson_eq_stated]
  refine run_compact (by simp [members]) (b.makes 126) ?_ "ActiveBlock"
  simp [members, numbers]

end Block

/-! ### Proposals -/

namespace Proposal

/-- **A proposal is read back.** -/
theorem run_compact_toJson (p : Proposal) : reader.run p.toJson.compact = .ok p := by
  have hnumbers : ∀ n ∈ p.toJson.numbers, n.ReadsBack := by
    rw [numbers_toJson]
    exact List.forall_mem_nil _
  rw [Reader.run_compact _ _ hnumbers]
  exact p.reader_toNode 126

/-- **An object that holds proposals is read back.** -/
theorem run_compact_replyToJson (ps : List Proposal) :
    replyReader.run (replyToJson ps).compact = .ok ps := by
  have hnone : ∀ m ∈ ([] : List (String × Json)), m.1 ≠ "blocks" := List.forall_mem_nil _
  rw [Reader.run_compact _ _ (readsBack_replyToJson ps)]
  exact (read_required_toNode "blocks" listReader 126 "NaturalLanguageReply" hnone hnone _).trans
    (listReader_toNode ps 124)

end Proposal

/-! ### Tweets -/

namespace Tweet

/-- What a tweet states. A tweet without a picture says so. -/
def members (t : Tweet) : List (String × Option Json) :=
  [("id", some (.text t.id)), ("user_name", some (.text t.userName)),
    ("user_screen_name", some (.text t.screenName)), ("text", some (.text t.text)),
    ("created_at", some (.text t.createdAt)), ("retweet_count", some (.ofNat t.retweets)),
    ("favorite_count", some (.ofNat t.favorites)), ("reply_count", some (.ofNat t.replies)),
    ("user_profile_image_url", some ((t.picture.map .text).getD .null))]

theorem toJson_eq_stated (t : Tweet) : t.toJson = object (stated t.members) :=
  rfl

theorem makes (t : Tweet) (depth : ℕ) : record.Makes depth (givenBy t.members) t := by
  obtain ⟨id, userName, screenName, text, createdAt, retweets, favorites, replies, picture⟩ := t
  iterate 8 refine Makes.seq ?_ ?_
  · exact (makes_required rfl rfl).map _
  · exact makes_required rfl rfl
  · exact makes_required rfl rfl
  · exact makes_required rfl rfl
  · exact makes_required rfl rfl
  · exact makes_required rfl (Reader.count_toNode retweets depth)
  · exact makes_required rfl (Reader.count_toNode favorites depth)
  · exact makes_required rfl (Reader.count_toNode replies depth)
  · exact makes_nullable rfl (by simp) fun _ ↦ rfl

/-- **A tweet is read back** if its counts fit in 64 bits. -/
theorem run_compact_toJson (t : Tweet) (hretweets : t.retweets < 2 ^ 64)
    (hfavorites : t.favorites < 2 ^ 64) (hreplies : t.replies < 2 ^ 64) :
    reader.run t.toJson.compact = .ok t := by
  rw [toJson_eq_stated]
  refine run_compact (by simp [members]) (t.makes 126) ?_ "Tweet"
  have hpicture : ((t.picture.map Json.text).getD .null).numbers = [] := by
    cases t.picture <;> rfl
  simp [members, numbers, ofNat, hpicture, Number.readsBack_ofNat hretweets,
    Number.readsBack_ofNat hfavorites, Number.readsBack_ofNat hreplies]

end Tweet

/-! ### Analyses -/

namespace Analysis

/-- What an analysis states. -/
def members (a : Analysis) : List (String × Option Json) :=
  [("summary", some (.text a.summary)), ("topics", some (.list (a.topics.map .text))),
    ("sentiment", some (.text a.sentiment)), ("insights", some (.list (a.insights.map .text))),
    ("relatedQuestions", a.relatedQuestions.map fun qs ↦ .list (qs.map .text))]

theorem toJson_eq_stated (a : Analysis) : a.toJson = object (stated a.members) := by
  simp [toJson, members, stated]

theorem makes (a : Analysis) (depth : ℕ) : record.Makes (depth + 1) (givenBy a.members) a := by
  obtain ⟨summary, topics, sentiment, insights, relatedQuestions⟩ := a
  iterate 4 refine Makes.seq ?_ ?_
  · exact (makes_optional rfl rfl _).map _
  · exact makes_optional rfl (Reader.texts_toNode topics depth) _
  · exact makes_optional rfl (sentimentReader_text sentiment (depth + 1)) _
  · exact makes_optional rfl (Reader.texts_toNode insights depth) _
  · exact makes_maybe rfl (by simp) fun qs ↦ Reader.texts_toNode qs depth

/-- **An analysis is read back.** -/
theorem run_compact_toJson (a : Analysis) : reader.run a.toJson.compact = .ok a := by
  rw [toJson_eq_stated]
  have htexts (ss : List String) : (list (ss.map text)).numbers = [] :=
    numbers_list_map (fun _ ↦ rfl) ss
  have hquestions : ReadsBack (a.relatedQuestions.map fun qs ↦ .list (qs.map .text)) :=
    readsBack_map htexts _
  refine run_compact (by simp [members]) (a.makes 125) ?_ "Analysis"
  simp [members, htexts, numbers.eq_def (text _), hquestions]

end Analysis

/-! ### All records -/

/-- **What is exchanged is read back as it was written.** The counts of a tweet are those of 64
bits; nothing is asked of the other records. -/
theorem exchange_roundTrip :
    (∀ k : Kind, Kind.reader.run k.toJson.compact = .ok k) ∧
    (∀ b : Block, Block.reader.run b.toJson.compact = .ok b) ∧
    (∀ p : Proposal, Proposal.reader.run p.toJson.compact = .ok p) ∧
    (∀ t : Tweet, t.retweets < 2 ^ 64 → t.favorites < 2 ^ 64 → t.replies < 2 ^ 64 →
      Tweet.reader.run t.toJson.compact = .ok t) ∧
    (∀ a : Analysis, Analysis.reader.run a.toJson.compact = .ok a) ∧
    ∀ ps : List Proposal, Proposal.replyReader.run (Proposal.replyToJson ps).compact = .ok ps :=
  ⟨Kind.run_compact_toJson, Block.run_compact_toJson, Proposal.run_compact_toJson,
    Tweet.run_compact_toJson, Analysis.run_compact_toJson, Proposal.run_compact_replyToJson⟩

/-- A tweet with the greatest count, characters that are escaped, and no picture. -/
def Tweet.remarkable : Tweet where
  id := ""
  userName := "\"Ann\" \\ Bo"
  screenName := "ann"
  text := "first\nsecond\t\x01 🚀"
  createdAt := "2024-05-01"
  retweets := 2 ^ 64 - 1
  favorites := 0
  replies := 10
  picture := none

theorem exchange_roundTrip_remarkable :
    Tweet.remarkable.retweets < 2 ^ 64 ∧
      Tweet.reader.run Tweet.remarkable.toJson.compact = .ok Tweet.remarkable :=
  ⟨by decide, exchange_roundTrip.2.2.2.1 Tweet.remarkable (by decide) (by decide) (by decide)⟩

end BlockQuery
