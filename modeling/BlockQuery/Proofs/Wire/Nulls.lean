import BlockQuery.Proofs.Json.Accepted
import BlockQuery.Proofs.Json.Given
import BlockQuery.Wire.Searches
import Mathlib.Logic.Relation

/-!
# What a search service leaves out

A search service may leave out nearly everything that it knows of a tweet, and it may say `null`
instead. **For the tweets that come of it the two are the same** (`NullsAlike`), for the answer as a
whole, for every tweet in it and for the author of every tweet, in as many places at once as one
likes.

One edit puts `null` in one place. It stands in the answer itself, in a tweet, or in an author, and
a reader that does not notice an edit within a member does not notice one around it either. So it is
enough to know of each field that it takes `null` for nothing, and the readers are put together from
the inside out.

There is a tweet for each result, in the same order, and it is read from this result alone.
-/

namespace BlockQuery

open Json Json.Record

variable {α : Type} {n n' : Node}

/-! ### Edits -/

/-- One more member is `null`, under a name of which there was no member. -/
inductive AddsNull (names : List String) : Node → Node → Prop where
  | add (before after : List (Key × Node)) (ending : ObjectEnd) {name : String}
      (hname : name ∈ names) (hbefore : ∀ m ∈ before, m.1 ≠ .ok name)
      (hafter : ∀ m ∈ after, m.1 ≠ .ok name) :
      AddsNull names (.object (before ++ after) ending)
        (.object (before ++ (.ok name, .null) :: after) ending)

/-- An edit of what is given under a name. -/
inductive EditsMember (name : String) (edit : Node → Node → Prop) : Node → Node → Prop where
  | member (before after : List (Key × Node)) (ending : ObjectEnd) {n n' : Node}
      (hedit : edit n n') :
      EditsMember name edit (.object (before ++ (.ok name, n) :: after) ending)
        (.object (before ++ (.ok name, n') :: after) ending)

/-- An edit of one item. -/
inductive EditsItem (edit : Node → Node → Prop) : Node → Node → Prop where
  | item (before after : List Node) (ending : ListEnd) {n n' : Node} (hedit : edit n n') :
      EditsItem edit (.list (before ++ n :: after) ending) (.list (before ++ n' :: after) ending)

/-- What may be said of an author. -/
def UserRecord.memberNames : List String :=
  ["name", "username", "profile_pic_url"]

/-- What may be said of a tweet. -/
def TweetRecord.memberNames : List String :=
  ["tweet_id", "user", "text", "creation_date", "retweet_count", "favorite_count", "reply_count"]

/-- One more `null` in what is said of a tweet or of its author. -/
inductive TweetRecord.Edit : Node → Node → Prop where
  | own {n n' : Node} (h : AddsNull memberNames n n') : Edit n n'
  | author {n n' : Node} (h : EditsMember "user" (AddsNull UserRecord.memberNames) n n') : Edit n n'

/-- One more `null` in an answer. -/
inductive AnswerEdit : Node → Node → Prop where
  | own {n n' : Node} (h : AddsNull ["results"] n n') : AnswerEdit n n'
  | tweet {n n' : Node} (h : EditsMember "results" (EditsItem TweetRecord.Edit) n n') :
      AnswerEdit n n'

/-- The answers differ in where they say `null` and where they say nothing. -/
def NullsAlike : Node → Node → Prop :=
  Relation.EqvGen AnswerEdit

/-! ### Readers that do not notice -/

/-- A reader does not notice an edit. -/
def Unnoticed (read : Reader α) (edit : Node → Node → Prop) : Prop :=
  ∀ n n', edit n n' → ∀ depth, read depth n = read depth n'

/-- A `null` under the name of a field that may be missing is not noticed. -/
theorem unnoticed_addsNull {r : Record α} {names : List String}
    (hnames : ∀ name ∈ names, name ∈ r.fields.map Field.name)
    (hnull : ∀ name depth, r.Alike depth name (some .null) none) (title : String) :
    Unnoticed (r.read title) (AddsNull names) := by
  rintro _ _ ⟨before, after, ending, hname, hbefore, hafter⟩ depth
  exact (read_leaveOut (hnames _ hname) (hnull _ _) hbefore hafter title ending).symm

/-- An edit within a member is not noticed if the field takes both nodes alike. -/
theorem unnoticed_editsMember {r : Record α} {name : String} {edit : Node → Node → Prop}
    (hname : name ∈ r.fields.map Field.name)
    (halike : ∀ n n', edit n n' → ∀ depth, r.Alike depth name (some n) (some n'))
    (title : String) : Unnoticed (r.read title) (EditsMember name edit) := by
  rintro _ _ ⟨before, after, ending, hedit⟩ depth
  exact read_exchange hname (halike _ _ hedit _) title ending

/-- What is not noticed in an item is not noticed in a list. -/
theorem Unnoticed.listOf {read : Reader α} {edit : Node → Node → Prop}
    (h : Unnoticed read edit) : Unnoticed (Reader.listOf read) (EditsItem edit) := by
  rintro _ _ ⟨before, after, ending, hedit⟩ depth
  cases depth with
  | zero => rfl
  | succ depth => simp only [Reader.listOf, List.mapM_append, List.mapM_cons, h _ _ hedit]

theorem UserRecord.unnoticed : Unnoticed reader (AddsNull memberNames) := by
  refine unnoticed_addsNull (by decide) (fun name depth ↦ ?_) _
  iterate 2 refine Alike.seq ?_ ?_
  · exact (alike_null rfl).map _
  · exact alike_null rfl
  · exact alike_null rfl

/-- **Nothing that is edited in a tweet is noticed,** in the tweet itself or in its author. -/
theorem TweetRecord.unnoticed : Unnoticed reader Edit := by
  -- either way one goal for each field, in the order of declaration
  rintro n n' (h | h)
  · refine unnoticed_addsNull (by decide) (fun name depth ↦ ?_) _ n n' h
    iterate 6 refine Alike.seq ?_ ?_
    · exact (alike_null rfl).map _
    all_goals exact alike_null rfl
  · refine unnoticed_editsMember (by decide) (fun n n' hedit depth ↦ ?_) _ n n' h
    have hread : UserRecord.reader.optional depth n = UserRecord.reader.optional depth n' := by
      have hsame := UserRecord.unnoticed n n' hedit depth
      obtain ⟨before, after, ending, -, -, -⟩ := hedit
      exact congrArg (Except.map some) hsame
    iterate 6 refine Alike.seq ?_ ?_
    · exact (alike_of_ne (by decide)).map _
    · exact alike_of_read_eq hread
    all_goals exact alike_of_ne (by decide)

/-- The records of an answer are read from one member. -/
theorem unnoticed_results (title : String) :
    Unnoticed ((Record.maybe "results" (.listOf TweetRecord.reader)).read title) AnswerEdit := by
  rintro n n' (h | h)
  · have hnull name depth : (Record.maybe "results" (.listOf TweetRecord.reader)).Alike depth name
        (some .null) none := alike_null rfl
    exact unnoticed_addsNull (fun _ ↦ id) hnull title n n' h
  · refine unnoticed_editsMember List.mem_cons_self (fun n n' hedit depth ↦ ?_) title n n' h
    have hsame := TweetRecord.unnoticed.listOf n n' hedit depth
    obtain ⟨before, after, ending, -⟩ := hedit
    exact alike_of_read_eq (congrArg (Except.map some) hsame)

theorem NullsAlike.answerReader_eq (h : NullsAlike n n') (depth : ℕ) :
    Tweet.answerReader depth n = Tweet.answerReader depth n' := by
  induction h with
  | rel n n' hedit => rw [Tweet.answerReader, Tweet.answerReader, unnoticed_results _ n n' hedit]
  | refl => rfl
  | symm n n' _ ih => exact ih.symm
  | trans n m n' _ _ ih ih' => exact ih.trans ih'

/-! ### Results -/

/-- The results that the members of an answer state. If they state none there are none. -/
inductive StatesResults (members : List (Key × Node)) : List Node → Prop where
  | given {items : List Node} {ending : ListEnd}
      (h : (.ok "results", .list items ending) ∈ members) : StatesResults members items
  | missing (h : ∀ n, (.ok "results", n) ∈ members → n = .null) : StatesResults members []

/-- The tweet is what is read of the result. -/
def IsReadOf (depth : ℕ) (result : Node) (t : Tweet) : Prop :=
  (TweetRecord.reader depth result).map TweetRecord.tweet = .ok t

/-- The tweets of an answer come from what is given as its results, if anything is. -/
theorem exists_records_of_answerReader {depth : ℕ} {members : List (Key × Node)}
    {ending : ObjectEnd} {tweets : List Tweet}
    (h : Tweet.answerReader depth (.object members ending) = .ok tweets) :
    ∃ records : Option (List TweetRecord), tweets = (records.getD []).map TweetRecord.tweet ∧
      (∀ n, (.ok "results", n) ∈ members →
        (Reader.listOf TweetRecord.reader).optional (depth - 1) n = .ok records) ∧
      ((∀ n, (.ok "results", n) ∈ members → n = .null) → records = none) := by
  obtain ⟨records, hread, htweets⟩ := bind_eq_ok.1 h
  obtain ⟨outer, given, rfl, hgather, -, hbuild⟩ := exists_given_of_read hread
  change ((given.lookup "results").map _).getD _ = _ at hbuild
  have hgiven : ∀ n, (.ok "results", n) ∈ members →
      (Reader.listOf TweetRecord.reader).optional outer n = .ok records := by
    intro n hn
    rw [lookup_gather_of_mem List.mem_cons_self hn hgather] at hbuild
    exact hbuild
  refine ⟨records, (Except.ok.inj htweets).symm, hgiven, fun hnull ↦ ?_⟩
  obtain ⟨n, hn, -⟩ | ⟨-, hlookup⟩ := lookup_gather_cases List.mem_cons_self hgather
  · obtain rfl := hnull n hn
    exact (Except.ok.inj (hgiven _ hn)).symm
  · rw [hlookup] at hbuild
    exact (Except.ok.inj hbuild).symm

/-- An answer that is read states its results. -/
theorem exists_statesResults {depth : ℕ} {members : List (Key × Node)} {ending : ObjectEnd}
    {tweets : List Tweet} (h : Tweet.answerReader depth (.object members ending) = .ok tweets) :
    ∃ results, StatesResults members results := by
  obtain ⟨records, -, hgiven, hmissing⟩ := exists_records_of_answerReader h
  by_cases hnull : ∀ n, (.ok "results", n) ∈ members → n = .null
  · exact ⟨[], .missing hnull⟩
  · push Not at hnull
    obtain ⟨n, hn, hne⟩ := hnull
    cases records with
    | none => exact absurd (Reader.optional_eq_ok_none (hgiven n hn)) hne
    | some records =>
      have hread := Reader.optional_eq_ok_some (hgiven n hn)
      obtain ⟨_, items, -, rfl, -⟩ := Reader.listOf_eq_ok_iff.1 hread
      exact ⟨items, .given hn⟩

/-- There is a tweet for each result that an answer states, and it is read of it. -/
theorem StatesResults.forall₂_isReadOf {depth : ℕ} {members : List (Key × Node)}
    {ending : ObjectEnd} {tweets : List Tweet} {results : List Node}
    (hresults : StatesResults members results)
    (h : Tweet.answerReader depth (.object members ending) = .ok tweets) :
    List.Forall₂ (IsReadOf (depth - 2)) results tweets := by
  obtain ⟨records, rfl, hgiven, hmissing⟩ := exists_records_of_answerReader h
  cases hresults with
  | missing hnull =>
    rw [hmissing hnull]
    exact .nil
  | given hn =>
    cases records with
    | none => cases Reader.optional_eq_ok_none (hgiven _ hn)
    | some records =>
      have hread := Reader.optional_eq_ok_some (hgiven _ hn)
      obtain ⟨inner, items, hdepth, hitems, hrecords⟩ := Reader.listOf_eq_ok_iff.1 hread
      obtain ⟨rfl, rfl⟩ := Node.list.inj hitems
      have hinner : depth - 2 = inner := by omega
      rw [hinner]
      exact List.forall₂_map_right_iff.2 (hrecords.imp fun n r hr ↦ map_eq_ok.2 ⟨r, hr, rfl⟩)

/-- **The tweets of an answer do not tell `null` from nothing, and no result is lost.** Answers that
differ in nulls only are read as the same tweets, in part or as whole texts. The tweets of an answer
are those of its results, one by one. -/
theorem answerReader_normalizes :
    (∀ n n', NullsAlike n n' → ∀ depth, Tweet.answerReader depth n = Tweet.answerReader depth n') ∧
      (∀ s s', NullsAlike (Document.ofText s).root (Document.ofText s').root →
        (Document.ofText s).trailing = (Document.ofText s').trailing →
        Tweet.answerReader.run s = Tweet.answerReader.run s') ∧
      ∀ depth members ending tweets,
        Tweet.answerReader depth (.object members ending) = .ok tweets →
          (∃ results, StatesResults members results) ∧ ∀ results, StatesResults members results →
            List.Forall₂ (IsReadOf (depth - 2)) results tweets := by
  refine ⟨fun n n' h ↦ h.answerReader_eq, fun s s' h htrailing ↦ ?_, fun _ _ _ _ h ↦ ?_⟩
  · rw [Reader.run, Reader.run, Reader.runDocument, Reader.runDocument, h.answerReader_eq,
      htrailing]
  · exact ⟨exists_statesResults h, fun _ hresults ↦ hresults.forall₂_isReadOf h⟩

/-- A result that says nothing of the identifier and of the name of the author. -/
def Json.briefResult : Json :=
  .object [("text", .text "Liftoff"), ("user", .object [("username", .text "nasa")])]

/-- The same with `null` in both places. -/
def Json.fullResult : Json :=
  .object
    [("text", .text "Liftoff"), ("user", .object [("name", .null), ("username", .text "nasa")]),
      ("tweet_id", .null)]

theorem answerReader_normalizes_brief :
    Tweet.answerReader.run (Json.object [("results", .list [.briefResult])]).compact =
        Tweet.answerReader.run (Json.object [("results", .list [.fullResult])]).compact ∧
      Tweet.answerReader 127 (Json.object [("results", .list [.fullResult])]).toNode =
        .ok [⟨"", "Unknown", "nasa", "Liftoff", "", 0, 0, 0, none⟩] ∧
      List.Forall₂ (IsReadOf 125) [Json.fullResult.toNode]
        [⟨"", "Unknown", "nasa", "Liftoff", "", 0, 0, 0, none⟩] := by
  have hauthor : TweetRecord.Edit Json.briefResult.toNode
      (Json.object [("text", .text "Liftoff"),
        ("user", .object [("name", .null), ("username", .text "nasa")])]).toNode :=
    .author <| .member [_] [] .closed <|
      .add [] [_] .closed List.mem_cons_self (List.forall_mem_nil _) (by simp)
  have hid : TweetRecord.Edit (Json.object [("text", .text "Liftoff"),
        ("user", .object [("name", .null), ("username", .text "nasa")])]).toNode
      Json.fullResult.toNode :=
    .own <| .add [_, _] [] .closed List.mem_cons_self (by simp) (List.forall_mem_nil _)
  have hanswer {result result' : Node} (h : TweetRecord.Edit result result') :
      AnswerEdit (.object [(.ok "results", .list [result] .closed)] .closed)
        (.object [(.ok "results", .list [result'] .closed)] .closed) :=
    .tweet <| .member [] [] .closed <| .item [] [] .closed h
  have halike := Relation.EqvGen.trans _ _ _ (.rel _ _ (hanswer hauthor)) (.rel _ _ (hanswer hid))
  have hread : Tweet.answerReader 127 (Json.object [("results", .list [.fullResult])]).toNode =
      .ok [⟨"", "Unknown", "nasa", "Liftoff", "", 0, 0, 0, none⟩] := by
    rfl
  have hroot (result : Json) (h : result.numbers = []) :
      Document.ofText (Json.object [("results", .list [result])]).compact =
        ⟨(Json.object [("results", .list [result])]).toNode, false⟩ :=
    ofText_compact_eq _ (by simp [numbers, memberNumbers, itemNumbers, h])
  refine ⟨answerReader_normalizes.2.1 _ _ ?_ ?_, hread, ?_⟩
  · rw [hroot _ rfl, hroot _ rfl]
    exact halike
  · rw [hroot _ rfl, hroot _ rfl]
  · obtain ⟨-, hall⟩ := answerReader_normalizes.2.2 127 _ _ _ hread
    exact hall _ (.given List.mem_cons_self)

end BlockQuery
