import BlockQuery.Proofs.Json.Settled

/-!
# Values on several lines

A value that is written on several lines differs from the same value without blanks in line breaks
and spaces, and all of these stand between tokens. **Blanks between tokens are not seen**
(`ofChars_newLine`), so both texts are cut into the same tokens (`ofChars_prettyChars`) and what is
known of reading what was written holds of either.

A number in front of a line break is not run into, as it is not in front of a comma.
-/

namespace BlockQuery.Json

/-! ### Blanks between tokens -/

/-- Tokens are cut off behind the blanks in front. -/
theorem ofChars_eq_of_dropWhile_eq {cs ds : List Char}
    (h : cs.dropWhile Token.isSpace = ds.dropWhile Token.isSpace) :
    Token.ofChars cs = Token.ofChars ds := by
  rcases hds : ds.dropWhile Token.isSpace with _ | ⟨c, behind⟩
  · rw [ofChars_of_dropWhile_eq_nil (h.trans hds), ofChars_of_dropWhile_eq_nil hds]
  · rw [ofChars_of_dropWhile_eq_cons (h.trans hds), ofChars_of_dropWhile_eq_cons hds]

theorem ofChars_cons_of_isSpace {c : Char} (hc : Token.isSpace c = true) (cs : List Char) :
    Token.ofChars (c :: cs) = Token.ofChars cs :=
  ofChars_eq_of_dropWhile_eq (List.dropWhile_cons_of_pos hc)

/-- Spaces between tokens are skipped, however many there are. -/
theorem ofChars_append_of_isSpace {spaces : List Char}
    (h : ∀ c ∈ spaces, Token.isSpace c = true) (cs : List Char) :
    Token.ofChars (spaces ++ cs) = Token.ofChars cs :=
  ofChars_eq_of_dropWhile_eq (List.dropWhile_append_of_pos h)

/-- **A line break and its indentation are not seen.** -/
@[simp] theorem ofChars_newLine (depth : ℕ) (cs : List Char) :
    Token.ofChars (newLine depth ++ cs) = Token.ofChars cs := by
  refine ofChars_append_of_isSpace (List.forall_mem_cons.2 ⟨rfl, fun c hc ↦ ?_⟩) cs
  rw [List.eq_of_mem_replicate hc]
  rfl

@[simp] theorem ofChars_space (cs : List Char) : Token.ofChars (' ' :: cs) = Token.ofChars cs :=
  ofChars_cons_of_isSpace rfl cs

/-- A line break ends a number. -/
theorem endsNumber_newLine (depth : ℕ) (cs : List Char) : EndsNumber (newLine depth ++ cs) :=
  endsNumber_cons (.inr (.inr (.inr rfl))) _

/-! ### The tokens of a value on several lines -/

mutual

/-- **On several lines a value has the tokens that it has without blanks,** at any depth. -/
theorem ofChars_prettyChars (depth : ℕ) (v : Json) (hv : ∀ n ∈ v.numbers, n.ReadsBack)
    {rest : List Char} (hrest : EndsNumber rest) :
    Token.ofChars (prettyChars depth v ++ rest) = v.tokens ++ Token.ofChars rest := by
  match v with
  | null => exact ofChars_cons (by decide) rfl (by simp)
  | bool true => exact ofChars_cons (by decide) rfl (by simp)
  | bool false => exact ofChars_cons (by decide) rfl (by simp)
  | number n => exact hv n (by simp [numbers]) rest hrest
  | text s => exact ofChars_textChars s rest
  | list [] => simp [prettyChars, tokens, itemTokens]
  | list (v :: vs) =>
    have hitems := ofChars_prettyItems (depth + 1) (v :: vs) (by simpa [numbers] using hv)
      (endsNumber_newLine depth (']' :: rest))
    simp [prettyChars, tokens, hitems]
  | object [] => simp [prettyChars, tokens, memberTokens]
  | object (m :: ms) =>
    have hmembers := ofChars_prettyMembers (depth + 1) (m :: ms) (by simpa [numbers] using hv)
      (endsNumber_newLine depth ('\x7d' :: rest))
    simp [prettyChars, tokens, hmembers]

theorem ofChars_prettyItems (depth : ℕ) (vs : List Json)
    (hvs : ∀ n ∈ itemNumbers vs, n.ReadsBack) {rest : List Char} (hrest : EndsNumber rest) :
    Token.ofChars (prettyItems depth vs ++ rest) = itemTokens vs ++ Token.ofChars rest := by
  match vs with
  | [] => rfl
  | [v] =>
    have hv := ofChars_prettyChars depth v (by simpa [itemNumbers] using hvs) hrest
    simp [prettyItems, itemTokens, hv]
  | v :: w :: vs =>
    have hv := ofChars_prettyChars depth v (fun n hn ↦ hvs n (by simp [itemNumbers, hn]))
      (endsNumber_cons (.inl rfl) (prettyItems depth (w :: vs) ++ rest))
    have htail := ofChars_prettyItems depth (w :: vs)
      (fun n hn ↦ hvs n (by rw [itemNumbers]; exact List.mem_append_right _ hn)) hrest
    simp [prettyItems, itemTokens, hv, htail]

theorem ofChars_prettyMembers (depth : ℕ) (ms : List (String × Json))
    (hms : ∀ n ∈ memberNumbers ms, n.ReadsBack) {rest : List Char} (hrest : EndsNumber rest) :
    Token.ofChars (prettyMembers depth ms ++ rest) = memberTokens ms ++ Token.ofChars rest := by
  match ms with
  | [] => rfl
  | [(k, v)] =>
    have hv := ofChars_prettyChars depth v (by simpa [memberNumbers] using hms) hrest
    simp [prettyMembers, memberTokens, ofChars_textChars, hv]
  | (k, v) :: m :: ms =>
    have hv := ofChars_prettyChars depth v (fun n hn ↦ hms n (by simp [memberNumbers, hn]))
      (endsNumber_cons (.inl rfl) (prettyMembers depth (m :: ms) ++ rest))
    have htail := ofChars_prettyMembers depth (m :: ms)
      (fun n hn ↦ hms n (by rw [memberNumbers]; exact List.mem_append_right _ hn)) hrest
    simp [prettyMembers, memberTokens, ofChars_textChars, hv, htail]

end

/-! ### Whole texts -/

/-- **Written either way, a value has the same tokens.** -/
theorem ofText_pretty (v : Json) (hv : ∀ n ∈ v.numbers, n.ReadsBack) :
    Token.ofText v.pretty = Token.ofText v.compact := by
  have h := ofChars_prettyChars 0 v hv endsNumber_nil
  rw [List.append_nil, ofChars_nil, List.append_nil] at h
  rw [ofText_compact v hv, Token.ofText, pretty, String.toList_ofList, h]

/-- **A value is read from its text on several lines as it is from its text without blanks.** -/
theorem Reader.run_pretty {α : Type} (read : Reader α) (v : Json)
    (hv : ∀ n ∈ v.numbers, n.ReadsBack) : read.run v.pretty = read.run v.compact := by
  rw [run, run, Document.ofText, Document.ofText, ofText_pretty v hv]

end BlockQuery.Json
