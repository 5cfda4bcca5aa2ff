import BlockQuery.Proofs.Json.Escape

/-!
# The tokens of a written value

`Json.tokens` lists the tokens of a value as it is written. Cutting the value's text gives exactly
these (`ofChars_compactChars`), with anything behind it that does not run into the value.

Only a number can be run into: `1` in front of `2` is another number. So the statement asks that a
value is followed by a comma, a closing bracket or brace, a blank, or nothing (`EndsNumber`). That a
number is read back as it was written is not decided here; it is asked of the numbers of the value
(`Number.ReadsBack`).
-/

namespace BlockQuery

namespace Json

/-! ### Cutting the first token off -/

/-- Between tokens only four characters are blank, fewer than in a text. -/
theorem Token.isSpace_iff {c : Char} :
    isSpace c = true ↔ c = ' ' ∨ c = '\n' ∨ c = '\t' ∨ c = '\r' := by
  simp [isSpace, or_assoc]

/-- Nothing but space has no tokens. -/
theorem ofChars_of_dropWhile_eq_nil {cs : List Char} (h : cs.dropWhile Token.isSpace = []) :
    Token.ofChars cs = [] := by
  rw [Token.ofChars.eq_def]
  split
  · rfl
  · next hcons => cases h.symm.trans hcons

/-- The first token starts with the first character that is no blank. -/
theorem ofChars_of_dropWhile_eq_cons {cs behind : List Char} {c : Char}
    (h : cs.dropWhile Token.isSpace = c :: behind) :
    Token.ofChars cs =
      match Token.scan c behind with
      | (.broken b, _) => [.broken b]
      | (token, rest) => token :: Token.ofChars rest := by
  rw [Token.ofChars.eq_def]
  split
  · next hnil => cases h.symm.trans hnil
  · next hcons =>
    obtain ⟨rfl, rfl⟩ := List.cons.inj (h.symm.trans hcons)
    split <;> simp_all

/-- A well-formed token is cut off the front of a text. -/
theorem ofChars_cons {c : Char} {cs rest : List Char} {t : Token}
    (hspace : Token.isSpace c = false) (hscan : Token.scan c cs = (t, rest))
    (ht : ∀ b, t ≠ .broken b) : Token.ofChars (c :: cs) = t :: Token.ofChars rest := by
  have hdrop : (c :: cs).dropWhile Token.isSpace = c :: cs := by simp [hspace]
  rw [ofChars_of_dropWhile_eq_cons hdrop, hscan]
  split
  · next b _ h => exact absurd (Prod.mk.inj h).1 (ht b)
  · next h =>
    obtain ⟨rfl, rfl⟩ := Prod.mk.inj h
    rfl

@[simp] theorem ofChars_nil : Token.ofChars [] = [] :=
  ofChars_of_dropWhile_eq_nil rfl

/-- **A text between quotes is one token, and the text is found in it.** -/
theorem ofChars_textChars (s : String) (rest : List Char) :
    Token.ofChars (textChars s ++ rest) = .text (.ok s) :: Token.ofChars rest := by
  have hscan := ofTextScan_textChars s rest
  rw [textChars, List.append_assoc, List.cons_append, List.singleton_append]
  exact ofChars_cons (by decide) hscan (by simp)

/-- Punctuation is one token a character. -/
@[simp] theorem ofChars_comma (cs : List Char) :
    Token.ofChars (',' :: cs) = .comma :: Token.ofChars cs :=
  ofChars_cons (by decide) rfl (by simp)

@[simp] theorem ofChars_colon (cs : List Char) :
    Token.ofChars (':' :: cs) = .colon :: Token.ofChars cs :=
  ofChars_cons (by decide) rfl (by simp)

@[simp] theorem ofChars_openList (cs : List Char) :
    Token.ofChars ('[' :: cs) = .openList :: Token.ofChars cs :=
  ofChars_cons (by decide) rfl (by simp)

@[simp] theorem ofChars_closeList (cs : List Char) :
    Token.ofChars (']' :: cs) = .closeList :: Token.ofChars cs :=
  ofChars_cons (by decide) rfl (by simp)

@[simp] theorem ofChars_openObject (cs : List Char) :
    Token.ofChars ('\x7b' :: cs) = .openObject :: Token.ofChars cs :=
  ofChars_cons (by decide) rfl (by simp)

@[simp] theorem ofChars_closeObject (cs : List Char) :
    Token.ofChars ('\x7d' :: cs) = .closeObject :: Token.ofChars cs :=
  ofChars_cons (by decide) rfl (by simp)

/-! ### Values and their tokens -/

mutual

/-- The tokens of a value. -/
def tokens : Json → List Token
  | null => [.null]
  | bool b => [.bool b]
  | number n => [.number (some n)]
  | text s => [.text (.ok s)]
  | list items => .openList :: itemTokens items ++ [.closeList]
  | object members => .openObject :: memberTokens members ++ [.closeObject]

/-- The tokens of values with commas between them. -/
def itemTokens : List Json → List Token
  | [] => []
  | [v] => v.tokens
  | v :: vs => v.tokens ++ .comma :: itemTokens vs

/-- The tokens of members with commas between them. -/
def memberTokens : List (String × Json) → List Token
  | [] => []
  | [(k, v)] => .text (.ok k) :: .colon :: v.tokens
  | (k, v) :: ms => .text (.ok k) :: .colon :: (v.tokens ++ .comma :: memberTokens ms)

end

mutual

/-- The numbers of a value. -/
def numbers : Json → List Number
  | number n => [n]
  | list items => itemNumbers items
  | object members => memberNumbers members
  | _ => []

/-- The numbers of values. -/
def itemNumbers : List Json → List Number
  | [] => []
  | v :: vs => v.numbers ++ itemNumbers vs

/-- The numbers of members. -/
def memberNumbers : List (String × Json) → List Number
  | [] => []
  | (_, v) :: ms => v.numbers ++ memberNumbers ms

end

/-- Characters that a number in front of them does not run into. -/
def EndsNumber (cs : List Char) : Prop :=
  ∀ c ∈ cs.head?, c = ',' ∨ c = ']' ∨ c = '\x7d' ∨ Token.isSpace c = true

theorem endsNumber_nil : EndsNumber [] := by
  simp [EndsNumber]

/-- Whatever is written behind a number ends it. -/
theorem endsNumber_cons {c : Char} (h : c = ',' ∨ c = ']' ∨ c = '\x7d' ∨ Token.isSpace c = true)
    (cs : List Char) : EndsNumber (c :: cs) := by
  intro d hd
  obtain rfl := Option.some.inj hd
  exact h

end Json

/-- A number is cut off as it was written from whatever it does not run into. -/
def Number.ReadsBack (n : Number) : Prop :=
  ∀ rest, Json.EndsNumber rest →
    Json.Token.ofChars (Json.numberChars n ++ rest) =
      .number (some n) :: Json.Token.ofChars rest

namespace Json

mutual

/-- **The text of a value is cut into the tokens of the value.** -/
theorem ofChars_compactChars (v : Json) (hv : ∀ n ∈ v.numbers, n.ReadsBack) {rest : List Char}
    (hrest : EndsNumber rest) :
    Token.ofChars (v.compactChars ++ rest) = v.tokens ++ Token.ofChars rest := by
  match v with
  | null => exact ofChars_cons (by decide) rfl (by simp)
  | bool true => exact ofChars_cons (by decide) rfl (by simp)
  | bool false => exact ofChars_cons (by decide) rfl (by simp)
  | number n => exact hv n (by simp [numbers]) rest hrest
  | text s => exact ofChars_textChars s rest
  | list items =>
    have hitems := ofChars_compactItems items (by simpa [numbers] using hv)
      (endsNumber_cons (.inr (.inl rfl)) rest)
    simp [compactChars, tokens, hitems]
  | object members =>
    have hmembers := ofChars_compactMembers members (by simpa [numbers] using hv)
      (endsNumber_cons (.inr (.inr (.inl rfl))) rest)
    simp [compactChars, tokens, hmembers]

/-- Items are cut into their tokens, with a comma between two of them. -/
theorem ofChars_compactItems (vs : List Json) (hvs : ∀ n ∈ itemNumbers vs, n.ReadsBack)
    {rest : List Char} (hrest : EndsNumber rest) :
    Token.ofChars (compactItems vs ++ rest) = itemTokens vs ++ Token.ofChars rest := by
  match vs with
  | [] => rfl
  | [v] => exact ofChars_compactChars v (by simpa [itemNumbers] using hvs) hrest
  | v :: w :: vs =>
    have hv := ofChars_compactChars v (fun n hn ↦ hvs n (by simp [itemNumbers, hn]))
      (endsNumber_cons (.inl rfl) (compactItems (w :: vs) ++ rest))
    have htail := ofChars_compactItems (w :: vs)
      (fun n hn ↦ hvs n (by rw [itemNumbers]; exact List.mem_append_right _ hn)) hrest
    simp [compactItems, itemTokens, hv, htail]

/-- Members are cut into their tokens, with a colon behind each key. -/
theorem ofChars_compactMembers (ms : List (String × Json))
    (hms : ∀ n ∈ memberNumbers ms, n.ReadsBack) {rest : List Char} (hrest : EndsNumber rest) :
    Token.ofChars (compactMembers ms ++ rest) = memberTokens ms ++ Token.ofChars rest := by
  match ms with
  | [] => rfl
  | [(k, v)] =>
    have hv := ofChars_compactChars v (by simpa [memberNumbers] using hms) hrest
    simp [compactMembers, memberTokens, ofChars_textChars, hv]
  | (k, v) :: m :: ms =>
    have hv := ofChars_compactChars v (fun n hn ↦ hms n (by simp [memberNumbers, hn]))
      (endsNumber_cons (.inl rfl) (compactMembers (m :: ms) ++ rest))
    have htail := ofChars_compactMembers (m :: ms)
      (fun n hn ↦ hms n (by rw [memberNumbers]; exact List.mem_append_right _ hn)) hrest
    simp [compactMembers, memberTokens, ofChars_textChars, hv, htail]

end

/-- The tokens of a whole text are those of the value that was written. -/
theorem ofText_compact (v : Json) (hv : ∀ n ∈ v.numbers, n.ReadsBack) :
    Token.ofText v.compact = v.tokens := by
  have h := ofChars_compactChars v hv endsNumber_nil
  rw [List.append_nil, ofChars_nil, List.append_nil] at h
  rw [Token.ofText, compact, String.toList_ofList, h]

end Json

end BlockQuery
