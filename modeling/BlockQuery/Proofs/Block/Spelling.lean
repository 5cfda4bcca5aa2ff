import BlockQuery.Proofs.Block.Groups

/-!
# Spellings of an identifier

An identifier is spelled in four forms: its digits alone, its text, and its text between braces or
behind a marker. Letters may be in either case. **A text is read as an identifier exactly if it
spells it** (`parse_eq_ok_iff`).

A text is taken apart by its size before any of its characters is looked at, so there are ways to
read digits in groups that no form takes. They lead nowhere: whatever is read in groups has the size
of the grouped spelling, and a text with such a part is read by that part (`groupedPart?`).

Different identifiers have different digits. So once the marker is taken off, two texts that are
read name the same identifier exactly if they have the same digits (`digitsOf_of_spells`).
-/

namespace BlockQuery.BlockId

open Text

variable {cs body : List Char} {i : BlockId} {s : String}

/-! ### Forms -/

/-- A text in a wrapping. -/
def Wrapping.around : Wrapping → List Char → List Char
  | bare, cs => cs
  | braced, cs => '\x7b' :: (cs ++ ['\x7d'])
  | urn, cs => urnMarker ++ cs

/-- The forms in which an identifier is spelled. -/
def forms (i : BlockId) : List (List Char) :=
  [i.digits, Wrapping.bare.around i.chars, Wrapping.braced.around i.chars,
    Wrapping.urn.around i.chars]

/-- The text is one of the forms of the identifier, letter case aside. -/
def Spells (s : String) (i : BlockId) : Prop :=
  s.toList.map Char.toLower ∈ i.forms

instance (s : String) (i : BlockId) : Decidable (Spells s i) :=
  inferInstanceAs (Decidable (_ ∈ _))

theorem mem_forms_iff :
    cs ∈ i.forms ↔ cs = i.digits ∨ ∃ w : Wrapping, cs = w.around i.chars := by
  rw [forms, List.mem_cons, List.mem_cons, List.mem_pair]
  refine or_congr_right ⟨?_, ?_⟩
  · rintro (h | h | h)
    · exact ⟨.bare, h⟩
    · exact ⟨.braced, h⟩
    · exact ⟨.urn, h⟩
  · rintro ⟨w, h⟩
    cases w with
    | bare => exact .inl h
    | braced => exact .inr (.inl h)
    | urn => exact .inr (.inr h)

/-! ### Sizes -/

/-- The text of an identifier in a wrapping is not longer than the longest spelling. -/
theorem octets_around (w : Wrapping) (i : BlockId) :
    octets (w.around i.chars) ≤ maxSize ∧
      (w = .bare ∨ octets (w.around i.chars) ≠ groupedSize) := by
  have hchars := i.octets_chars
  rw [octets_eq_sum] at hchars ⊢
  cases w with
  | bare => simp [Wrapping.around, hchars, groupedSize, maxSize]
  | braced =>
    have hopen : Char.utf8Size '\x7b' = 1 := by decide
    have hclose : Char.utf8Size '\x7d' = 1 := by decide
    simp [Wrapping.around, hchars, groupedSize, maxSize, hopen, hclose]
  | urn =>
    have hmarker : (urnMarker.map Char.utf8Size).sum = 9 := by decide
    simp [Wrapping.around, hchars, groupedSize, maxSize, hmarker]

/-! ### Taking a wrapping off -/

/-- Braces and hyphens are seen through letter case. -/
theorem head?_eq_iff_of_map_toLower (x : Char) (hx : x ∈ ['-', '\x7b', '\x7d']) :
    (cs.map Char.toLower).head? = some x ↔ cs.head? = some x := by
  cases cs with
  | nil => rfl
  | cons c cs => simp [toLower_eq_iff hx]

theorem unwrap_sublist (cs : List Char) : (unwrap cs).2.Sublist cs := by
  unfold unwrap
  split
  · exact (List.dropLast_sublist _).trans (List.tail_sublist _)
  · split
    · exact List.drop_sublist _ _
    · exact List.Sublist.refl cs

/-- The wrapping stands around what it wraps. -/
theorem map_toLower_eq_around (cs : List Char) :
    cs.map Char.toLower = (unwrap cs).1.around ((unwrap cs).2.map Char.toLower) := by
  unfold unwrap
  split
  · next h =>
    simp only [Bool.and_eq_true, decide_eq_true_eq] at h
    obtain ⟨hhead, hlast⟩ := h
    obtain ⟨rest, rfl⟩ := List.head?_eq_some_iff.1 hhead
    obtain ⟨body, hbody⟩ := List.getLast?_eq_some_iff.1 hlast
    rw [List.tail_cons] at hbody
    subst hbody
    simp [Wrapping.around]
  · split
    · next h =>
      have hcs := congrArg (List.map Char.toLower) (List.take_append_drop urnMarker.length cs)
      rw [List.map_append, h] at hcs
      exact hcs.symm
    · rfl

/-- A wrapping is taken off what it stands around. -/
theorem unwrap_of_map_toLower {w : Wrapping} (hw : w ≠ .bare)
    (h : cs.map Char.toLower = w.around i.chars) :
    (unwrap cs).2.map Char.toLower = i.chars := by
  cases w with
  | bare => exact absurd rfl hw
  | braced =>
    obtain ⟨c, rest, rfl, hc, hrest⟩ := List.map_eq_cons_iff.1 h
    obtain ⟨body, last, rfl, hbody, hlast⟩ := List.map_eq_append_iff.1 hrest
    obtain ⟨d, nothing, rfl, hd, hnothing⟩ := List.map_eq_cons_iff.1 hlast
    obtain rfl := List.map_eq_nil_iff.1 hnothing
    obtain rfl := (toLower_eq_iff (by decide)).1 hc
    obtain rfl := (toLower_eq_iff (by decide)).1 hd
    simpa [unwrap] using hbody
  | urn =>
    have hhead : cs.head? ≠ some '\x7b' := by
      intro hopen
      rw [← head?_eq_iff_of_map_toLower _ (by decide), h] at hopen
      cases hopen
    have htake : (cs.take urnMarker.length).map Char.toLower = urnMarker := by
      rw [List.map_take, h, Wrapping.around, List.take_left]
    have hdrop : (cs.drop urnMarker.length).map Char.toLower = i.chars := by
      rw [List.map_drop, h, Wrapping.around, List.drop_left]
    simpa [unwrap, hhead, htake] using hdrop

/-- **A text has a grouped part that is the text of the identifier exactly if it is this text in a
wrapping.** -/
theorem exists_groupedPart?_iff :
    (∃ body, groupedPart? cs = some body ∧ body.map Char.toLower = i.chars) ↔
      ∃ w : Wrapping, cs.map Char.toLower = w.around i.chars := by
  constructor
  · rintro ⟨body, hpart, hbody⟩
    rw [groupedPart?] at hpart
    split at hpart
    · obtain rfl := Option.some.inj hpart
      exact ⟨.bare, hbody⟩
    · simp only at hpart
      split at hpart
      · obtain rfl := Option.some.inj hpart
        exact ⟨_, (map_toLower_eq_around cs).trans (by rw [hbody])⟩
      · cases hpart
  · rintro ⟨w, h⟩
    have hsize := octets_of_map_toLower_eq h
    rcases (octets_around w i).2 with rfl | hother
    · exact ⟨cs, if_pos (hsize.trans i.octets_chars), h⟩
    · have hw : w ≠ .bare := by
        rintro rfl
        exact hother i.octets_chars
      have hbody := unwrap_of_map_toLower hw h
      have hpart := (octets_of_map_toLower_eq hbody).trans i.octets_chars
      refine ⟨(unwrap cs).2, ?_, hbody⟩
      simp [groupedPart?, hsize, hother, hpart]

/-! ### Reading -/

/-- A text of thirty-two octets is too short to have a grouped part. -/
theorem groupedPart?_eq_none_of_size (h : octets cs = 32) : groupedPart? cs = none := by
  have hpart := octets_le_of_sublist (unwrap_sublist cs)
  have hother : octets (unwrap cs).2 ≠ groupedSize := by
    rw [groupedSize]
    omega
  rw [groupedPart?, if_neg (by rw [h]; decide)]
  exact if_neg hother

/-- Where a text has no grouped part, no part of it is read in groups. -/
theorem readGroups_ne_ok_of_groupedPart? {start size : ℕ} (hpart : groupedPart? cs = none)
    (hbody : body = cs ∨ body = (unwrap cs).2) : readGroups start size body ≠ .ok i := by
  intro h
  have hsize := (octets_of_map_toLower_eq (readGroups_eq_ok_iff.1 h)).trans i.octets_chars
  rw [groupedPart?] at hpart
  split at hpart
  · cases hpart
  next hother =>
  rcases hbody with rfl | rfl
  · exact hother hsize
  · simp only at hpart
    rw [if_pos hsize] at hpart
    cases hpart

/-- Digits without hyphens are read as those of an identifier. -/
theorem isHex_of_strayFrom? (hstray : strayFrom? 0 cs = none) (hhyphen : '-' ∉ cs) :
    ∀ c ∈ cs, IsHex c := by
  intro c hc
  refine (strayFrom?_eq_none_iff.1 hstray c hc).resolve_left ?_
  rintro rfl
  exact hhyphen hc

/-- **What is read is one of the four forms.** -/
theorem mem_forms_of_parseChars (h : parseChars cs = .ok i) : cs.map Char.toLower ∈ i.forms := by
  rw [mem_forms_iff]
  simp only [parseChars] at h
  split at h
  · cases h
  split at h
  · next body hpart =>
    exact .inr (exists_groupedPart?_iff.1 ⟨body, hpart, readGroups_eq_ok_iff.1 h⟩)
  next hpart =>
  by_cases hsize : octets cs = 32
  · simp only [if_pos hsize] at h
    split at h
    · next hhyphen =>
      split at h
      · cases h
      · next hstray =>
        have hhex := isHex_of_strayFrom? hstray (by simpa using hhyphen)
        obtain rfl := Except.ok.inj h
        exact .inl (map_toLower_eq_digits_iff.2 ⟨hhex, octets_of_isHex hhex ▸ hsize, rfl⟩)
    · exact absurd h (readGroups_ne_ok_of_groupedPart? hpart (.inl rfl))
  · simp only [if_neg hsize] at h
    split at h
    · split at h <;> cases h
    · exact absurd h (readGroups_ne_ok_of_groupedPart? hpart (.inr rfl))

/-- **Each of the four forms is read,** in any mix of letter case. -/
theorem parseChars_of_mem_forms (h : cs.map Char.toLower ∈ i.forms) : parseChars cs = .ok i := by
  rcases mem_forms_iff.1 h with h | ⟨w, h⟩
  · obtain ⟨hhex, hlength, hbits⟩ := map_toLower_eq_digits_iff.1 h
    have hsize : octets cs = 32 := (octets_of_isHex hhex).trans hlength
    have hhyphen : '-' ∉ cs := fun hmem ↦ absurd (hhex _ hmem) (by decide)
    have hstray : strayFrom? 0 cs = none := strayFrom?_eq_none_iff.2 fun c hc ↦ .inr (hhex c hc)
    simp [parseChars, hsize, maxSize, groupedPart?_eq_none_of_size hsize, hhyphen, hstray, hbits]
  · obtain ⟨body, hpart, hbody⟩ := exists_groupedPart?_iff.2 ⟨w, h⟩
    have hsize : ¬maxSize < octets cs := by
      rw [octets_of_map_toLower_eq h]
      exact Nat.not_lt.2 (octets_around w i).1
    simp only [parseChars, if_neg hsize, hpart]
    exact readGroups_eq_ok_iff.2 hbody

/-- **A text is read as an identifier exactly if it spells it.** -/
theorem parse_eq_ok_iff : parse s = .ok i ↔ Spells s i :=
  ⟨mem_forms_of_parseChars, parseChars_of_mem_forms⟩

/-! ### Digits -/

/-- The characters behind the marker, if the text starts with it in either letter case. -/
def withoutMarker (cs : List Char) : List Char :=
  if (cs.take urnMarker.length).map Char.toLower = urnMarker then cs.drop urnMarker.length else cs

/-- The hexadecimal digits of a text in their order, in lower case. Those of the marker do not
count. -/
def digitsOf (s : String) : List Char :=
  ((withoutMarker s.toList).map Char.toLower).filter fun c ↦ IsHex c

/-- The marker is taken off in either letter case. -/
theorem map_withoutMarker (cs : List Char) :
    (withoutMarker cs).map Char.toLower = withoutMarker (cs.map Char.toLower) := by
  rw [withoutMarker, withoutMarker, ← List.map_take, Text.map_toLower_map_toLower]
  split
  · rw [List.map_drop]
  · rfl

/-- What does not start like the marker has none. -/
theorem withoutMarker_of_head?_ne (h : cs.head? ≠ some 'u') (hlower : cs.map Char.toLower = cs) :
    withoutMarker cs = cs := by
  refine if_neg fun hmarker ↦ h ?_
  rw [List.map_take, hlower] at hmarker
  rw [← List.take_append_drop urnMarker.length cs, hmarker]
  rfl

/-- Whoever leaves hyphens out does not see where digits were cut. -/
theorem filter_hyphenated {p : Char → Bool} (hp : p '-' = false) {ns : List ℕ} (hne : ns ≠ [])
    (cs : List Char) : (hyphenated ns cs).filter p = cs.filter p := by
  induction ns generalizing cs with
  | nil => exact absurd rfl hne
  | cons n ns ih =>
    cases ns with
    | nil => rfl
    | cons m ns =>
      rw [hyphenated_cons_cons, List.filter_append, List.filter_cons_of_neg (by simp [hp]),
        ih (List.cons_ne_nil m ns), ← List.filter_append, List.take_append_drop]

theorem filter_isHex_digits (i : BlockId) : (i.digits.filter fun c ↦ IsHex c) = i.digits :=
  List.filter_eq_self.2 fun _ hc ↦ decide_eq_true (i.isHex_of_mem_digits hc)

theorem filter_isHex_chars (i : BlockId) : (i.chars.filter fun c ↦ IsHex c) = i.digits := by
  rw [chars, filter_hyphenated (by decide) (by decide), ← digits, filter_isHex_digits]

/-- Digits and hyphens do not start like the marker. -/
theorem head?_ne_of_spelled (h : ∀ c ∈ cs, c = '-' ∨ IsHex c) : cs.head? ≠ some 'u' := by
  intro hhead
  exact absurd (h 'u' (List.mem_of_mem_head? hhead)) (by decide)

/-- **The digits of a spelling are those of the identifier.** -/
theorem digitsOf_of_spells (h : Spells s i) : digitsOf s = i.digits := by
  have hlower := Text.map_toLower_map_toLower s.toList
  rw [digitsOf, map_withoutMarker]
  rcases mem_forms_iff.1 h with h | ⟨w, h⟩ <;> rw [h] at hlower ⊢
  · have hhead := head?_ne_of_spelled fun c hc ↦ .inr (i.isHex_of_mem_digits hc)
    rw [withoutMarker_of_head?_ne hhead hlower, filter_isHex_digits]
  · cases w with
    | bare =>
      have hhead := head?_ne_of_spelled fun c hc ↦ (i.spelled_of_mem_chars hc).1
      rw [Wrapping.around] at hlower ⊢
      rw [withoutMarker_of_head?_ne hhead hlower, filter_isHex_chars]
    | braced =>
      have hopen : ¬IsHex '\x7b' := by decide
      have hclose : ¬IsHex '\x7d' := by decide
      rw [withoutMarker_of_head?_ne (by simp [Wrapping.around]) hlower, Wrapping.around]
      simp [hopen, hclose, filter_isHex_chars]
    | urn =>
      have hmarker : urnMarker.map Char.toLower = urnMarker := by decide
      rw [withoutMarker, Wrapping.around, List.take_left, if_pos hmarker, List.drop_left,
        filter_isHex_chars]

/-- Different identifiers have different digits. -/
theorem digits_inj {i' : BlockId} : i.digits = i'.digits ↔ i = i' := by
  refine ⟨fun h ↦ ?_, congrArg digits⟩
  have hnumbers := congrArg hexNumber h
  rw [hexNumber_digits, hexNumber_digits] at hnumbers
  exact congrArg BlockId.mk (BitVec.eq_of_toNat_eq hnumbers)

end BlockQuery.BlockId
