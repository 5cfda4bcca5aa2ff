import BlockQuery.Proofs.Block.Id

/-!
# Digits in groups

What is read as digits in groups is the text of an identifier, letter case aside
(`readGroups_eq_ok_iff`): the groups with hyphens between them are the whole text
(`intercalate_groups`), and **the lower-case digits of a number that was read are those that were
there** (`hexDigits_hexNumber`), which is what `hexNumber_hexDigits` says of a number that was
written.

Letter case comes down to single characters. The value of a digit does not depend on it, and what
stands around digits has none.
-/

namespace BlockQuery.BlockId

open Text

variable {cs : List Char} {i : BlockId}

/-! ### Letter case -/

/-- The characters that stand around digits are not letters. -/
theorem toLower_eq_iff {c x : Char} (hx : x ∈ ['-', '\x7b', '\x7d']) : c.toLower = x ↔ c = x := by
  by_cases hc : c.toNat < 0x80
  · have hall : ∀ n < 0x80, (Char.ofNat n).toLower = x ↔ Char.ofNat n = x := by
      rw [List.mem_cons, List.mem_pair] at hx
      obtain rfl | rfl | rfl := hx <;> decide +kernel
    exact Text.forall_ascii (P := fun c ↦ c.toLower = x ↔ c = x) hall c hc
  · rw [Text.toLower_eq_self (Nat.not_lt.1 hc)]

/-! ### Numbers and their digits -/

theorem hexNumber_concat (cs : List Char) (c : Char) :
    hexNumber (cs ++ [c]) = 16 * hexNumber cs + (hexValue? c).getD 0 := by
  rw [hexNumber, List.foldl_append]
  rfl

/-- Letter case does not matter to the number that digits denote. -/
theorem hexNumber_map_toLower (cs : List Char) :
    hexNumber (cs.map Char.toLower) = hexNumber cs := by
  simp only [hexNumber, List.foldl_map, hexValue?_toLower]

/-- **Digits are those of the number that they denote,** in lower case. -/
theorem hexDigits_hexNumber (h : ∀ c ∈ cs, IsHex c) :
    hexDigits cs.length (hexNumber cs) = cs.map Char.toLower ∧ hexNumber cs < 16 ^ cs.length := by
  induction cs using List.reverseRecOn with
  | nil => exact ⟨rfl, by decide⟩
  | append_singleton cs c ih =>
    obtain ⟨hcs, hc⟩ := List.forall_mem_append.1 h
    obtain ⟨n, hvalue⟩ := Option.isSome_iff_exists.1 (hc c (List.mem_singleton_self c))
    obtain ⟨hn, hlower⟩ := hexValue?_eq_some_iff.1 hvalue
    obtain ⟨hdigits, hlt⟩ := ih hcs
    have hnumber : hexNumber (cs ++ [c]) = 16 * hexNumber cs + n := by
      rw [hexNumber_concat, hvalue, Option.getD_some]
    have hdiv : (16 * hexNumber cs + n) / 16 = hexNumber cs := by omega
    have hmod : (16 * hexNumber cs + n) % 16 = n := by omega
    rw [List.length_append, List.length_singleton, List.map_append, hnumber]
    refine ⟨?_, ?_⟩
    · rw [hexDigits, hdiv, hmod, hdigits, List.map_singleton, hlower]
    · rw [pow_succ]
      omega

/-- The digits denote the bits. -/
theorem ofNat_hexNumber_digits (i : BlockId) : .ofNat 128 (hexNumber i.digits) = i.bits := by
  rw [hexNumber_digits, BitVec.ofNat_toNat, BitVec.setWidth_eq]

/-- **Thirty-two digits are those of the identifier with the bits that they denote.** -/
theorem map_toLower_eq_digits_iff :
    cs.map Char.toLower = i.digits ↔
      (∀ c ∈ cs, IsHex c) ∧ cs.length = 32 ∧ .ofNat 128 (hexNumber cs) = i.bits := by
  constructor
  · intro h
    refine ⟨fun c hc ↦ ?_, ?_, ?_⟩
    · have hlower : c.toLower ∈ i.digits := h ▸ List.mem_map_of_mem hc
      exact isHex_toLower.1 (i.isHex_of_mem_digits hlower)
    · rw [← List.length_map Char.toLower, h]
      exact i.length_digits
    · rw [← hexNumber_map_toLower, h, ofNat_hexNumber_digits]
  · rintro ⟨hhex, hlength, hbits⟩
    obtain ⟨hdigits, hlt⟩ := hexDigits_hexNumber hhex
    rw [hlength] at hdigits hlt
    have hwidth : hexNumber cs < 2 ^ 128 := hlt
    have hnumber : i.bits.toNat = hexNumber cs := by
      rw [← hbits, BitVec.toNat_ofNat, Nat.mod_eq_of_lt hwidth]
    rw [digits, hnumber, hdigits]

/-! ### Groups -/

theorem groups_ne_nil (cs : List Char) : groups cs ≠ [] := by
  induction cs with
  | nil => exact List.cons_ne_nil _ _
  | cons c cs ih =>
    rw [groups]
    split
    · exact List.cons_ne_nil _ _
    · split <;> exact List.cons_ne_nil _ _

theorem groups_cons_of_ne {c : Char} (hc : c ≠ '-') {g : List Char} {gs : List (List Char)}
    (h : groups cs = g :: gs) : groups (c :: cs) = (c :: g) :: gs := by
  rw [groups, if_neg hc, h]

/-- Groups with hyphens between them are the text. -/
theorem intercalate_groups (cs : List Char) : ['-'].intercalate (groups cs) = cs := by
  induction cs with
  | nil => rfl
  | cons c cs ih =>
    obtain ⟨g, gs, hgs⟩ := List.exists_cons_of_ne_nil (groups_ne_nil cs)
    rw [hgs] at ih
    by_cases hc : c = '-'
    · rw [groups, if_pos hc, hgs, List.intercalate_cons_cons, ih, hc]
      rfl
    · rw [groups_cons_of_ne hc hgs]
      cases gs with
      | nil => rw [List.intercalate_singleton] at ih ⊢; rw [ih]
      | cons g' gs =>
        rw [List.intercalate_cons_cons] at ih ⊢
        rw [← ih]
        rfl

/-- Hyphens have no case, so groups are cut in the same places. -/
theorem groups_map_toLower (cs : List Char) :
    groups (cs.map Char.toLower) = (groups cs).map (List.map Char.toLower) := by
  induction cs with
  | nil => rfl
  | cons c cs ih =>
    obtain ⟨g, gs, hgs⟩ := List.exists_cons_of_ne_nil (groups_ne_nil cs)
    have hhyphen := toLower_eq_iff (c := c) (x := '-') (by decide)
    by_cases hc : c = '-'
    · rw [List.map_cons, groups, if_pos (hhyphen.2 hc), groups, if_pos hc, ih]
      rfl
    · rw [hgs] at ih
      rw [List.map_cons, groups_cons_of_ne (hhyphen.not.2 hc) ih, groups_cons_of_ne hc hgs]
      rfl

/-- The groups have every character but the hyphens. -/
theorem flatten_groups (cs : List Char) : (groups cs).flatten = cs.filter (· ≠ '-') := by
  induction cs with
  | nil => rfl
  | cons c cs ih =>
    obtain ⟨g, gs, hgs⟩ := List.exists_cons_of_ne_nil (groups_ne_nil cs)
    by_cases hc : c = '-'
    · rw [groups, if_pos hc, List.flatten_cons, List.nil_append, ih,
        List.filter_cons_of_neg (by simpa using hc)]
    · rw [groups_cons_of_ne hc hgs, List.filter_cons_of_pos (by simpa using hc), ← ih, hgs]
      rfl

theorem hyphenated_cons_cons (n m : ℕ) (ns : List ℕ) (cs : List Char) :
    hyphenated (n :: m :: ns) cs = cs.take n ++ '-' :: hyphenated (m :: ns) (cs.drop n) :=
  rfl

/-- Cutting a text where its groups end puts the hyphens back. -/
theorem hyphenated_flatten (gs : List (List Char)) :
    hyphenated (gs.map List.length) gs.flatten = ['-'].intercalate gs := by
  induction gs with
  | nil => rfl
  | cons g gs ih =>
    cases gs with
    | nil => simp [hyphenated]
    | cons g' gs =>
      rw [List.map_cons] at ih
      rw [List.map_cons, List.map_cons, hyphenated_cons_cons, List.flatten_cons, List.take_left,
        List.drop_left, ih, List.intercalate_cons_cons, List.append_assoc, List.singleton_append]

theorem map_hyphenated (f : Char → Char) (hf : f '-' = '-') (ns : List ℕ) (cs : List Char) :
    (hyphenated ns cs).map f = hyphenated ns (cs.map f) := by
  induction ns generalizing cs with
  | nil => rfl
  | cons n ns ih =>
    cases ns with
    | nil => rfl
    | cons m ns =>
      rw [hyphenated_cons_cons, hyphenated_cons_cons, List.map_append, List.map_cons, hf,
        List.map_take, ih, List.map_drop]

/-! ### Reading digits in groups -/

/-- Nothing strays exactly if there is nothing but digits and hyphens. -/
theorem strayFrom?_eq_none_iff {index : ℕ} :
    strayFrom? index cs = none ↔ ∀ c ∈ cs, c = '-' ∨ IsHex c := by
  refine ⟨fun h ↦ ?_, fun h ↦ strayFrom?_eq_none h index⟩
  induction cs generalizing index with
  | nil => exact List.forall_mem_nil _
  | cons c cs ih =>
    rw [strayFrom?] at h
    split at h
    · next hc => exact List.forall_mem_cons.2 ⟨by simpa [IsHex] using hc, ih h⟩
    · cases h

/-- If no group is bad, all of them are as long as they should be. -/
theorem map_length_eq_of_badGroupFrom? {group : ℕ} {ns : List ℕ} {gs : List (List Char)}
    (hlength : gs.length = ns.length) (h : badGroupFrom? group ns gs = none) :
    gs.map List.length = ns := by
  induction ns generalizing group gs with
  | nil => rw [List.eq_nil_of_length_eq_zero hlength, List.map_nil]
  | cons n ns ih =>
    cases gs with
    | nil => cases hlength
    | cons g gs =>
      rw [badGroupFrom?] at h
      split at h
      · next hg => rw [List.map_cons, hg, ih (Nat.succ.inj hlength) h]
      · cases h

/-- What is read in groups, told by the groups: digits of the right number in each, and the bits
that all of them denote. -/
theorem readGroups_eq_ok_iff_groups {start size : ℕ} :
    readGroups start size cs = .ok i ↔
      (∀ c ∈ cs, c = '-' ∨ IsHex c) ∧ (groups cs).map List.length = groupLengths ∧
        .ofNat 128 (hexNumber (groups cs).flatten) = i.bits := by
  constructor
  · intro h
    simp only [readGroups] at h
    split at h
    · cases h
    next hstray =>
    split at h
    · cases h
    next hcount =>
    split at h
    · cases h
    · cases h
    · next hgroups =>
      have hlength : (groups cs).length = groupLengths.length := not_not.1 hcount
      obtain rfl := Except.ok.inj h
      exact ⟨strayFrom?_eq_none_iff.1 hstray, map_length_eq_of_badGroupFrom? hlength hgroups, rfl⟩
  · rintro ⟨hspelled, hlengths, hbits⟩
    have hcount : (groups cs).length = 5 := by rw [← List.length_map List.length, hlengths]; rfl
    have hgroups := badGroupFrom?_eq_none (groups cs) 0
    rw [hlengths] at hgroups
    simp only [readGroups, strayFrom?_eq_none_iff.2 hspelled, hcount, ne_eq, not_true_eq_false,
      if_false, hgroups, hbits]

/-- **Digits in groups are read as an identifier exactly if they are its text,** letter case
aside. -/
theorem readGroups_eq_ok_iff {start size : ℕ} :
    readGroups start size cs = .ok i ↔ cs.map Char.toLower = i.chars := by
  rw [readGroups_eq_ok_iff_groups]
  constructor
  · rintro ⟨hspelled, hlengths, hbits⟩
    have hhex : ∀ c ∈ (groups cs).flatten, IsHex c := by
      intro c hc
      rw [flatten_groups, List.mem_filter, decide_eq_true_eq] at hc
      exact (hspelled c hc.1).resolve_left hc.2
    have hlength : (groups cs).flatten.length = 32 := by
      rw [List.length_flatten, hlengths]
      rfl
    have hdigits := map_toLower_eq_digits_iff.2 ⟨hhex, hlength, hbits⟩
    calc cs.map Char.toLower
        = (hyphenated groupLengths (groups cs).flatten).map Char.toLower := by
          rw [← hlengths, hyphenated_flatten, intercalate_groups]
      _ = i.chars := by
          rw [map_hyphenated _ rfl, hdigits, chars, digits]
  · intro h
    have hgroups : (groups cs).map (List.map Char.toLower) =
        groupLengths.splitLengths i.digits := by
      rw [← groups_map_toLower, h, groups_chars]
    refine ⟨fun c hc ↦ ?_, ?_, ?_⟩
    · have hlower : c.toLower ∈ i.chars := h ▸ List.mem_map_of_mem hc
      exact (i.spelled_of_mem_chars hlower).1.imp (toLower_eq_iff (by decide)).1 isHex_toLower.1
    · have hlengths := congrArg (List.map List.length) hgroups
      rw [List.map_splitLengths_length _ _ i.length_digits.ge, List.map_map] at hlengths
      rw [← hlengths]
      exact List.map_congr_left fun g _ ↦ (List.length_map _).symm
    · have hflatten := congrArg List.flatten hgroups
      rw [List.flatten_splitLengths _ _ i.length_digits.le, ← List.map_flatten] at hflatten
      rw [← hexNumber_map_toLower, hflatten, ofNat_hexNumber_digits]

end BlockQuery.BlockId
