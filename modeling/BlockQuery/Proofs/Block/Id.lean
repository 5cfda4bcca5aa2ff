import BlockQuery.Block.Id
import BlockQuery.Proofs.Text.Octets
import Mathlib.Algebra.Ring.Nat
import Mathlib.Data.List.SplitLengths

/-!
# Identifiers are read back

The text of an identifier is read as that identifier (`parse_text`). It has the size of the grouped
spelling, which is taken as it is, whatever its first and last characters are; its groups are those
it was cut into, because no digit is a hyphen (`groups_hyphenated`); and **the digits of a number
denote what is left of the number when it is cut off at their width** (`hexNumber_hexDigits`), which
is all of it for 128 bits in thirty-two digits.
-/

namespace BlockQuery.BlockId

open Text

/-! ### Digits -/

/-- Only digits of values below sixteen are written. -/
theorem exists_of_mem_hexDigits {width n : ℕ} {c : Char} (hc : c ∈ hexDigits width n) :
    ∃ d < 16, c = hexDigit d := by
  induction width generalizing n with
  | zero => exact absurd hc List.not_mem_nil
  | succ width ih =>
    rw [hexDigits, List.mem_append, List.mem_singleton] at hc
    obtain hc | rfl := hc
    · exact ih hc
    · exact ⟨n % 16, Nat.mod_lt n (by decide), rfl⟩

theorem length_hexDigits (width n : ℕ) : (hexDigits width n).length = width := by
  induction width generalizing n with
  | zero => rfl
  | succ width ih => rw [hexDigits, List.length_append, ih, List.length_singleton]

/-- **Digits denote the number that they were made from,** cut off at their width. -/
theorem hexNumber_hexDigits (width n : ℕ) :
    hexNumber (hexDigits width n) = n % 16 ^ width := by
  induction width generalizing n with
  | zero => rw [pow_zero, Nat.mod_one]; rfl
  | succ width ih =>
    have hvalue := (hexDigit_spec (Nat.mod_lt n (by decide : 0 < 16))).1
    have hstep : hexNumber (hexDigits (width + 1) n) =
        16 * hexNumber (hexDigits width (n / 16)) + n % 16 := by
      rw [hexDigits, hexNumber, List.foldl_append, List.foldl_cons, List.foldl_nil, hvalue]
      rfl
    rw [hstep, ih, pow_succ', Nat.mod_mul, Nat.add_comm]

/-! ### Groups -/

theorem groups_of_not_mem {cs : List Char} (h : '-' ∉ cs) : groups cs = [cs] := by
  induction cs with
  | nil => rfl
  | cons c cs ih =>
    obtain ⟨hc, hcs⟩ := not_or.1 (List.mem_cons.not.1 h)
    rw [groups, if_neg (Ne.symm hc), ih hcs]

/-- A hyphen ends the first group. -/
theorem groups_append_hyphen {cs : List Char} (h : '-' ∉ cs) (rest : List Char) :
    groups (cs ++ '-' :: rest) = cs :: groups rest := by
  induction cs with
  | nil => rw [List.nil_append, groups, if_pos rfl]
  | cons c cs ih =>
    obtain ⟨hc, hcs⟩ := not_or.1 (List.mem_cons.not.1 h)
    rw [List.cons_append, groups, if_neg (Ne.symm hc), ih hcs]

/-- **The groups are those that the digits were cut into.** -/
theorem groups_hyphenated {ns : List ℕ} (hne : ns ≠ []) {cs : List Char} (h : '-' ∉ cs)
    (hlength : cs.length ≤ ns.sum) : groups (hyphenated ns cs) = ns.splitLengths cs := by
  induction ns generalizing cs with
  | nil => exact absurd rfl hne
  | cons n ns ih =>
    cases ns with
    | nil =>
      have htake : cs.take n = cs := List.take_of_length_le (by simpa using hlength)
      rw [hyphenated, groups_of_not_mem h, List.splitLengths_cons, htake, List.splitLengths_nil]
    | cons m ns =>
      have htake : '-' ∉ cs.take n := fun hc ↦ h (List.mem_of_mem_take hc)
      have hdrop : '-' ∉ cs.drop n := fun hc ↦ h (List.mem_of_mem_drop hc)
      have hrest : (cs.drop n).length ≤ (m :: ns).sum := by
        rw [List.length_drop]
        rw [List.sum_cons] at hlength
        omega
      rw [hyphenated, groups_append_hyphen htake, ih (List.cons_ne_nil m ns) hdrop hrest,
        List.splitLengths_cons _ _ n]
      exact List.cons_ne_nil m ns

/-- Measured by their own lengths, groups have no fault. -/
theorem badGroupFrom?_eq_none (gs : List (List Char)) (group : ℕ) :
    badGroupFrom? group (gs.map List.length) gs = none := by
  induction gs generalizing group with
  | nil => rfl
  | cons g gs ih => rw [List.map_cons, badGroupFrom?, if_pos rfl, ih]

/-- Cutting digits into groups adds nothing but hyphens. -/
theorem mem_hyphenated {ns : List ℕ} {cs : List Char} {c : Char} (hc : c ∈ hyphenated ns cs) :
    c = '-' ∨ c ∈ cs := by
  induction ns generalizing cs with
  | nil => exact absurd hc List.not_mem_nil
  | cons n ns ih =>
    cases ns with
    | nil => exact .inr hc
    | cons m ns =>
      rw [hyphenated, List.mem_append, List.mem_cons] at hc
      · obtain hc | rfl | hc := hc
        · exact .inr (List.mem_of_mem_take hc)
        · exact .inl rfl
        · exact (ih hc).imp_right List.mem_of_mem_drop
      · exact List.cons_ne_nil m ns

/-! ### Texts -/

variable (i : BlockId)

/-- The thirty-two digits of an identifier. -/
def digits : List Char :=
  hexDigits 32 i.bits.toNat

theorem length_digits : i.digits.length = groupLengths.sum :=
  length_hexDigits 32 _

/-- The digits of an identifier denote its bits, which fit in thirty-two of them. -/
theorem hexNumber_digits : hexNumber i.digits = i.bits.toNat := by
  have hbits : i.bits.toNat < 16 ^ 32 := i.bits.isLt
  rw [digits, hexNumber_hexDigits, Nat.mod_eq_of_lt hbits]

theorem isHex_of_mem_digits {c : Char} (hc : c ∈ i.digits) : IsHex c := by
  obtain ⟨d, hd, rfl⟩ := exists_of_mem_hexDigits hc
  exact isHex_hexDigit hd

theorem not_mem_digits : '-' ∉ i.digits :=
  fun h ↦ absurd (i.isHex_of_mem_digits h) (by decide)

/-- Nothing but digits and hyphens is written. -/
theorem spelled_of_mem_chars {c : Char} (hc : c ∈ i.chars) :
    (c = '-' ∨ IsHex c) ∧ c.utf8Size = 1 := by
  obtain rfl | hc := mem_hyphenated hc
  · exact ⟨.inl rfl, by decide⟩
  · have hhex := i.isHex_of_mem_digits hc
    exact ⟨.inr hhex, utf8Size_of_isHex hhex⟩

/-- Among digits and hyphens nothing is out of place. -/
theorem strayFrom?_eq_none {cs : List Char} (h : ∀ c ∈ cs, c = '-' ∨ IsHex c) (index : ℕ) :
    strayFrom? index cs = none := by
  induction cs generalizing index with
  | nil => rfl
  | cons c cs ih =>
    obtain ⟨hc, hcs⟩ := List.forall_mem_cons.1 h
    rw [strayFrom?, if_pos (by simpa [IsHex] using hc), ih hcs]

/-- The text of an identifier has the size of the grouped spelling. -/
theorem octets_chars : octets i.chars = groupedSize := by
  rw [octets_eq_length fun c hc ↦ (i.spelled_of_mem_chars hc).2]
  simp [chars, hyphenated, groupLengths, length_hexDigits, groupedSize]

/-- The groups of the text are the digits, cut as they were. -/
theorem groups_chars : groups i.chars = groupLengths.splitLengths i.digits :=
  groups_hyphenated (by decide) i.not_mem_digits i.length_digits.le

/-- **The text of an identifier is read in groups,** wherever these are said to start. -/
theorem readGroups_chars (start size : ℕ) : readGroups start size i.chars = .ok i := by
  have hstray := strayFrom?_eq_none (fun c hc ↦ (i.spelled_of_mem_chars hc).1) start
  have hgroups := badGroupFrom?_eq_none (groupLengths.splitLengths i.digits) 0
  rw [List.map_splitLengths_length _ _ i.length_digits.ge] at hgroups
  simp only [readGroups, hstray, i.groups_chars, List.length_splitLengths, hgroups,
    List.flatten_splitLengths _ _ i.length_digits.le, i.hexNumber_digits, BitVec.ofNat_toNat]
  simp [groupLengths]

/-- **The text of an identifier is read as that identifier.** -/
theorem parse_text : parse i.text = .ok i := by
  rw [parse, text, String.toList_ofList, parseChars]
  simp only [octets_chars, groupedPart?, if_true, readGroups_chars]
  rfl

end BlockQuery.BlockId
