import BlockQuery.Text.Percent
import Mathlib

/-!
# Reading percent encoding back

An encoded component is made of unreserved characters and of escapes, and it reads back as the text
that was encoded, by a reader who takes nothing else and by one who takes whatever else there is as
it is.

**Both readers see an octet at a time.** An escape stands for its octet, and an unreserved
character, which is one of ASCII, for the only octet of its UTF-8 form.
-/

namespace BlockQuery.Text.Percent

variable {c : Char} {cs : List Char}

/-! ### What may stand in an encoded component -/

/-- A text of unreserved characters and escapes. -/
inductive Spelled : List Char → Prop where
  | nil : Spelled []
  | plain {c : Char} {cs : List Char} (hc : isUnreserved c = true) (h : Spelled cs) :
      Spelled (c :: cs)
  | escaped {high low : Char} {cs : List Char} (hhigh : high ∈ alphabet) (hlow : low ∈ alphabet)
      (h : Spelled cs) : Spelled ('%' :: high :: low :: cs)

theorem isUnreserved_of_mem_alphabet (h : c ∈ alphabet) : isUnreserved c = true := by
  have hall : alphabet.all isUnreserved = true := by decide
  exact List.all_eq_true.1 hall c h

/-- No separator of an address stands in it. -/
theorem Spelled.notMem (h : Spelled cs) (hreserved : isUnreserved c = false) (hc : c ≠ '%') :
    c ∉ cs := by
  have hne : ∀ {d}, isUnreserved d = true → c ≠ d := by
    rintro d hd rfl
    rw [hreserved] at hd
    cases hd
  induction h with
  | nil => exact List.not_mem_nil
  | plain hd _ ih => exact List.not_mem_cons_of_ne_of_not_mem (hne hd) ih
  | escaped hhigh hlow _ ih =>
    simp only [List.mem_cons, not_or]
    exact ⟨hc, hne (isUnreserved_of_mem_alphabet hhigh), hne (isUnreserved_of_mem_alphabet hlow),
      ih⟩

/-! ### The digits of an octet -/

theorem high_lt (octet : UInt8) : octet.toNat / 16 < 16 := by
  have := octet.toNat_lt
  omega

theorem low_lt (octet : UInt8) : octet.toNat % 16 < 16 :=
  Nat.mod_lt _ (by decide)

theorem digit_mem_alphabet {n : ℕ} (hn : n < 16) : digit n ∈ alphabet := by
  have hall : ∀ m : Fin 16, digit m ∈ alphabet := by decide
  exact hall ⟨n, hn⟩

/-- A digit is read as the value that it was written for. -/
theorem value?_digit {n : ℕ} (hn : n < 16) : value? (digit n) = some n := by
  have hall : ∀ m : Fin 16, value? (digit m) = some m.val := by decide
  exact hall ⟨n, hn⟩

/-! ### Writing -/

/-- Octets in front are spelled as escapes. -/
theorem Spelled.escapes_append (octets : List UInt8) (h : Spelled cs) :
    Spelled (octets.flatMap escape ++ cs) := by
  induction octets with
  | nil => exact h
  | cons octet octets ih =>
    rw [List.flatMap_cons, List.append_assoc]
    exact .escaped (digit_mem_alphabet (high_lt octet)) (digit_mem_alphabet (low_lt octet)) ih

/-- **Nothing but unreserved characters and escapes is written.** -/
theorem spelled_component (cs : List Char) : Spelled (component cs) := by
  induction cs with
  | nil => exact .nil
  | cons c cs ih =>
    rw [component, List.flatMap_cons, componentChar]
    split
    · next hc => exact .plain hc ih
    · exact ih.escapes_append _

/-! ### Reading octets -/

/-- An escape in front is read as its octet, from two digits. -/
theorem decodeOctets?_escape_append (octet : UInt8) (cs : List Char) :
    decodeOctets? (escape octet ++ cs) = (decodeOctets? cs).map (octet :: ·) := by
  have hoctet : UInt8.ofNat (16 * (octet.toNat / 16) + octet.toNat % 16) = octet := by
    rw [Nat.div_add_mod, UInt8.ofNat_toNat]
  simp only [escape, List.cons_append, List.nil_append, decodeOctets?, value?_digit (high_lt octet),
    value?_digit (low_lt octet), Option.bind_eq_bind, Option.bind_some, hoctet]
  cases decodeOctets? cs <;> rfl

theorem decodeOctets?_escapes_append (octets : List UInt8) (cs : List Char) :
    decodeOctets? (octets.flatMap escape ++ cs) = (decodeOctets? cs).map (octets ++ ·) := by
  induction octets with
  | nil => simp
  | cons octet octets ih =>
    rw [List.flatMap_cons, List.append_assoc, decodeOctets?_escape_append, ih, Option.map_map]
    rfl

theorem toNat_le_of_isUnreserved (h : isUnreserved c = true) : c.toNat ≤ 127 := by
  simp only [isUnreserved, isAlphanumeric, Char.isAlphanum, Char.isAlpha, Char.isUpper,
    Char.isLower, Char.isDigit, Bool.or_eq_true, Bool.and_eq_true, decide_eq_true_eq,
    UInt32.le_iff_toNat_le] at h
  change ((((((65 ≤ c.toNat ∧ c.toNat ≤ 90) ∨ (97 ≤ c.toNat ∧ c.toNat ≤ 122)) ∨
    (48 ≤ c.toNat ∧ c.toNat ≤ 57)) ∨ c = '-') ∨ c = '_') ∨ c = '.') ∨ c = '~' at h
  rcases h with (((((h | h) | h) | rfl) | rfl) | rfl) | rfl
  · omega
  · omega
  · omega
  all_goals decide

/-- An unreserved character is one octet, its code point. -/
theorem utf8EncodeChar_of_isUnreserved (h : isUnreserved c = true) :
    String.utf8EncodeChar c = [.ofNat c.toNat] := by
  have hle : c.val.toNat ≤ 127 := toNat_le_of_isUnreserved h
  rw [String.utf8EncodeChar, if_pos hle]
  rfl

/-- An unreserved character in front is read as that octet. -/
theorem decodeOctets?_cons (h : isUnreserved c = true) (cs : List Char) :
    decodeOctets? (c :: cs) = (decodeOctets? cs).map (.ofNat c.toNat :: ·) := by
  rw [decodeOctets?, if_pos h]
  rintro _ _ _ rfl
  cases h

/-- Escaped or not, a character in front is read as its UTF-8 form. -/
theorem decodeOctets?_componentChar_append (c : Char) (cs : List Char) :
    decodeOctets? (componentChar c ++ cs) =
      (decodeOctets? cs).map (String.utf8EncodeChar c ++ ·) := by
  rw [componentChar]
  split
  · next hc =>
    rw [utf8EncodeChar_of_isUnreserved hc]
    exact decodeOctets?_cons hc cs
  · exact decodeOctets?_escapes_append _ cs

/-- An encoded component stands for the UTF-8 form of what was encoded. -/
theorem decodeOctets?_component (cs : List Char) :
    decodeOctets? (component cs) = some (cs.flatMap String.utf8EncodeChar) := by
  induction cs with
  | nil => rfl
  | cons c cs ih =>
    rw [component, List.flatMap_cons, decodeOctets?_componentChar_append, ← component, ih]
    rfl

/-- An upper-case digit has one value for all who read digits. -/
theorem hexValue?_of_value? {n : ℕ} (h : value? c = some n) : hexValue? c = some n := by
  have hall : ∀ n < 16, hexValue? (digit n) = some n := by decide
  obtain ⟨hn, hc, -⟩ := List.findIdx?_eq_some_iff_getElem.1 h
  have hdigit : digit n = c := by
    rw [← eq_of_beq hc, digit, List.getD_eq_getElem?_getD, List.getElem?_eq_getElem hn,
      Option.getD_some]
  rw [← hdigit, hall n hn]

/-- Who takes whatever there is reads what is encoded as who takes nothing else. -/
theorem looseOctets_eq_of_decodeOctets? {octets : List UInt8} (h : decodeOctets? cs = some octets) :
    looseOctets cs = octets := by
  fun_induction decodeOctets? cs generalizing octets with
  | case1 => exact Option.some.inj h
  | case2 high low cs ih =>
    obtain ⟨h, hh, l, hl, rest, hrest, hoctets⟩ : ∃ h, value? high = some h ∧ ∃ l,
        value? low = some l ∧ ∃ rest, decodeOctets? cs = some rest ∧
          .ofNat (16 * h + l) :: rest = octets := by
      simpa [Option.bind_eq_some_iff] using h
    rw [looseOctets, hexValue?_of_value? hh, hexValue?_of_value? hl, ← hoctets, ← ih hrest]
  | case3 c cs hnot hc ih =>
    obtain ⟨rest, hrest, hoctets⟩ := Option.map_eq_some_iff.1 h
    rw [looseOctets, utf8EncodeChar_of_isUnreserved hc, ← hoctets, ← ih hrest]
    · rfl
    · exact hnot
  | case4 => cases h

/-! ### Texts -/

/-- The octets of a text make that text. -/
theorem fromUTF8?_flatMap_utf8EncodeChar (s : String) :
    String.fromUTF8? ⟨(s.toList.flatMap String.utf8EncodeChar).toArray⟩ = some s := by
  have hbytes : (⟨(s.toList.flatMap String.utf8EncodeChar).toArray⟩ : ByteArray) =
      s.toByteArray := by
    rw [← String.utf8Encode_toList]
    exact ByteArray.ext List.data_toByteArray.symm
  rw [hbytes, String.fromUTF8?, dif_pos s.isValidUTF8]
  rfl

/-- The text of an encoded component. -/
def decodeText? (s : String) : Option String :=
  (decodeOctets? s.toList).bind fun octets ↦ String.fromUTF8? ⟨octets.toArray⟩

/-- **What is encoded reads back.** -/
theorem decodeText?_encodeComponent (s : String) : decodeText? (encodeComponent s) = some s := by
  rw [decodeText?, encodeComponent, String.toList_ofList, decodeOctets?_component, Option.bind_some,
    fromUTF8?_flatMap_utf8EncodeChar]

/-- Who takes whatever there is reads the same text. -/
theorem looseText?_encodeComponent (s : String) :
    looseText? (encodeComponent s).toList = some s.toList := by
  rw [looseText?, encodeComponent, String.toList_ofList,
    looseOctets_eq_of_decodeOctets? (decodeOctets?_component s.toList),
    fromUTF8?_flatMap_utf8EncodeChar, Option.map_some]

/-- Different texts are encoded differently, since each is read back. -/
theorem encodeComponent_inj {s t : String} : encodeComponent s = encodeComponent t ↔ s = t := by
  refine ⟨fun h ↦ ?_, fun h ↦ by rw [h]⟩
  have hs := decodeText?_encodeComponent s
  rw [h, decodeText?_encodeComponent] at hs
  exact (Option.some.inj hs).symm

end BlockQuery.Text.Percent
