import BlockQuery.Json.Token
import BlockQuery.Json.Value
import Mathlib.Data.List.Basic

/-!
# Texts between quotes are read back

What is written between quotes is cut into one piece for each character, and that piece stands for
the character (`exists_piece`). No escape that is written is half of a surrogate pair, so the pieces
do not depend on each other and a text is read back character by character, whatever follows the
closing quote (`ofTextScan_textChars`).
-/

namespace BlockQuery.Json

/-! ### One character -/

/-- The four digits of a control character denote it. -/
theorem hexCode?_controlDigits {n : ℕ} (hn : n < 0x20) :
    hexCode? '0' '0' (n / 16).digitChar (n % 16).digitChar = some n := by
  have hall : ∀ n < 0x20, hexCode? '0' '0' (n / 16).digitChar (n % 16).digitChar = some n := by
    decide
  exact hall n hn

/-- A character that is written as itself is scanned as itself. -/
theorem scanText_cons_of_plain {c : Char} (hquote : c ≠ '"') (hslash : c ≠ '\\')
    (hcontrol : ¬c.toNat < 0x20) (cs : List Char) :
    scanText (c :: cs) = (scanText cs).cons (.char c) := by
  rw [scanText.eq_def]
  split
  case h_7 d ds _ _ _ _ hcons =>
    obtain ⟨rfl, rfl⟩ := List.cons.inj hcons
    exact if_neg hcontrol
  all_goals simp_all

/-- A code outside the surrogates stands for one character, whatever comes behind it. -/
theorem pieceChars_code {n : ℕ} (hn : n < 0x20) (ending : TextEnd) (ps : List Piece) :
    pieceChars ending (.code n :: ps) = (pieceChars ending ps).map (Char.ofNat n :: ·) := by
  have hlow : isLowSurrogate n = false := by
    simp only [isLowSurrogate, Bool.and_eq_false_iff, decide_eq_false_iff_not]
    omega
  have hhigh : isHighSurrogate n = false := by
    simp only [isHighSurrogate, Bool.and_eq_false_iff, decide_eq_false_iff_not]
    omega
  rw [pieceChars.eq_def]
  simp [hlow, hhigh]

/-- **Every character is written as one piece that stands for it.** -/
theorem exists_piece (c : Char) :
    ∃ p : Piece, (∀ cs, scanText (escapeChar c ++ cs) = (scanText cs).cons p) ∧
      ∀ ending ps, pieceChars ending (p :: ps) = (pieceChars ending ps).map (c :: ·) := by
  -- a character is written with a short escape, by its code, or as itself
  by_cases hescaped : c ∈ ['"', '\\', '\x08', '\x0c', '\n', '\r', '\t']
  · refine ⟨.char c, fun cs ↦ ?_, fun ending ps ↦ by rw [pieceChars.eq_def]⟩
    simp only [List.mem_cons, List.not_mem_nil, or_false] at hescaped
    rcases hescaped with rfl | rfl | rfl | rfl | rfl | rfl | rfl <;> rfl
  · simp only [List.mem_cons, List.not_mem_nil, or_false, not_or] at hescaped
    obtain ⟨hquote, hslash, hb, hf, hn, hr, ht⟩ := hescaped
    by_cases hcontrol : c.toNat < 0x20
    · refine ⟨.code c.toNat, fun cs ↦ ?_, fun ending ps ↦ ?_⟩
      · have hwritten : escapeChar c = '\\' :: 'u' :: controlDigits c.toNat := by
          simp [escapeChar, hquote, hslash, hb, hf, hn, hr, ht, hcontrol]
        rw [hwritten, controlDigits, List.cons_append, List.cons_append, List.cons_append,
          List.cons_append, List.cons_append, List.cons_append, List.nil_append, scanText,
          hexCode?_controlDigits hcontrol]
      · rw [pieceChars_code hcontrol, Char.ofNat_toNat]
    · refine ⟨.char c, fun cs ↦ ?_, fun ending ps ↦ by rw [pieceChars.eq_def]⟩
      have hwritten : escapeChar c = [c] := by
        simp [escapeChar, hquote, hslash, hb, hf, hn, hr, ht, hcontrol]
      rw [hwritten, List.singleton_append, scanText_cons_of_plain hquote hslash hcontrol]

/-! ### A whole text -/

/-- **What was escaped is cut into pieces that stand for it,** up to the closing quote. -/
theorem exists_pieces (cs rest : List Char) :
    ∃ ps, scanText (cs.flatMap escapeChar ++ '"' :: rest) = ⟨ps, .closed rest⟩ ∧
      pieceChars (.closed rest) ps = .ok cs := by
  induction cs with
  | nil => exact ⟨[], rfl, rfl⟩
  | cons c cs ih =>
    obtain ⟨ps, hscan, hchars⟩ := ih
    obtain ⟨p, hp, hc⟩ := exists_piece c
    refine ⟨p :: ps, ?_, ?_⟩
    · rw [List.flatMap_cons, List.append_assoc, hp, hscan]
      rfl
    · rw [hc, hchars]
      rfl

/-- **What is written between quotes is read back,** up to the closing quote. -/
theorem ofTextScan_textChars (s : String) (rest : List Char) :
    Token.ofTextScan (scanText (s.toList.flatMap escapeChar ++ '"' :: rest)) =
      (.text (.ok s), rest) := by
  obtain ⟨ps, hscan, hchars⟩ := exists_pieces s.toList rest
  rw [hscan, Token.ofTextScan]
  simp only [hchars]
  rw [Except.map, String.ofList_toList]

end BlockQuery.Json
