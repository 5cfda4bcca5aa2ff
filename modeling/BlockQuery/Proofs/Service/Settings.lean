import BlockQuery.Proofs.Query.Omission
import BlockQuery.Service.Settings
import Mathlib.Logic.Function.Basic

/-!
# Blank variables

Someone who leaves a variable blank gives nothing for it, and settings are made as if it were not
there. This holds of every variable but one, because **settings look at the other variables only
through `given?`** (`ofLookup_congr`), which passes over blanks; the name of the environment, which
is compared as it is, is not blank where it counts. The timeout is read as soon as there is one, and
a blank is no number. Since it is read first, a blank timeout is what is complained about, whatever
else is missing.
-/

namespace BlockQuery.Settings

variable {lookup lookup₂ : String → Option String} {name value : String}

/-! ### What is given -/

/-- A variable is given if it is there and not blank. -/
theorem given?_eq_some_iff :
    given? lookup name = some value ↔ lookup name = some value ∧ Text.allBlank value = false := by
  rw [given?, Option.filter_eq_some_iff, Bool.not_eq_true']

/-- Removing a blank variable takes nothing away from what is given. -/
theorem given?_update_none (hvalue : lookup name = some value)
    (hblank : Text.allBlank value = true) :
    given? (Function.update lookup name none) = given? lookup := by
  funext other
  by_cases hother : other = name
  · subst hother
    rw [given?, given?, Function.update_self, hvalue, Option.filter_none, Option.filter_some,
      if_neg (by simp [hblank])]
  · rw [given?, given?, Function.update_of_ne hother]

/-! ### What settings are made of -/

theorem required_congr (hgiven : given? lookup = given? lookup₂) (name : String) :
    required lookup name = required lookup₂ name := by
  rw [required, required, hgiven]

/-- A text that is not blank is the value of a variable exactly if it is given. -/
theorem lookup_beq_eq_given?_beq (lookup : String → Option String) (name : String)
    (hvalue : Text.allBlank value = false) :
    (lookup name == some value) = (given? lookup name == some value) := by
  rw [Bool.eq_iff_iff, beq_iff_eq, beq_iff_eq, given?_eq_some_iff]
  exact (and_iff_left hvalue).symm

/-- **Settings are made of the timeout and of what is given.** -/
theorem ofLookup_congr (hgiven : given? lookup = given? lookup₂)
    (htimeout : readTimeout lookup = readTimeout lookup₂) : ofLookup lookup = ofLookup lookup₂ := by
  have hword : Text.allBlank "development" = false := by decide
  have hname : (lookup "NODE_ENV" == some "development") =
      (lookup₂ "NODE_ENV" == some "development") := by
    rw [lookup_beq_eq_given?_beq lookup _ hword, lookup_beq_eq_given?_beq lookup₂ _ hword, hgiven]
  simp only [ofLookup, htimeout, required_congr hgiven, hgiven, hname]

/-! ### The timeout -/

theorem readTimeout_of_blank (hvalue : lookup "REQUEST_TIMEOUT_SECS" = some value)
    (hblank : Text.allBlank value = true) :
    readTimeout lookup = .error (.invalid "REQUEST_TIMEOUT_SECS" value) := by
  have hnothing : Text.trim value.toList = [] := Text.trim_eq_nil_iff.2 (Text.allBlank_iff.1 hblank)
  rw [readTimeout, hvalue]
  simp only [hnothing]
  rfl

theorem readTimeout_update_of_ne (hname : name ≠ "REQUEST_TIMEOUT_SECS") :
    readTimeout (Function.update lookup name none) = readTimeout lookup := by
  rw [readTimeout, readTimeout, Function.update_of_ne hname.symm]

/-- A timeout that cannot be read is what is wrong first. -/
theorem ofLookup_of_readTimeout_error {f : SettingsFault} (h : readTimeout lookup = .error f) :
    ofLookup lookup = .error f := by
  rw [ofLookup, h]
  rfl

/-- If the timeout can be read, whatever else is wrong is that something is missing. -/
theorem ofLookup_ne_invalid {seconds : ℕ} (h : readTimeout lookup = .ok seconds)
    (name value : String) : ofLookup lookup ≠ .error (.invalid name value) := by
  rw [ofLookup, h]
  change (required lookup "OPENAI_API_KEY" >>= _) ≠ _
  rw [required]
  split
  · change (required lookup "RAPIDAPI_KEY" >>= _) ≠ _
    rw [required]
    split <;> rintro ⟨⟩
  · rintro ⟨⟩

/-! ### Removing a blank variable -/

/-- **A blank variable counts as not given, unless it is the timeout.** Removing a variable whose
value is empty or has nothing but blanks leaves what comes of all variables as it is, settings or
fault, exactly if it is not the timeout. A blank timeout is refused, whatever the other variables
are. -/
theorem ofLookup_update_none_iff (lookup : String → Option String) (name value : String)
    (hvalue : lookup name = some value) (hblank : ∀ c ∈ value.toList, Text.isBlank c = true) :
    (ofLookup (Function.update lookup name none) = ofLookup lookup ↔
        name ≠ "REQUEST_TIMEOUT_SECS") ∧
      (name = "REQUEST_TIMEOUT_SECS" → ofLookup lookup = .error (.invalid name value)) := by
  have hblank : Text.allBlank value = true := Text.allBlank_iff.2 hblank
  have hrefused : name = "REQUEST_TIMEOUT_SECS" →
      ofLookup lookup = .error (.invalid name value) := by
    rintro rfl
    exact ofLookup_of_readTimeout_error (readTimeout_of_blank hvalue hblank)
  refine ⟨⟨?_, fun hname ↦ ?_⟩, hrefused⟩
  · rintro hsame rfl
    have hdefault : readTimeout (Function.update lookup "REQUEST_TIMEOUT_SECS" none) =
        .ok defaultTimeout := by
      rw [readTimeout, Function.update_self]
    exact ofLookup_ne_invalid hdefault _ value (hsame.trans (hrefused rfl))
  · exact ofLookup_congr (given?_update_none hvalue hblank) (readTimeout_update_of_ne hname)

/-- Variables of which three were left blank. -/
def leftBlank (name : String) : Option String :=
  List.lookup name [("OPENAI_API_KEY", "sk"), ("OPENAI_MODEL", ""), ("RAPIDAPI_KEY", "\u3000\t"),
    ("REQUEST_TIMEOUT_SECS", " ")]

/-- Once the blank timeout is gone, a blank key is missing like one that is not there. -/
theorem ofLookup_update_none_iff_key :
    ∃ lookup : String → Option String, lookup "RAPIDAPI_KEY" = some "\u3000\t" ∧
      ofLookup lookup = .error (.missing "RAPIDAPI_KEY") ∧
      ofLookup (Function.update lookup "RAPIDAPI_KEY" none) = ofLookup lookup := by
  have hkey : Function.update leftBlank "REQUEST_TIMEOUT_SECS" none "RAPIDAPI_KEY" =
      some "\u3000\t" := by
    decide
  have hblank := Text.allBlank_iff.1 (by decide : Text.allBlank "\u3000\t" = true)
  have hsame := ofLookup_update_none_iff _ "RAPIDAPI_KEY" "\u3000\t" hkey hblank
  exact ⟨_, hkey, by decide +kernel, hsame.1.2 (by decide)⟩

/-- A blank timeout does not count as not given. -/
theorem timeout_left_blank :
    (∀ c ∈ " ".toList, Text.isBlank c = true) ∧ leftBlank "REQUEST_TIMEOUT_SECS" = some " " ∧
      ofLookup leftBlank = .error (.invalid "REQUEST_TIMEOUT_SECS" " ") ∧
      ofLookup (Function.update leftBlank "REQUEST_TIMEOUT_SECS" none) ≠ ofLookup leftBlank := by
  have hblank : Text.allBlank " " = true := by decide
  exact ⟨Text.allBlank_iff.1 hblank, by decide, by decide +kernel, by decide +kernel⟩

end BlockQuery.Settings
