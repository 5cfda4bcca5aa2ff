import BlockQuery.Json.Node
import BlockQuery.Proofs.Json.Tokens
import BlockQuery.Proofs.Text.Spacing

/-!
# How an object opens

Whether a text is an object shows at its first character that is no blank, even in a text that is
not JSON. A tree is built from outside in: the first token says what its root is, and no later token
changes that (`rootIsObject_step`). **The root is an object exactly if the text opens a brace**
(`isObject_root_iff`).
-/

namespace BlockQuery.Json

/-- Whether the tree is an object. -/
def Node.isObject : Node → Bool
  | object .. => true
  | _ => false

/-- Whether an object is still open. -/
def Frame.isObject : Frame → Bool
  | object .. => true
  | list .. => false

/-- Whether the token opens an object. -/
def Token.opensObject : Token → Bool
  | openObject => true
  | _ => false

/-! ### What the root will be -/

/-- Whether the outermost frame is an object or, if there is none, what lies within. -/
def outermostIsObject (frames : List Frame) (inner : Bool) : Bool :=
  frames.foldl (fun _ f ↦ f.isObject) inner

@[simp] theorem outermostIsObject_cons (f : Frame) (frames : List Frame) (inner : Bool) :
    outermostIsObject (f :: frames) inner = outermostIsObject frames f.isObject :=
  rfl

/-- Breaking off leaves what lies outermost. -/
theorem isObject_foldl_breakOff (frames : List Frame) (n : Node) :
    (frames.foldl Frame.breakOff n).isObject = outermostIsObject frames n.isObject := by
  induction frames generalizing n with
  | nil => rfl
  | cons f frames ih =>
    have hf : (f.breakOff n).isObject = f.isObject := by cases f <;> rfl
    rw [List.foldl_cons, ih, hf, outermostIsObject_cons]

namespace State

/-- Whether the root of the tree will be an object. -/
def rootIsObject : State → Bool
  | value frames => outermostIsObject frames false
  | listStart frames | nextItem _ frames | afterItem _ frames => outermostIsObject frames false
  | objectStart frames | nextKey _ frames | afterKey _ _ frames | afterMember _ frames =>
    outermostIsObject frames true
  | whole root => root.isObject
  | stuck d => d.root.isObject

/-- What is complete goes into the frame around it, so the outermost frame decides. -/
theorem rootIsObject_complete (n : Node) (frames : List Frame) :
    (complete n frames).rootIsObject = outermostIsObject frames n.isObject := by
  rcases frames with _ | ⟨_ | _, frames⟩ <;> rfl

theorem rootIsObject_breakOff (frames : List Frame) (n : Node) :
    (breakOff frames n).rootIsObject = outermostIsObject frames n.isObject :=
  isObject_foldl_breakOff frames n

/-- A token is inside whatever is open. Where nothing is, it decides itself. -/
theorem rootIsObject_startValue (frames : List Frame) (t : Token) :
    (startValue frames t).rootIsObject = outermostIsObject frames t.opensObject := by
  cases t <;> first
    | rfl
    | exact rootIsObject_complete _ frames
    | exact rootIsObject_breakOff frames _

/-- **When the input ends the root is what the state said that it would be.** -/
theorem isObject_root_finish (s : State) : s.finish.root.isObject = s.rootIsObject := by
  cases s <;> first
    | rfl
    | exact isObject_foldl_breakOff _ _

/-! ### The first token -/

theorem complete_ne_value_nil (n : Node) (frames : List Frame) : complete n frames ≠ value [] := by
  rcases frames with _ | ⟨_ | _, frames⟩ <;> exact nofun

/-- Once a token has been read, reading never starts over. -/
theorem startValue_ne_value_nil (frames : List Frame) (t : Token) :
    startValue frames t ≠ value [] := by
  cases t <;> first
    | exact complete_ne_value_nil _ frames
    | exact nofun

/-- Behind the first token a value is wanted only within a frame. -/
theorem step_ne_value_nil (s : State) (t : Token) : s.step t ≠ value [] := by
  fun_cases State.step s t <;> first
    | exact startValue_ne_value_nil _ _
    | exact complete_ne_value_nil _ _
    | exact nofun

/-- **No later token changes what the root is.** -/
theorem rootIsObject_step {s : State} (hs : s ≠ value []) (t : Token) :
    (s.step t).rootIsObject = s.rootIsObject := by
  fun_cases State.step s t
  case case1 frames =>
    -- the root is still open only where a value is wanted within no frame
    rcases frames with _ | ⟨f, frames⟩
    · exact absurd rfl hs
    · exact rootIsObject_startValue _ t
  all_goals first
    | rfl
    | exact rootIsObject_startValue _ _
    | exact rootIsObject_complete _ _
    | exact rootIsObject_breakOff _ _

/-- **All tokens but the first leave the root as it is.** -/
theorem rootIsObject_foldl {s : State} (hs : s ≠ value []) (ts : List Token) :
    (ts.foldl State.step s).rootIsObject = s.rootIsObject := by
  induction ts generalizing s with
  | nil => rfl
  | cons t ts ih => rw [List.foldl_cons, ih (s.step_ne_value_nil t), rootIsObject_step hs]

end State

/-- **The root is an object exactly if the first token opens one.** -/
theorem isObject_root_ofTokens (ts : List Token) :
    (Document.ofTokens ts).root.isObject = (ts.head?.map Token.opensObject).getD false := by
  rw [Document.ofTokens, State.isObject_root_finish]
  rcases ts with _ | ⟨t, ts⟩
  · rfl
  · rw [List.foldl_cons, State.rootIsObject_foldl (State.step_ne_value_nil _ t)]
    exact State.rootIsObject_startValue [] t

/-! ### The first character -/

/-- Neither a text nor what breaks off in one opens an object. -/
theorem opensObject_ofTextScan (t : TextScan) : (Token.ofTextScan t).1.opensObject = false := by
  rw [Token.ofTextScan]
  split <;> rfl

/-- Nothing that starts like a word opens an object. -/
theorem opensObject_scanLiteral {t : Token} (ht : t.opensObject = false) (word cs : List Char) :
    (Token.scanLiteral t word cs).1.opensObject = false := by
  rw [Token.scanLiteral]
  split
  · exact ht
  · rfl

/-- Nothing that starts like a number opens an object. -/
theorem opensObject_ofNumeralScan (n : NumeralScan) :
    (Token.ofNumeralScan n).1.opensObject = false := by
  cases n <;> rfl

/-- Only a brace opens an object. -/
theorem opensObject_scan (c : Char) (cs : List Char) :
    (Token.scan c cs).1.opensObject = (c == '\x7b') := by
  unfold Token.scan
  split
  all_goals try first
    | rfl
    | exact opensObject_ofTextScan _
    | exact opensObject_scanLiteral rfl _ _
    | exact opensObject_ofNumeralScan _
  · next c _ _ hbrace _ _ _ _ _ _ _ _ =>
    rw [beq_false_of_ne hbrace]
    split
    · exact opensObject_ofNumeralScan _
    · rfl

/-- **The root is an object exactly if the first character that is no blank is a brace.** -/
theorem isObject_root_iff {s : String} :
    (Document.ofText s).root.isObject = true ↔
      (s.toList.dropWhile Token.isSpace).head? = some '\x7b' := by
  rw [Document.ofText, isObject_root_ofTokens, Token.ofText]
  rcases hs : s.toList.dropWhile Token.isSpace with _ | ⟨c, behind⟩
  · rw [ofChars_of_dropWhile_eq_nil hs]
    simp
  · have hscan := opensObject_scan c behind
    rw [ofChars_of_dropWhile_eq_cons hs]
    split <;> simp_all

theorem isBlank_of_isSpace {c : Char} (h : Token.isSpace c = true) : Text.isBlank c = true := by
  rcases Token.isSpace_iff.1 h with rfl | rfl | rfl | rfl <;> decide

/-- A text without blanks around it opens with its first character. -/
theorem isObject_root_iff_of_flush {s : String} (hs : Text.Flush s.toList) :
    (Document.ofText s).root.isObject = true ↔ s.toList.head? = some '\x7b' := by
  obtain ⟨c, hc, hblank⟩ := hs.head
  obtain ⟨rest, hrest⟩ := List.head?_eq_some_iff.1 hc
  have hspace : ¬Token.isSpace c = true := fun h ↦ by simp [isBlank_of_isSpace h] at hblank
  rw [isObject_root_iff, hrest, List.dropWhile_cons_of_neg hspace]

end BlockQuery.Json
