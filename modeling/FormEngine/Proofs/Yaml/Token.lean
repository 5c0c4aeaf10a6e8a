import FormEngine.Proofs.Result
import FormEngine.Yaml.Token.Lexer

/-!
# Faults of lexers

Whatever is wrong with the characters of a text, a lexer says no more than that the text is no YAML,
apart from two numbers that it has to make sense of: the version in a directive and the code in an
escape. The lemmas follow the functions of the lexer from the smallest on.
-/

namespace FormEngine.Yaml

open Result (FailsOnly failsOnly_bind_iff failsOnly_mapM)

/-- The faults of a lexer. -/
inductive IsTokenFault : Fault → Prop where
  | invalid : IsTokenFault .invalidYaml
  | version {digits : Nat} (overlong : Numeral.digitLimit < digits) :
      IsTokenFault (.integerTooLong digits)
  | escape {code : Nat} (beyond : 0x110000 ≤ code) : IsTokenFault (.noSuchCharacter code)

attribute [simp] IsTokenFault.invalid

@[simp] theorem failsOnly_quotedBreaks (steps : Nat) (cursor : Cursor) :
    FailsOnly IsTokenFault (quotedBreaks steps cursor) := by
  induction steps generalizing cursor with
  | zero => simp [quotedBreaks]
  | succ steps inductionHypothesis =>
    unfold quotedBreaks
    split
    · simp
    · dsimp only
      split
      · simp
      · simp [failsOnly_bind_iff, inductionHypothesis]

@[simp] theorem failsOnly_scanQuotedGap (cursor : Cursor) :
    FailsOnly IsTokenFault (scanQuotedGap cursor) := by
  unfold scanQuotedGap
  dsimp only
  split
  · simp [failsOnly_bind_iff]
  · simp

@[simp] theorem failsOnly_escapedCode (code : Nat) :
    FailsOnly IsTokenFault (escapedCode code) := by
  unfold escapedCode
  split
  · simp
  · next beyond => simpa using IsTokenFault.escape (Nat.le_of_not_lt beyond)

@[simp] theorem failsOnly_scanEscape (cursor : Cursor) :
    FailsOnly IsTokenFault (scanEscape cursor) := by
  unfold scanEscape
  split
  · simp
  · split
    · simp
    · dsimp only
      split
      · simp [failsOnly_bind_iff]
      · simp
    · simp
    · simp

@[simp] theorem failsOnly_scanQuoted (double : Bool) (steps : Nat) (text : List Char)
    (cursor : Cursor) : FailsOnly IsTokenFault (scanQuoted double steps text cursor) := by
  induction steps generalizing text cursor with
  | zero => simp [scanQuoted]
  | succ steps inductionHypothesis =>
    unfold scanQuoted
    split
    · simp
    · simp [failsOnly_bind_iff, inductionHypothesis]

@[simp] theorem failsOnly_skipEmptyLine (cursor : Cursor) :
    FailsOnly IsTokenFault (skipEmptyLine cursor) := by
  unfold skipEmptyLine
  dsimp only
  split <;> simp

@[simp] theorem failsOnly_scanBlock (folded : Bool) (indent : Int) (cursor : Cursor) :
    FailsOnly IsTokenFault (scanBlock folded indent cursor) := by
  have header : FailsOnly IsTokenFault (scanHeader cursor) := by
    simp [scanHeader, failsOnly_bind_iff]
  rw [scanBlock, failsOnly_bind_iff]
  refine ⟨header, fun parts _ => ?_⟩
  obtain ⟨given, after⟩ := parts
  dsimp only
  split <;> simp

namespace Lexer

@[simp] theorem failsOnly_scanName (cursor : Cursor) :
    FailsOnly IsTokenFault (scanName cursor) := by
  simp [scanName]

@[simp] theorem failsOnly_requireEnd (cursor : Cursor) :
    FailsOnly IsTokenFault (requireEnd cursor) := by
  simp [requireEnd]

@[simp] theorem failsOnly_scanNumber (cursor : Cursor) :
    FailsOnly IsTokenFault (scanNumber cursor) := by
  unfold scanNumber
  dsimp only
  split
  · simp
  · split
    next overlong => simpa using IsTokenFault.version overlong
    next => simp

@[simp] theorem failsOnly_scanVersion (cursor : Cursor) :
    FailsOnly IsTokenFault (scanVersion cursor) := by
  simp [scanVersion, failsOnly_bind_iff]

@[simp] theorem failsOnly_scanHandle (cursor : Cursor) :
    FailsOnly IsTokenFault (scanHandle cursor) := by
  simp [scanHandle]

@[simp] theorem failsOnly_scanTagText (cursor : Cursor) :
    FailsOnly IsTokenFault (scanTagText cursor) := by
  have unescaped (text : List Char) : FailsOnly IsTokenFault (unescapeTag text) := by
    fun_induction unescapeTag text <;> simp_all [failsOnly_bind_iff]
  simp [scanTagText, failsOnly_bind_iff, unescaped]

@[simp] theorem failsOnly_scanHandleMeaning (cursor : Cursor) :
    FailsOnly IsTokenFault (scanHandleMeaning cursor) := by
  simp [scanHandleMeaning, failsOnly_bind_iff]

@[simp] theorem failsOnly_scanDirective (cursor : Cursor) :
    FailsOnly IsTokenFault (scanDirective cursor) := by
  simp [scanDirective, failsOnly_bind_iff]

@[simp] theorem failsOnly_scanAnchor (cursor : Cursor) :
    FailsOnly IsTokenFault (scanAnchor cursor) := by
  simp [scanAnchor, failsOnly_bind_iff]

@[simp] theorem failsOnly_scanTag (cursor : Cursor) :
    FailsOnly IsTokenFault (scanTag cursor) := by
  simp [scanTag, failsOnly_bind_iff]

@[simp] theorem failsOnly_giveUp (candidate : Option KeyCandidate) :
    FailsOnly IsTokenFault (giveUp candidate) := by
  simp [giveUp]

@[simp] theorem failsOnly_dropStale (lexer : Lexer) :
    FailsOnly IsTokenFault lexer.dropStale := by
  have each (candidate : Option KeyCandidate) :
      FailsOnly IsTokenFault (giveUpStale lexer.cursor candidate) := by
    simp [giveUpStale]
  simp [dropStale, failsOnly_bind_iff, each, failsOnly_mapM]

@[simp] theorem failsOnly_dropCandidate (lexer : Lexer) :
    FailsOnly IsTokenFault lexer.dropCandidate := by
  simp [dropCandidate, failsOnly_bind_iff]

@[simp] theorem failsOnly_markCandidate (lexer : Lexer) :
    FailsOnly IsTokenFault lexer.markCandidate := by
  simp [markCandidate, failsOnly_bind_iff]

@[simp] theorem failsOnly_endContent (lexer : Lexer) :
    FailsOnly IsTokenFault lexer.endContent := by
  simp [endContent, failsOnly_bind_iff]

@[simp] theorem failsOnly_beginEntry (lexer : Lexer) (token : Token) :
    FailsOnly IsTokenFault (lexer.beginEntry token) := by
  simp [beginEntry]

/-- A closing bracket has to close one that is open. -/
@[simp] theorem failsOnly_closeFlow (lexer : Lexer) (token : Token) :
    FailsOnly IsTokenFault (lexer.closeFlow token) := by
  rw [closeFlow, failsOnly_bind_iff]
  refine ⟨failsOnly_dropCandidate lexer, fun dropped _ => ?_⟩
  split <;> simp

/-- A colon takes the candidate, or it begins a block. -/
@[simp] theorem failsOnly_takeValue (lexer : Lexer) :
    FailsOnly IsTokenFault lexer.takeValue := by
  unfold takeValue
  split <;> simp [failsOnly_bind_iff]

/-- Whatever character a token begins with, taking the token fails only with faults of a lexer. -/
theorem failsOnly_takeToken (lexer : Lexer) (c : Char) :
    FailsOnly IsTokenFault (lexer.takeToken c) := by
  simp [takeToken, takeDirective, takeMarker, openFlow, takeFlowEntry, takeBlockEntry, takeKey,
    takeNamed, takeTag, takeBlock, takeQuoted, takePlain, failsOnly_bind_iff]

/-- A step of the lexer fails only with faults of a lexer. -/
theorem failsOnly_step (lexer : Lexer) : FailsOnly IsTokenFault lexer.step := by
  rw [step, failsOnly_bind_iff]
  refine ⟨failsOnly_dropStale _, fun approached _ => ?_⟩
  dsimp only
  split <;> simp [failsOnly_bind_iff, failsOnly_takeToken]

/-- A run of the lexer ends in no other fault. -/
theorem isTokenFault_of_takeAll {steps : Nat} {lexer : Lexer} {fault : Fault}
    (ending : (takeAll steps lexer).ending = some fault) : IsTokenFault fault := by
  induction steps generalizing lexer with
  | zero =>
    cases ending
    exact .invalid
  | succ steps inductionHypothesis =>
    unfold takeAll at ending
    split at ending
    next failed =>
      cases ending
      exact failsOnly_step lexer fault failed
    next => cases ending
    next => exact inductionHypothesis ending

end Lexer

/-- The tokens of a text end in no other fault. -/
theorem isTokenFault_of_scan {text : String} {fault : Fault}
    (ending : (scan text).ending = some fault) : IsTokenFault fault := by
  unfold scan at ending
  dsimp only at ending
  split at ending
  · exact Lexer.isTokenFault_of_takeAll ending
  · cases ending
    exact .invalid

end FormEngine.Yaml
