import FormEngine.Proofs.Answer
import FormEngine.Proofs.Document.Tree
import FormEngine.Proofs.WebAddress
import FormEngine.Validation.Basic

/-!
# Where answers can not be validated

A rule is refused, so that its field has no validator, if its parameter is a number past the finite
range or a pattern that can not even be called malformed. A validator decides every answer but
those that can not be read as the type of the field asks or as one of its rules does: integers past
the finite range, values that hold an overlong integer, and addresses with a malformed host.
-/

namespace FormEngine

/-- Why a parameter is refused as a pattern rather than taken for a malformed one. -/
inductive Value.IsRefusedPattern (parameter : Value) : Fault → Prop
  | unwritten (overlong : parameter.hasOverlong = true) : parameter.IsRefusedPattern .integerUnwritten
  | repetition {text : String} (spelled : parameter.spell = .ok text)
      (refused : Pattern.compile text = .error .repetitionTooLarge) :
      parameter.IsRefusedPattern .repetitionTooLarge
  | count {text : String} {digits : Nat} (spelled : parameter.spell = .ok text)
      (refused : Pattern.compile text = .error (.countTooLong digits)) :
      parameter.IsRefusedPattern (.integerTooLong digits)
  | modes {text : String} (spelled : parameter.spell = .ok text)
      (refused : Pattern.compile text = .error .modesIncompatible) :
      parameter.IsRefusedPattern .patternModes

/-- Why a rule is refused on a field of a type. -/
inductive ValidationRule.IsRefused (type : FieldType) (rule : ValidationRule) : Fault → Prop
  | length (kind : rule.kind = .known .minLength ∨ rule.kind = .known .maxLength)
      (past : rule.parameter.IsPastRange) : rule.IsRefused type .integerToFloat
  | bound (kind : rule.kind = .known .min ∨ rule.kind = .known .max) (number : type = .number)
      (past : rule.parameter.IsPastRange) : rule.IsRefused type .integerToFloat
  | pattern {fault : Fault} (kind : rule.kind = .known .pattern)
      (given : rule.parameter ≠ .null ∧ rule.parameter ≠ .str "")
      (refused : rule.parameter.IsRefusedPattern fault) : rule.IsRefused type fault

variable {type : FieldType} {rule : ValidationRule} {label answer parameter : Value} {fault : Fault}

/-- A parameter is refused as a pattern if it is given and refused. -/
theorem patternStatus_eq_refused_iff :
    patternStatus parameter = .refused fault ↔
      (parameter ≠ .null ∧ parameter ≠ .str "") ∧ parameter.IsRefusedPattern fault := by
  constructor
  · intro refused
    unfold patternStatus at refused
    split at refused
    · cases refused
    next given =>
      refine ⟨not_or.mp given, ?_⟩
      split at refused
      next other isUnspelled =>
        cases refused
        obtain ⟨overlong, rfl⟩ := Value.spell_eq_error_iff.mp isUnspelled
        exact .unwritten overlong
      next text spelled =>
        split at refused
        next => cases refused
        next => cases refused
        next compiled => cases refused; exact .repetition spelled compiled
        next compiled => cases refused; exact .count spelled compiled
        next compiled => cases refused; exact .modes spelled compiled
  · rintro ⟨given, refused⟩
    rw [patternStatus, if_neg (not_or.mpr given)]
    cases refused with
    | unwritten overlong => simp [Value.spell, overlong]
    | repetition spelled refused | count spelled refused | modes spelled refused =>
      simp [spelled, refused]

/-- A length rule is refused if its bound is past the finite range. -/
theorem lengthCheck_eq_error_iff {atLeast : Bool} :
    lengthCheck atLeast parameter = .error fault ↔
      parameter.IsPastRange ∧ fault = .integerToFloat := by
  rw [← Value.number?_eq_error_iff, lengthCheck, Result.bind_eq_error_iff]
  refine or_iff_left ?_
  rintro ⟨bound, -, fails⟩
  split at fails
  · cases fails
  · split at fails <;> cases fails

/-- A bound is refused if it is past the finite range and the field asks for numbers. -/
theorem boundCheck_eq_error_iff {atLeast : Bool} :
    boundCheck atLeast type parameter = .error fault ↔
      type = .number ∧ parameter.IsPastRange ∧ fault = .integerToFloat := by
  rw [← Value.number?_eq_error_iff, boundCheck]
  split
  next other => simp [other]
  next number =>
    rw [not_not.mp number, Result.bind_eq_error_iff]
    refine Iff.trans (or_iff_left ?_) (by simp)
    rintro ⟨bound, -, fails⟩
    cases bound <;> cases fails

/-- A rule has no test, not even an empty one, exactly if it is refused. -/
theorem ruleCheck_eq_error_iff :
    ruleCheck type rule = .error fault ↔ rule.IsRefused type fault := by
  constructor
  · intro fails
    unfold ruleCheck at fails
    split at fails
    case h_2 kind | h_3 kind =>
      obtain ⟨past, rfl⟩ := lengthCheck_eq_error_iff.mp fails
      exact .length (by simp [kind]) past
    case h_5 kind =>
      unfold patternCheck at fails
      split at fails
      case h_3 refused =>
        cases fails
        obtain ⟨given, isRefused⟩ := patternStatus_eq_refused_iff.mp refused
        exact .pattern kind given isRefused
      all_goals cases fails
    case h_6 kind | h_7 kind =>
      obtain ⟨number, past, rfl⟩ := boundCheck_eq_error_iff.mp fails
      exact .bound (by simp [kind]) number past
    all_goals cases fails
  · intro refused
    cases refused with
    | length kind past =>
      rcases kind with kind | kind <;>
        simpa [ruleCheck, kind] using lengthCheck_eq_error_iff.mpr ⟨past, rfl⟩
    | bound kind number past =>
      rcases kind with kind | kind <;>
        simpa [ruleCheck, kind] using boundCheck_eq_error_iff.mpr ⟨number, past, rfl⟩
    | pattern kind given refused =>
      simp [ruleCheck, kind, patternCheck, patternStatus_eq_refused_iff.mpr ⟨given, refused⟩]

/-- Rules are compiled up to the first that is refused. -/
theorem compileRules_eq_error_iff {rules : List ValidationRule} :
    compileRules type (rules.map .proper) = .error fault ↔
      ComesTo (fun rule => ∀ other, ¬rule.IsRefused type other)
        (fun rule => rule.IsRefused type fault) rules := by
  induction rules with
  | nil => simp [compileRules]
  | cons rule rest inductionHypothesis =>
    rw [comesTo_cons, ← inductionHypothesis, ← ruleCheck_eq_error_iff, List.map_cons, compileRules,
      Entry.ruleOf, Result.ok_bind]
    cases checked : ruleCheck type rule with
    | error other =>
      have refused := ruleCheck_eq_error_iff.mp checked
      have notAccepted : ¬∀ another, ¬rule.IsRefused type another :=
        fun accepted => accepted other refused
      simp [notAccepted]
    | ok check =>
      have accepted (other : Fault) : ¬rule.IsRefused type other := by
        rw [← ruleCheck_eq_error_iff, checked]
        simp
      simp [accepted, Result.bind_eq_error_iff]

/-- How an answer can not be read as fields of a type read it. -/
inductive FieldType.StumblesOver (type : FieldType) (answer : Value) : Fault → Prop
  | number (asks : type = .number) (past : answer.IsPastRange) :
      type.StumblesOver answer .integerToFloat
  | text (asks : type = .email ∨ type = .phone ∨ type = .url) (overlong : answer.hasOverlong = true) :
      type.StumblesOver answer .integerUnwritten
  | host {text : String} {fault : Fault} (asks : type = .url) (spelled : answer.spell = .ok text)
      (malformed : WebAddress.IsMalformed (WebAddress.hostOf (Text.trimList text.toList)) fault) :
      type.StumblesOver answer fault

/-- A label that has a text makes a message with any ending. -/
theorem labelled_eq_ok (legible : label.hasOverlong = false) (ending : String) :
    labelled label ending = .ok (.str (label.text ++ " " ++ ending)) := by
  rw [labelled, Value.spell_eq_ok_iff.mpr ⟨legible, rfl⟩]
  rfl

/-- A message with a label is a text that counts, even if the label is empty. -/
theorem isText_of_labelled {message : Value} {ending : String}
    (made : labelled label ending = .ok message) :
    (∃ text, message = .str text) ∧ message.truthy = true := by
  obtain ⟨text, -, same⟩ := Result.bind_eq_ok_iff.mp made
  obtain rfl := Except.ok.inj same
  exact ⟨⟨_, rfl⟩, by simp [Value.truthy]⟩

/-- A test whose label has a text gives a verdict. -/
theorem exists_testVerdict (legible : label.hasOverlong = false) (ending : String)
    (passes : Bool) : ∃ verdict, testVerdict label ending passes = .ok verdict := by
  cases passes <;> simp [testVerdict, labelled_eq_ok legible]

/-- So it does not fail. -/
theorem testVerdict_ne_error (legible : label.hasOverlong = false) (ending : String)
    (passes : Bool) : testVerdict label ending passes ≠ .error fault := by
  obtain ⟨verdict, given⟩ := exists_testVerdict legible ending passes
  simp [given]

/-- A test accepts exactly what passes it. -/
theorem testVerdict_eq_ok_none_iff {ending : String} {passes : Bool} :
    testVerdict label ending passes = .ok none ↔ passes = true := by
  cases passes with
  | true => simp [testVerdict]
  | false => simp [testVerdict, Result.bind_eq_ok_iff]

/-- An answer is held against the type of its field unless that stumbles over it. -/
theorem typeVerdict_eq_error_iff (legible : label.hasOverlong = false) :
    typeVerdict type label answer = .error fault ↔ type.StumblesOver answer fault := by
  constructor
  · intro fails
    cases type
    case number =>
      rcases Result.bind_eq_error_iff.mp fails with unread | ⟨_, -, undecided⟩
      · obtain ⟨past, rfl⟩ := Value.number?_eq_error_iff.mp unread
        exact .number rfl past
      · exact absurd undecided (testVerdict_ne_error legible _ _)
    case date => exact absurd fails (testVerdict_ne_error legible _ _)
    case email | phone =>
      rcases Result.bind_eq_error_iff.mp fails with unspelled | ⟨_, -, undecided⟩
      · obtain ⟨overlong, rfl⟩ := Value.spell_eq_error_iff.mp unspelled
        exact .text (by simp) overlong
      · exact absurd undecided (testVerdict_ne_error legible _ _)
    case url =>
      rcases Result.bind_eq_error_iff.mp fails with unspelled | ⟨text, spelled, judged⟩
      · obtain ⟨overlong, rfl⟩ := Value.spell_eq_error_iff.mp unspelled
        exact .text (by simp) overlong
      · rcases Result.bind_eq_error_iff.mp judged with malformed | ⟨_, -, undecided⟩
        · exact .host rfl spelled (WebAddress.isValid_eq_error_iff.mp malformed)
        · exact absurd undecided (testVerdict_ne_error legible _ _)
    all_goals cases fails
  · intro stumbles
    cases stumbles with
    | number asks past =>
      simp [asks, typeVerdict, Value.number?_eq_error_iff.mpr ⟨past, rfl⟩]
    | text asks overlong =>
      have unspelled := Value.spell_eq_error_iff.mpr ⟨overlong, rfl⟩
      rcases asks with asks | asks | asks <;> simp [asks, typeVerdict, unspelled]
    | host asks spelled malformed =>
      simp [asks, typeVerdict, spelled, WebAddress.isValid_eq_error_iff.mpr malformed]

/-- How an answer can not be read as a rule reads it. -/
inductive ValidationRule.StumblesOver (rule : ValidationRule) (answer : Value) : Prop
  | length (kind : rule.kind = .known .minLength ∨ rule.kind = .known .maxLength)
      (numeric : ∃ bound, rule.parameter.number? = .ok (some bound))
      (single : answer.isCollection = false) (overlong : answer.hasOverlong = true)
  | email (kind : rule.kind = .known .emailFormat)
      (item : ComesTo (fun item => item.hasOverlong = false ∧ isEmailAddress item.text = true)
        (fun item => item.hasOverlong = true) answer.answerItems)
  | pattern {node : Pattern.Node} (kind : rule.kind = .known .pattern)
      (valid : patternStatus rule.parameter = .valid node)
      (item : ComesTo (fun item => item.hasOverlong = false ∧ node.search item.text = true)
        (fun item => item.hasOverlong = true) answer.answerItems)

/-- A rule that has no test on a field of a type, or one that an answer passes. -/
def ValidationRule.Accepts (type : FieldType) (answer : Value) (rule : ValidationRule) : Prop :=
  ∀ check, ruleCheck type rule = .ok (some check) → check answer = .ok true

/-- A rule that has a test on a field of a type, which fails on an answer. -/
def ValidationRule.FailsOn (type : FieldType) (answer : Value) (fault : Fault)
    (rule : ValidationRule) : Prop :=
  ∃ check, ruleCheck type rule = .ok (some check) ∧ check answer = .error fault

/-- A number that a value stands for has its place on the line. -/
theorem exists_point_of_number? {number : Double} (read : parameter.number? = .ok (some number)) :
    ∃ point, Point.ofDouble? number = some point := by
  have finite : number.isFinite = true := by
    have kept {other : Double} (isKept : other.finite? = some number) : number.isFinite = true := by
      unfold Double.finite? at isKept
      split at isKept
      next isFinite => exact Option.some.inj isKept ▸ isFinite
      next => cases isKept
    cases parameter with
    | int value =>
      rw [Value.number?] at read
      cases near : Double.ofInt? value with
      | none => simp [near] at read
      | some nearest =>
        rw [near] at read
        cases read
        exact kept near
    | float value => exact kept (Except.ok.inj read)
    | str text =>
      obtain ⟨value, -, isKept⟩ := Option.bind_eq_some_iff.mp (Except.ok.inj read)
      exact kept isKept
    | _ => cases read
  cases number with
  | finite negative code => exact ⟨_, rfl⟩
  | _ => cases finite

/-- The test of a length fails on a single answer that is not spelled. -/
theorem lengthCheck_failsOn_iff {atLeast : Bool} :
    (∃ check, lengthCheck atLeast parameter = .ok (some check) ∧ check answer = .error fault) ↔
      (∃ bound, parameter.number? = .ok (some bound)) ∧ answer.isCollection = false ∧
        answer.hasOverlong = true ∧ fault = .integerUnwritten := by
  constructor
  · rintro ⟨check, compiled, fails⟩
    obtain ⟨number, read, built⟩ := Result.bind_eq_ok_iff.mp compiled
    cases number with
    | none => cases built
    | some bound =>
      obtain ⟨limit, isLimit⟩ := exists_point_of_number? read
      simp only [isLimit] at built
      cases built
      rcases Result.bind_eq_error_iff.mp fails with unmeasured | ⟨_, -, decided⟩
      · exact ⟨⟨bound, read⟩, Value.answerLength_eq_error_iff.mp unmeasured⟩
      · cases decided
  · rintro ⟨⟨bound, read⟩, single⟩
    obtain ⟨limit, isLimit⟩ := exists_point_of_number? read
    refine ⟨_, by simp only [lengthCheck, read, Result.ok_bind, isLimit]; rfl, ?_⟩
    simp [Value.answerLength_eq_error_iff.mpr single]

/-- The test of a bound decides every answer that is read as a number. -/
theorem boundCheck_not_failsOn {atLeast : Bool} {check : Check}
    (compiled : boundCheck atLeast type parameter = .ok (some check))
    (read : ¬type.StumblesOver answer .integerToFloat) : check answer ≠ .error fault := by
  unfold boundCheck at compiled
  split at compiled
  · cases compiled
  next number =>
    obtain ⟨bound, -, built⟩ := Result.bind_eq_ok_iff.mp compiled
    cases bound with
    | none => cases built
    | some bound =>
      cases built
      intro fails
      rcases Result.bind_eq_error_iff.mp fails with unread | ⟨given, -, decided⟩
      · exact read (.number (not_not.mp number) (Value.number?_eq_error_iff.mp unread).1)
      · cases given <;> cases decided

/-- The test of a rule fails on an answer, which is read as a number where the type asks for one,
exactly if the rule stumbles over the answer. -/
theorem failsOn_iff (read : ¬type.StumblesOver answer .integerToFloat) :
    rule.FailsOn type answer fault ↔ rule.StumblesOver answer ∧ fault = .integerUnwritten := by
  constructor
  · rintro ⟨check, compiled, fails⟩
    unfold ruleCheck at compiled
    split at compiled
    case h_1 =>
      cases compiled
      cases fails
    case h_2 kind | h_3 kind =>
      obtain ⟨numeric, single, overlong, rfl⟩ :=
        lengthCheck_failsOn_iff.mp ⟨check, compiled, fails⟩
      exact ⟨.length (by simp [kind]) numeric single overlong, rfl⟩
    case h_4 kind =>
      cases compiled
      obtain ⟨item, rfl⟩ := Value.everyText_eq_error_iff.mp fails
      exact ⟨.email kind item, rfl⟩
    case h_5 kind =>
      unfold patternCheck at compiled
      split at compiled
      case h_4 valid =>
        cases compiled
        obtain ⟨item, rfl⟩ := Value.everyText_eq_error_iff.mp fails
        exact ⟨.pattern kind valid item, rfl⟩
      all_goals cases compiled
    case h_6 | h_7 => exact absurd fails (boundCheck_not_failsOn compiled read)
    case h_8 => cases compiled
  · rintro ⟨stumbles, rfl⟩
    cases stumbles with
    | length kind numeric single overlong =>
      have fails (atLeast : Bool) :=
        (@lengthCheck_failsOn_iff answer rule.parameter _ atLeast).mpr
          ⟨numeric, single, overlong, rfl⟩
      rcases kind with kind | kind <;> simpa [ValidationRule.FailsOn, ruleCheck, kind] using fails _
    | email kind item =>
      exact ⟨_, by simp only [ruleCheck, kind]; rfl, Value.everyText_eq_error_iff.mpr ⟨item, rfl⟩⟩
    | pattern kind valid item =>
      exact ⟨_, by simp only [ruleCheck, kind, patternCheck, valid]; rfl,
        Value.everyText_eq_error_iff.mpr ⟨item, rfl⟩⟩

/-- Rules are compiled one after the other; one that has no test is left out. -/
theorem compileRules_cons_eq_ok {rest : List (Entry ValidationRule)} {compiled : List CompiledRule}
    (isCompiled : compileRules type (.proper rule :: rest) = .ok compiled) :
    ∃ check others, ruleCheck type rule = .ok check ∧ compileRules type rest = .ok others ∧
      compiled = (check.map (CompiledRule.mk rule)).toList ++ others := by
  rw [compileRules, Entry.ruleOf, Result.ok_bind] at isCompiled
  obtain ⟨check, isChecked, later⟩ := Result.bind_eq_ok_iff.mp isCompiled
  obtain ⟨others, areCompiled, same⟩ := Result.bind_eq_ok_iff.mp later
  refine ⟨check, others, isChecked, areCompiled, ?_⟩
  cases check <;> exact (Except.ok.inj same).symm

/-- Every compiled rule stands among the entries, and has its own test. -/
theorem mem_entries_of_compileRules {entries : List (Entry ValidationRule)}
    {compiled : List CompiledRule} (isCompiled : compileRules type entries = .ok compiled) :
    ∀ item ∈ compiled,
      .proper item.rule ∈ entries ∧ ruleCheck type item.rule = .ok (some item.check) := by
  induction entries generalizing compiled with
  | nil => simp [← Except.ok.inj isCompiled]
  | cons entry rest inductionHypothesis =>
    cases entry with
    | stray value => cases isCompiled
    | proper rule =>
      obtain ⟨check, others, isChecked, areCompiled, rfl⟩ := compileRules_cons_eq_ok isCompiled
      intro item member
      rcases List.mem_append.mp member with here | later
      · cases check with
        | none => cases here
        | some check =>
          obtain rfl := List.mem_singleton.mp here
          exact ⟨.head _, isChecked⟩
      · exact (inductionHypothesis areCompiled item later).imp_left (.tail _)

/-- Every compiled rule is one of the rules, with its test. -/
theorem mem_compileRules {rules : List ValidationRule} {compiled : List CompiledRule}
    (isCompiled : compileRules type (rules.map .proper) = .ok compiled) :
    ∀ item ∈ compiled, item.rule ∈ rules ∧ ruleCheck type item.rule = .ok (some item.check) := by
  intro item member
  refine (mem_entries_of_compileRules isCompiled item member).imp_left fun inEntries => ?_
  simpa using inEntries

/-- A rule on a field whose label has a text can say that it is broken. -/
theorem exists_rejection (legible : label.hasOverlong = false) (rule : ValidationRule) :
    ∃ message, rule.rejection label = .ok message := by
  rw [ValidationRule.rejection, labelled_eq_ok legible]
  split <;> exact ⟨_, rfl⟩

/-- What a rule says counts. -/
theorem truthy_of_rejection {message : Value} (said : rule.rejection label = .ok message) :
    message.truthy = true := by
  unfold ValidationRule.rejection at said
  split at said
  next counts => exact Except.ok.inj said ▸ counts
  next => exact (isText_of_labelled said).2

/-- What a rule says is a text if its message is. -/
theorem isText_of_rejection {message : Value} {text : String} (isText : rule.message = .str text)
    (said : rule.rejection label = .ok message) : ∃ text, message = .str text := by
  unfold ValidationRule.rejection at said
  split at said
  next => exact ⟨text, by rw [← isText, Except.ok.inj said]⟩
  next => exact (isText_of_labelled said).1

/-- The rules give no verdict on an answer that is there exactly if, all before it accepting the
answer, the test of one of them fails. -/
theorem rulesVerdict_eq_error_iff (legible : label.hasOverlong = false)
    {rules : List ValidationRule} {compiled : List CompiledRule}
    (isCompiled : compileRules type (rules.map .proper) = .ok compiled) :
    rulesVerdict label answer false compiled = .error fault ↔
      ComesTo (ValidationRule.Accepts type answer) (ValidationRule.FailsOn type answer fault)
        rules := by
  induction rules generalizing compiled with
  | nil => simp [← Except.ok.inj isCompiled, rulesVerdict]
  | cons rule rest inductionHypothesis =>
    obtain ⟨check, others, isChecked, areCompiled, rfl⟩ := compileRules_cons_eq_ok isCompiled
    rw [comesTo_cons, ← inductionHypothesis areCompiled]
    cases check with
    | none => simp [ValidationRule.FailsOn, ValidationRule.Accepts, isChecked]
    | some check =>
      have failsOn : rule.FailsOn type answer fault ↔ check answer = .error fault := by
        simp [ValidationRule.FailsOn, isChecked]
      have accepts : rule.Accepts type answer ↔ check answer = .ok true := by
        simp [ValidationRule.Accepts, isChecked]
      rw [failsOn, accepts, Option.map_some, Option.toList_some, List.singleton_append, rulesVerdict,
        Bool.false_and, if_neg Bool.false_ne_true, Result.bind_eq_error_iff]
      refine or_congr_right ⟨?_, fun ⟨passes, fails⟩ => ⟨true, passes, fails⟩⟩
      rintro ⟨passes, decided, fails⟩
      cases passes with
      | false =>
        obtain ⟨message, said⟩ := exists_rejection legible rule
        simp [said] at fails
      | true => exact ⟨decided, fails⟩

/-- An empty answer is held against requirements only, which decide it. -/
theorem rulesVerdict_empty_ne_error (legible : label.hasOverlong = false)
    {compiled : List CompiledRule}
    (tests : ∀ item ∈ compiled, ruleCheck type item.rule = .ok (some item.check)) :
    rulesVerdict label answer true compiled ≠ .error fault := by
  induction compiled with
  | nil => simp [rulesVerdict]
  | cons item rest inductionHypothesis =>
    obtain ⟨test, later⟩ := List.forall_mem_cons.mp tests
    have restDecides := inductionHypothesis later
    rw [rulesVerdict]
    by_cases required : item.rule.kind = .known .required
    · have same : item.check = fun answer => .ok (!answer.isEmptyAnswer (some type)) := by
        simpa [ruleCheck, required] using test.symm
      obtain ⟨message, said⟩ := exists_rejection legible item.rule
      simp only [required, same, bne_self_eq_false, Bool.and_false, Result.ok_bind, said]
      split
      · simp at *
      · split <;> simp [restDecides]
    · simpa [required] using restDecides

/-- The message of a verdict by rules is a text if those of all rules are. -/
theorem isText_of_rulesVerdict {compiled : List CompiledRule} {empty : Bool} {message : Value}
    (messages : ∀ item ∈ compiled, ∃ text, item.rule.message = .str text)
    (rejected : rulesVerdict label answer empty compiled = .ok (some message)) :
    ∃ text, message = .str text := by
  induction compiled with
  | nil => cases rejected
  | cons item rest inductionHypothesis =>
    obtain ⟨⟨text, isText⟩, later⟩ := List.forall_mem_cons.mp messages
    unfold rulesVerdict at rejected
    split at rejected
    · exact inductionHypothesis later rejected
    · obtain ⟨passes, -, given⟩ := Result.bind_eq_ok_iff.mp rejected
      split at given
      · exact inductionHypothesis later given
      · obtain ⟨said, isSaid, same⟩ := Result.bind_eq_ok_iff.mp given
        obtain rfl := Option.some.inj (Except.ok.inj same)
        exact isText_of_rejection isText isSaid

/-- The message of a test names the label. -/
theorem labelled_of_testVerdict {message : Value} {ending : String} {passes : Bool}
    (rejected : testVerdict label ending passes = .ok (some message)) :
    labelled label ending = .ok message := by
  cases passes with
  | true => cases rejected
  | false =>
    obtain ⟨made, isMade, same⟩ := Result.bind_eq_ok_iff.mp rejected
    rw [isMade, Option.some.inj (Except.ok.inj same)]

/-- The message on an answer that does not fit a type says so of the label. -/
theorem exists_labelled_of_typeVerdict {message : Value}
    (rejected : typeVerdict type label answer = .ok (some message)) :
    ∃ ending, labelled label ending = .ok message := by
  cases type
  case date => exact ⟨_, labelled_of_testVerdict rejected⟩
  case number | email | phone =>
    obtain ⟨read, -, given⟩ := Result.bind_eq_ok_iff.mp rejected
    exact ⟨_, labelled_of_testVerdict given⟩
  case url =>
    obtain ⟨text, -, judged⟩ := Result.bind_eq_ok_iff.mp rejected
    obtain ⟨valid, -, given⟩ := Result.bind_eq_ok_iff.mp judged
    exact ⟨_, labelled_of_testVerdict given⟩
  all_goals cases rejected

/-- Content as an editor gives it, with its rules: the label and the messages are texts, and the
parameters of rules are single values. -/
structure FieldContent.IsPlain (content : FieldContent) (rules : List ValidationRule) : Prop where
  label : ∃ text, content.label = .str text
  proper : content.validationRules = rules.map .proper
  messages : ∀ rule ∈ rules, ∃ text, rule.message = .str text
  parameters : ∀ rule ∈ rules, rule.parameter.IsScalar

variable {content : FieldContent} {rules : List CompiledRule}

/-- The verdict on an empty answer, where requirements decide it. -/
theorem verdict_empty_ne_error (legible : content.label.hasOverlong = false)
    (empty : answer.isEmptyAnswer (some content.type) = true)
    (decided : ∀ fault, rulesVerdict content.label answer true rules ≠ .error fault) :
    content.verdict rules answer ≠ .error fault := by
  simp only [FieldContent.verdict, empty]
  split
  · simp [labelled_eq_ok legible]
  · simpa using decided fault

/-- The verdict on an answer that is there fails if its type can not be told, or if it fits its type
and the rules give no verdict. -/
theorem verdict_eq_error_iff (given : answer.isEmptyAnswer (some content.type) = false) :
    content.verdict rules answer = .error fault ↔
      typeVerdict content.type content.label answer = .error fault ∨
        typeVerdict content.type content.label answer = .ok none ∧
          rulesVerdict content.label answer false rules = .error fault := by
  simp only [FieldContent.verdict, given, Bool.false_and, Bool.false_eq_true, if_false]
  rw [Result.bind_eq_error_iff]
  refine or_congr_right ⟨?_, fun ⟨fits, fails⟩ => ⟨none, fits, fails⟩⟩
  rintro ⟨mismatch, typed, fails⟩
  cases mismatch with
  | none => exact ⟨typed, fails⟩
  | some message => cases fails

/-- The message of a verdict is a text if those of all rules are. -/
theorem isText_of_verdict {message : Value}
    (messages : ∀ item ∈ rules, ∃ text, item.rule.message = .str text)
    (rejected : content.verdict rules answer = .ok (some message)) :
    ∃ text, message = .str text := by
  simp only [FieldContent.verdict] at rejected
  split at rejected
  · obtain ⟨made, isMade, same⟩ := Result.bind_eq_ok_iff.mp rejected
    obtain rfl := Option.some.inj (Except.ok.inj same)
    exact (isText_of_labelled isMade).1
  · split at rejected
    · exact isText_of_rulesVerdict messages rejected
    · obtain ⟨mismatch, typed, given⟩ := Result.bind_eq_ok_iff.mp rejected
      split at given
      · obtain ⟨ending, isMade⟩ := exists_labelled_of_typeVerdict typed
        obtain rfl := Option.some.inj (Except.ok.inj given)
        exact (isText_of_labelled isMade).1
      · exact isText_of_rulesVerdict messages given

/-- The verdict on an answer by compiled rules, as the rules themselves stumble over it. -/
theorem verdict_eq_error_iff_stumbles (legible : content.label.hasOverlong = false)
    {validationRules : List ValidationRule}
    (areCompiled : compileRules content.type (validationRules.map .proper) = .ok rules) :
    content.verdict rules answer = .error fault ↔
      answer.isEmptyAnswer (some content.type) = false ∧
        (content.type.StumblesOver answer fault ∨
          typeVerdict content.type content.label answer = .ok none ∧ fault = .integerUnwritten ∧
            ComesTo (ValidationRule.Accepts content.type answer)
              (ValidationRule.StumblesOver · answer) validationRules) := by
  cases empty : answer.isEmptyAnswer (some content.type) with
  | true =>
    simpa using verdict_empty_ne_error legible empty fun fault =>
      rulesVerdict_empty_ne_error legible fun item member =>
        (mem_compileRules areCompiled item member).2
  | false =>
    have failsOn (fits : typeVerdict content.type content.label answer = .ok none) :
        ValidationRule.FailsOn content.type answer fault =
          fun rule => rule.StumblesOver answer ∧ fault = .integerUnwritten := by
      refine funext fun rule => propext (failsOn_iff fun stumbles => ?_)
      rw [(typeVerdict_eq_error_iff legible).mpr stumbles] at fits
      cases fits
    rw [verdict_eq_error_iff empty, typeVerdict_eq_error_iff legible,
      rulesVerdict_eq_error_iff legible areCompiled]
    simp only [true_and]
    refine or_congr_right (and_congr_right fun fits => ?_)
    rw [failsOn fits, comesTo_and_iff]

end FormEngine
