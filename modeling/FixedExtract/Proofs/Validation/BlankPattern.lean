import FixedExtract.Proofs.Calendar.Iso
import FixedExtract.Proofs.Layout.Word
import FixedExtract.Proofs.Regex.Reading
import FixedExtract.Proofs.Validation.Blank
import FixedExtract.Proofs.Validation.Stopping
/-!
# Blank patterns

A pattern of white space stands for itself, as a regular expression and as a date pattern, and no value that is checked
is white space alone. Some kinds of rules ask whether their pattern is blank and have their built-in form then. The
others ask only whether it is empty. For these a blank pattern that is not empty is one that nothing matches, where a
missing one would have let values of the built-in form pass.
-/

namespace FixedExtract

/-! ## What a blank pattern matches -/

section
variable {source text : Text}

/-- White space means nothing else in a regular expression. -/
theorem Regex.read_of_blank (blank : Text.isBlank source = true) :
    Pattern.read source = .ok ⟨plainFlags, literals source⟩ := by
  have apart : syntaxChars.any Text.isSpace = false := by decide
  refine read_ordinary fun c member special => ?_
  have space : Text.isSpace c = true := List.all_eq_true.1 blank c member
  exact List.any_eq_false.1 apart c special space

namespace DatePattern

/-- No field begins with white space. -/
theorem Part.first_of_space {c : Char} (space : Text.isSpace c = true) (rest : Text) :
    Part.first c rest = .plain c := by
  have fields : ∀ f ∈ Field.all, ∃ d more, f.letters = d :: more ∧ Text.isSpace d = false := by
    intro f _
    cases f with
    | number unit padded =>
      cases unit <;> cases padded <;> exact ⟨_, _, rfl, by decide⟩
    | _ => exact ⟨_, _, rfl, by decide⟩
  have noField : (Field.all.find? fun f => f.letters.isPrefixOf (c :: rest)) = none := by
    rw [List.find?_eq_none]
    intro f member here
    obtain ⟨d, more, letters, other⟩ := fields f member
    rw [letters, List.isPrefixOf_cons_cons, Bool.and_eq_true, beq_iff_eq] at here
    rw [here.1, space] at other
    cases other
  have noQuote : ¬(c = '\x27' ∧ '\x27' ∈ rest) := by
    rintro ⟨rfl, -⟩
    exact absurd space (by decide)
  rw [Part.first, noField]
  exact if_neg noQuote

theorem partsOf_of_blank (blank : Text.isBlank source = true) : partsOf source = source.map .plain := by
  induction source with
  | nil => rfl
  | cons c rest ih =>
    rw [Text.isBlank, List.all_cons, Bool.and_eq_true] at blank
    have behind : partsAfter 0 rest = rest.map .plain := ih blank.2
    rw [partsOf, partsAfter, Part.first_of_space blank.1, List.map_cons]
    exact congrArg _ behind

/-- Characters that stand for themselves are the shape of one text. -/
theorem hasShape_plain (source text : Text) : hasShape (source.map .plain) text = true ↔ text = source := by
  induction source generalizing text with
  | nil => exact List.isEmpty_iff
  | cons c rest ih =>
    cases text with
    | nil => exact iff_of_false nofun nofun
    | cons d behind =>
      have front : [c].isPrefixOf (d :: behind) = true ↔ d = c := by
        rw [List.isPrefixOf_cons_cons, List.isPrefixOf_nil_left, Bool.and_true, beq_iff_eq, eq_comm]
      rw [List.map_cons, hasShape, Bool.and_eq_true, front, List.drop_one, List.tail_cons, ih, List.cons.injEq]

/-- Nothing but the pattern itself has the shape of a blank pattern. -/
theorem isDate?_of_blank (blank : Text.isBlank source = true) (other : text ≠ source) :
    isDate? source text = some false := by
  have noShape : hasShapeOf source text = false := by
    rw [hasShapeOf, partsOf_of_blank blank, Bool.eq_false_iff]
    exact mt (hasShape_plain source text).1 other
  rw [isDate?, noShape]
  rfl

end DatePattern
end

/-! ## Rules that are blind to blank patterns -/

/-- The rule with no pattern at all. -/
def Rule.withoutPattern (rule : Rule) : Rule := { rule with pattern := none }

/-- The pattern that dates of the data type of the rule have, unless the rule has its own. -/
def Rule.builtInPattern? (rule : Rule) : Option Text :=
  match (rule.dataType.filter fun name => !name.isEmpty).bind fun name =>
    Check.DataType.ofName? (Text.upper (Text.strip name)) with
  | some .date => some Check.defaultDatePattern
  | some .moment => some Check.defaultMomentPattern
  | _ => none

/-- Has the value the form that is built in for rules like this one, of a kind that never asks whether its pattern is
blank? -/
def Rule.hasBuiltInForm (rule : Rule) (value : Text) : Bool :=
  match rule.kind with
  | .email => Format.isEmail (Text.strip value)
  | .phone => Format.isPhone (value.filter fun c => !Format.isPhoneSeparator c)
  | .socialSecurity => Format.isSocialSecurity (Text.strip value)
  | .accountNumber => Format.isAccountNumber value
  | .dataType => rule.builtInPattern?.any fun pattern => DatePattern.isDate? pattern (Text.strip value) = some true
  | _ => false

/-- The rule tells texts by its own pattern or a built-in form, and by nothing else. -/
inductive Rule.HasForm (rule : Rule) : Prop
  | email (kind : rule.kind = .email)
  | phone (kind : rule.kind = .phone)
  | socialSecurity (kind : rule.kind = .socialSecurity)
  | dates (kind : rule.kind = .dataType) (given : rule.builtInPattern? ≠ none)

theorem Rule.HasForm.withoutPattern {rule : Rule} (form : rule.HasForm) : rule.withoutPattern.HasForm := by
  cases form with
  | email kind => exact .email kind
  | phone kind => exact .phone kind
  | socialSecurity kind => exact .socialSecurity kind
  | dates kind given => exact .dates kind given

/-- The lookup does not look at the pattern of a rule. -/
def ReferenceLookup.IgnoresPattern (find : ReferenceLookup) : Prop :=
  ∀ field value rule, find field value rule.withoutPattern = find field value rule

namespace Check

variable {lookup : Option ReferenceLookup} {rule : Rule} {field : Text} {value : Option Text} {text message : Text}

/-! ### Forms -/

/-- A text other than the blank pattern of the rule does not match it. -/
theorem form_of_blank {source : Text} (given : rule.pattern? = some source) (blank : Text.isBlank source = true)
    (builtIn : Text → Bool) (other : text ≠ source) :
    form (some (PatternCache.ownPattern rule)) builtIn text message = .ok (.fail message) := by
  have own : PatternCache.ownPattern rule = .ok (some ⟨source, ⟨Regex.plainFlags, Regex.literals source⟩⟩) := by
    rw [PatternCache.ownPattern, given]
    dsimp only
    rw [PatternCache.readPattern, Regex.read_of_blank blank]
  obtain ⟨matched, crossed⟩ := Regex.find_literals source text
  have missed : Regex.Pattern.find ⟨Regex.plainFlags, Regex.literals source⟩ text = .unmatched := by
    cases found : Regex.Pattern.find ⟨Regex.plainFlags, Regex.literals source⟩ text with
    | unmatched => rfl
    | matched => exact absurd (matched.1 found) other
    | crossed => exact absurd found crossed
  unfold form
  rw [own]
  dsimp only
  rw [missed]

/-- What is a date of the built-in pattern is always decided. -/
theorem date_of_builtIn {pattern : Text} (builtIn : rule.builtInPattern? = some pattern) (text : Text) :
    date pattern text = .ok (decide (DatePattern.isDate? pattern text = some true)) := by
  have decided : DatePattern.isDate? pattern text ≠ none := by
    unfold Rule.builtInPattern? at builtIn
    split at builtIn
    · cases builtIn
      exact DatePattern.fixedWidth_date.isDate?_ne_none
    · cases builtIn
      exact DatePattern.fixedWidth_moment.isDate?_ne_none
    · cases builtIn
  obtain ⟨holds, same⟩ := Option.ne_none_iff_exists'.1 decided
  rw [date, same]
  cases holds <;> rfl

/-- A rule for dates has its own pattern or the built-in one, and one message for both. -/
theorem dataType_of_builtIn {pattern : Text} (builtIn : rule.builtInPattern? = some pattern) (field text : Text) :
    ∃ message, ∀ other : Rule, other.dataType = rule.dataType →
      dataType other field text =
        (date (other.pattern?.getD pattern) (Text.strip text)).map fun holds => .ofTest holds message := by
  unfold Rule.builtInPattern? at builtIn
  cases given : rule.dataType.filter fun name => !name.isEmpty with
  | none =>
    rw [given] at builtIn
    cases builtIn
  | some name =>
    rw [given, Option.bind_some] at builtIn
    refine ⟨field ++ " must be a valid " ++ name ++ " (actual: " ++ text ++ ")", fun other same => ?_⟩
    unfold dataType
    rw [same, given]
    dsimp only
    cases type : DataType.ofName? (Text.upper (Text.strip name)) with
    | none =>
      rw [type] at builtIn
      cases builtIn
    | some type' =>
      rw [type] at builtIn
      cases type' <;> cases builtIn <;> rfl

/-! ### Own and built-in forms -/

/-- Only rules that match regular expressions have their pattern read, and only for values that are not blank. -/
theorem patternAlone_of_hasPattern {source : Text} (given : rule.pattern? = some source)
    (matching : rule.kind.hasPattern = true) (notPattern : rule.kind ≠ .pattern) (present : Text.isBlank text = false) :
    PatternCache.patternAlone rule (some text) = some (PatternCache.ownPattern rule) := by
  have needed : rule.needsPattern (some text) = true := by
    rw [Rule.needsPattern, matching, given, Text.isBlank?, present, decide_eq_false notPattern]
    rfl
  rw [PatternCache.patternAlone, if_pos needed]

theorem patternAlone_of_unneeded (unneeded : rule.needsPattern value = false) :
    PatternCache.patternAlone rule value = none := by
  rw [PatternCache.patternAlone, if_neg (by rw [unneeded]; exact Bool.false_ne_true)]

section
variable (lookup : Option ReferenceLookup) (field : Text) {source : Text} (given : rule.pattern? = some source)
  (blank : Text.isBlank source = true) (present : Text.isBlank text = false)
include given blank present

/-- A rule that matches its own pattern or else asks for a form finds nothing that matches a blank pattern. -/
theorem contents_of_form (builtIn : Text → Bool) {candidate : Text} (message : Text)
    (matching : rule.kind.hasPattern = true) (notPattern : rule.kind ≠ .pattern) (other : candidate ≠ source)
    (asks : ∀ found own, contents lookup found { rule with pattern := own } field text =
      form found builtIn candidate message)
    (same : rule.hasBuiltInForm text = builtIn candidate) :
    contents lookup (PatternCache.patternAlone rule (some text)) rule field text = .ok (.fail message) ∧
      contents lookup none rule.withoutPattern field text = .ok (.ofTest (rule.hasBuiltInForm text) message) := by
  have withOwn := asks (some (PatternCache.ownPattern rule)) rule.pattern
  have without := asks none none
  constructor
  · rw [patternAlone_of_hasPattern given matching notPattern present]
    exact withOwn.trans (form_of_blank given blank builtIn other)
  · rw [same]
    exact without

/-- The same goes for rules about dates, whose patterns are no regular expressions. -/
theorem contents_of_dates (kind : rule.kind = .dataType) {pattern : Text}
    (builtIn : rule.builtInPattern? = some pattern) :
    ∃ message, contents lookup (PatternCache.patternAlone rule (some text)) rule field text = .ok (.fail message) ∧
      contents lookup none rule.withoutPattern field text = .ok (.ofTest (rule.hasBuiltInForm text) message) := by
  have stripped : Text.strip text ≠ source := Text.ne_of_isBlank blank ((Text.isBlank_strip text).trans present)
  obtain ⟨message, asks⟩ := dataType_of_builtIn builtIn field text
  have own : dataType rule field text = .ok (.fail message) := by
    rw [asks rule rfl, given, Option.getD_some, date, DatePattern.isDate?_of_blank blank stripped]
    rfl
  have without : dataType rule.withoutPattern field text = .ok (.ofTest (rule.hasBuiltInForm text) message) := by
    have noPattern : rule.withoutPattern.pattern? = none := rfl
    have formed : rule.hasBuiltInForm text = decide (DatePattern.isDate? pattern (Text.strip text) = some true) := by
      unfold Rule.hasBuiltInForm
      rw [kind, builtIn]
      rfl
    rw [asks rule.withoutPattern rfl, noPattern, Option.getD_none, date_of_builtIn builtIn, formed]
    rfl
  have kind' : rule.withoutPattern.kind = .dataType := kind
  refine ⟨message, ?_, ?_⟩
  · rw [patternAlone_of_unneeded (by rw [Rule.needsPattern, kind]; rfl)]
    unfold contents
    rw [kind]
    exact own
  · unfold contents
    rw [kind']
    exact without

/-- With a blank pattern a rule that has a form refuses every text, and without one it asks for the built-in form. -/
theorem contents_of_hasForm (hasForm : rule.HasForm) :
    ∃ message, contents lookup (PatternCache.patternAlone rule (some text)) rule field text = .ok (.fail message) ∧
      contents lookup none rule.withoutPattern field text = .ok (.ofTest (rule.hasBuiltInForm text) message) := by
  have stripped : Text.strip text ≠ source := Text.ne_of_isBlank blank ((Text.isBlank_strip text).trans present)
  cases hasForm with
  | email kind =>
    refine ⟨_, contents_of_form lookup field given blank present Format.isEmail
      (field ++ " must be a valid email address") (by rw [kind]; rfl) (by rw [kind]; decide) stripped ?_ ?_⟩
    · intro found own
      simp only [contents, kind]
    · simp only [Rule.hasBuiltInForm, kind]
  | phone kind =>
    -- Nothing is left of white space in a telephone number, and the blank pattern is not empty.
    have some : source ≠ [] := by
      rintro rfl
      exact absurd given (by simp [Rule.pattern?])
    have noSpace : ∀ c ∈ text.filter fun c => !Format.isPhoneSeparator c, Text.isSpace c = false := by
      intro c member
      have kept := (List.mem_filter.1 member).2
      simp only [Format.isPhoneSeparator, Bool.not_eq_true', Bool.or_eq_false_iff] at kept
      exact kept.1.1.1.1
    refine ⟨_, contents_of_form lookup field given blank present Format.isPhone
      (field ++ " must be a valid phone number") (by rw [kind]; rfl) (by rw [kind]; decide)
      (Text.ne_of_noSpace blank some noSpace) ?_ ?_⟩
    · intro found own
      simp only [contents, kind]
    · simp only [Rule.hasBuiltInForm, kind]
  | socialSecurity kind =>
    refine ⟨_, contents_of_form lookup field given blank present Format.isSocialSecurity
      (field ++ " must be a valid SSN format (XXX-XX-XXXX)") (by rw [kind]; rfl) (by rw [kind]; decide) stripped ?_ ?_⟩
    · intro found own
      simp only [contents, kind]
    · simp only [Rule.hasBuiltInForm, kind]
  | dates kind dates =>
    obtain ⟨pattern, builtIn⟩ := Option.ne_none_iff_exists'.1 dates
    exact contents_of_dates lookup field given blank present kind builtIn

/-- The same goes for account numbers, but those that have the built-in form are measured too. -/
theorem contents_of_account (kind : rule.kind = .accountNumber) :
    contents lookup (PatternCache.patternAlone rule (some text)) rule field text =
        .ok (.fail (field ++ " must contain only letters and numbers")) ∧
      contents lookup none rule.withoutPattern field text =
        .ok (if rule.hasBuiltInForm text then length rule field text
          else .fail (field ++ " must contain only letters and numbers")) := by
  have kind' : rule.withoutPattern.kind = .accountNumber := kind
  constructor
  · rw [patternAlone_of_hasPattern given (by rw [kind]; rfl) (by rw [kind]; decide) present]
    simp only [contents, kind]
    rw [accountNumber, form_of_blank given blank _ (Text.ne_of_isBlank blank present)]
  · simp only [contents, kind', accountNumber, form, Rule.hasBuiltInForm, kind]
    cases Format.isAccountNumber text <;> rfl

end

/-! ### Rules without a form -/

/-- A length that is out of bounds has a message of its own. -/
theorem length_cases (rule : Rule) (field text : Text) :
    length rule field text = .pass ∨ ∃ message, length rule field text = .fail message ∧
      message ≠ field ++ " must contain only letters and numbers" := by
  -- The messages differ in the first letter of the word behind the field.
  have apart (words behind : Text) (other : words[1]? ≠ some 'm') (long : words[1]? ≠ none) :
      field ++ words ++ behind ≠ field ++ " must contain only letters and numbers" := by
    rw [List.append_assoc]
    intro same
    have second := congrArg (fun words : Text => words[1]?) (List.append_cancel_left same)
    rw [List.getElem?_append_left (by by_contra short; exact long (List.getElem?_eq_none (by omega)))] at second
    exact other second
  unfold length
  split
  · next most _ =>
    refine .inr ⟨_, rfl, ?_⟩
    rw [List.append_assoc (field ++ _)]
    exact apart _ _ (by decide) (by decide)
  · split
    · next least _ =>
      refine .inr ⟨_, rfl, ?_⟩
      rw [List.append_assoc (field ++ _)]
      exact apart _ _ (by decide) (by decide)
    · exact .inl rfl

theorem dataType_withoutPattern (dates : rule.pattern? = none ∨ rule.builtInPattern? = none) :
    dataType rule.withoutPattern field text = dataType rule field text := by
  rcases dates with given | builtIn
  · have types (type : DataType) : isOfType rule.withoutPattern text.strip type = isOfType rule text.strip type := by
      have noPattern : rule.withoutPattern.pattern? = none := rfl
      cases type with
      | date => rw [isOfType, isOfType, given, noPattern]
      | moment => rw [isOfType, isOfType, given, noPattern]
      | _ => rfl
    simp only [dataType, types]
    rfl
  · unfold Rule.builtInPattern? at builtIn
    unfold dataType
    cases given : rule.dataType.filter fun name => !name.isEmpty with
    | none => simp only [Rule.withoutPattern, given]
    | some name =>
      rw [given, Option.bind_some] at builtIn
      simp only [Rule.withoutPattern, given]
      cases type : DataType.ofName? (Text.upper (Text.strip name)) with
      | none => rfl
      | some type' =>
        rw [type] at builtIn
        cases type' <;> cases builtIn <;> rfl

section
variable (blank : Text.isBlank? rule.pattern = true) (ignores : ∀ find ∈ lookup, find.IgnoresPattern)
  (dates : rule.kind = .dataType → rule.pattern? = none ∨ rule.builtInPattern? = none)

include blank in
theorem dateFormat_withoutPattern : dateFormat rule.withoutPattern field text = dateFormat rule field text := by
  have noPattern : rule.pattern.filter (fun text => !Text.isBlank text) = none := by
    rw [Text.filter_nonBlank_eq_none_iff, ← Text.isBlank?_eq_false_iff, blank]
    exact nofun
  rw [dateFormat, dateFormat, noPattern]
  rfl

include ignores in
theorem reference_withoutPattern :
    reference lookup rule.withoutPattern field text = reference lookup rule field text := by
  cases lookup with
  | none => rfl
  | some find =>
    rw [reference, reference]
    simp only [ignores find rfl field text rule]

include blank ignores dates

/-- A rule for which no pattern was looked up makes no difference between a blank pattern and none. -/
theorem contents_withoutPattern :
    contents lookup none rule.withoutPattern field text = contents lookup none rule field text := by
  have same : rule.withoutPattern.kind = rule.kind := rfl
  unfold contents
  rw [same]
  cases kind : rule.kind with
  | dataType => exact dataType_withoutPattern (dates kind)
  | dateFormat => exact dateFormat_withoutPattern blank
  | referentialIntegrity => exact reference_withoutPattern ignores
  | _ => rfl

theorem verdict_withoutPattern :
    verdict lookup none rule.withoutPattern field value = verdict lookup none rule field value := by
  have same : rule.withoutPattern.kind = rule.kind := rfl
  unfold verdict
  rw [same]
  simp only [contents_withoutPattern blank ignores dates]
  rfl

end

/-! ### Results -/

theorem result_withoutPattern (v : Verdict) (rule : Rule) (field : Text) (value : Option Text) :
    v.result rule.withoutPattern field value = v.result rule field value := by
  cases v <;> rfl

theorem result_of_verdict {found : FoundPattern} {v : Verdict} (h : verdict lookup found rule field value = .ok v) :
    result lookup found rule field value = v.result rule field value := by
  rw [result, h]

/-- What is there is put to the check of its kind, unless there is none or it looks at blank values too. -/
theorem verdict_of_contents (lookup : Option ReferenceLookup) (found : FoundPattern) (field : Text)
    (present : Text.isBlank text = false)
    (kind : rule.HasForm ∨ rule.kind = .accountNumber) :
    verdict lookup found rule field (some text) = contents lookup found rule field text := by
  unfold verdict
  rcases kind with (kind | kind | kind | ⟨kind, -⟩) | kind <;> rw [kind] <;>
    exact if_neg (by rw [present]; exact Bool.false_ne_true)

/-- A failure is the result of a test that fails with the same message, and of no other. -/
theorem result_ofTest_eq_iff {holds : Bool} :
    (Verdict.ofTest holds message).result rule field value = (Verdict.fail message).result rule field value ↔
      holds = false := by
  cases holds with
  | true => exact iff_of_false nofun nofun
  | false => exact iff_of_true rfl rfl

/-- Two failures are the same when they have the same message, or the rule has its own for both. -/
theorem result_fail_eq_iff {other : Text} (apart : other ≠ message) :
    (Verdict.fail other).result rule field value = (Verdict.fail message).result rule field value ↔
      Text.isBlank? rule.message = false := by
  simp only [Verdict.result, FieldResult.failure, FieldResult.mk.injEq, Option.some.injEq, true_and, and_true]
  unfold Verdict.failureMessage
  cases rule.message with
  | none => exact iff_of_false apart nofun
  | some own =>
    dsimp only [Text.isBlank?]
    cases Text.isBlank own with
    | true => exact iff_of_false apart nofun
    | false => exact iff_of_true rfl rfl

end Check

namespace PatternCache

variable {lookup : Option ReferenceLookup} {rule : Rule} {text : Text} {value : Option Text} (field : Text)

theorem needsPattern_withoutPattern (rule : Rule) (value : Option Text) :
    rule.withoutPattern.needsPattern value = false := by
  have noPattern : rule.withoutPattern.pattern? = none := rfl
  rw [Rule.needsPattern, noPattern, Option.isSome_none, Bool.and_false, Bool.false_and, Bool.false_and]

/-- A rule is tested against its blank pattern: it takes it for one, and has a form that it tests instead of none. -/
structure TakesBlank (rule : Rule) : Prop where
  given : rule.pattern? ≠ none
  kind : rule.HasForm ∨ rule.kind = .accountNumber

theorem hasForm_of_hasBuiltInForm (formed : rule.hasBuiltInForm text = true) :
    rule.HasForm ∨ rule.kind = .accountNumber := by
  unfold Rule.hasBuiltInForm at formed
  split at formed
  · next kind => exact .inl (.email kind)
  · next kind => exact .inl (.phone kind)
  · next kind => exact .inl (.socialSecurity kind)
  · next kind => exact .inr kind
  · next kind =>
    refine .inl (.dates kind fun none => ?_)
    rw [none] at formed
    cases formed
  · cases formed

/-- Every other rule has the same results with its blank pattern as with none. -/
theorem check_withoutPattern (blank : Text.isBlank? rule.pattern = true)
    (ignores : ∀ find ∈ lookup, find.IgnoresPattern) (sees : ¬TakesBlank rule) :
    (empty.check lookup rule field value).1 = (empty.check lookup rule.withoutPattern field value).1 := by
  have dates : rule.kind = .dataType → rule.pattern? = none ∨ rule.builtInPattern? = none := by
    intro kind
    by_contra both
    rw [not_or] at both
    exact sees ⟨both.1, .inl (.dates kind both.2)⟩
  have unneeded : rule.needsPattern value = false := by
    rw [Bool.eq_false_iff]
    intro needed
    simp only [Rule.needsPattern, blank, Bool.and_eq_true, Bool.and_true, Bool.not_eq_true', decide_eq_false_iff_not,
      Option.isSome_iff_ne_none] at needed
    obtain ⟨⟨⟨matching, given⟩, -⟩, notPattern⟩ := needed
    refine sees ⟨given, ?_⟩
    cases kind : rule.kind with
    | email => exact .inl (.email kind)
    | phone => exact .inl (.phone kind)
    | socialSecurity => exact .inl (.socialSecurity kind)
    | accountNumber => exact .inr rfl
    | pattern => exact absurd kind notPattern
    | _ =>
      rw [kind] at matching
      cases matching
  rw [check_of_unneeded unneeded, check_of_unneeded (needsPattern_withoutPattern rule value), Check.result,
    Check.result, Check.verdict_withoutPattern blank ignores dates]
  cases Check.verdict lookup none rule field value with
  | error trouble => rfl
  | ok v => exact (Check.result_withoutPattern v rule field value).symm

/-- For a value that is there, a rule that takes its blank pattern for one has another result than without it exactly
when the value has the built-in form. Account numbers of a wrong length fail either way, and with one result where the
rule has its own message. -/
theorem check_eq_iff_of_takesBlank (blank : Text.isBlank? rule.pattern = true) (takes : TakesBlank rule)
    (present : Text.isBlank text = false) :
    (empty.check lookup rule field (some text)).1 = (empty.check lookup rule.withoutPattern field (some text)).1 ↔
      (rule.hasBuiltInForm text = true → rule.kind = .accountNumber ∧ Check.length rule field text ≠ .pass ∧
        Text.isBlank? rule.message = false) := by
  obtain ⟨source, given⟩ := Option.ne_none_iff_exists'.1 takes.given
  have blankSource : Text.isBlank source = true := by
    have same := (Option.filter_eq_some_iff.1 given).1
    rwa [same] at blank
  have takes' : rule.withoutPattern.HasForm ∨ rule.withoutPattern.kind = .accountNumber := by
    rcases takes.kind with form | account
    · exact .inl form.withoutPattern
    · exact .inr account
  have verdict := Check.verdict_of_contents lookup (patternAlone rule (some text)) field present takes.kind
  have verdict' := Check.verdict_of_contents lookup none field present takes'
  rw [check_empty, check_of_unneeded (needsPattern_withoutPattern rule (some text))]
  rcases takes.kind with form | account
  · obtain ⟨message, own, without⟩ := Check.contents_of_hasForm lookup field given blankSource present form
    have notAccount : rule.kind ≠ .accountNumber := by
      rcases form with kind | kind | kind | ⟨kind, -⟩ <;> rw [kind] <;> decide
    rw [Check.result_of_verdict (verdict.trans own), Check.result_of_verdict (verdict'.trans without),
      Check.result_withoutPattern, eq_comm, Check.result_ofTest_eq_iff]
    simp [notAccount]
  · obtain ⟨own, without⟩ := Check.contents_of_account lookup field given blankSource present account
    rw [Check.result_of_verdict (verdict.trans own), Check.result_of_verdict (verdict'.trans without),
      Check.result_withoutPattern, eq_comm]
    cases rule.hasBuiltInForm text with
    | false => exact iff_of_true rfl nofun
    | true =>
      rw [if_pos rfl, forall_prop_of_true rfl, and_iff_right account]
      rcases Check.length_cases rule field text with passes | ⟨message, fails, apart⟩
      · rw [passes]
        exact iff_of_false nofun fun h => h.1 rfl
      · rw [fails, Check.result_fail_eq_iff apart]
        exact (and_iff_right nofun).symm

/-- A rule whose pattern is blank has the result that it would have without one, unless the pattern is not empty, the
rule is of a kind that takes it for a pattern, and the value has the form that is built in for that kind. Account
numbers that have it still have one result when their length is wrong and the rule has a message of its own. -/
theorem check_blankPattern_iff (blank : Text.isBlank? rule.pattern = true)
    (ignores : ∀ find ∈ lookup, find.IgnoresPattern) :
    (empty.check lookup rule field value).1 = (empty.check lookup rule.withoutPattern field value).1 ↔
      (rule.pattern? ≠ none → ∀ text, value = some text → Text.isBlank text = false → rule.hasBuiltInForm text = true →
        rule.kind = .accountNumber ∧ Check.length rule field text ≠ .pass ∧ Text.isBlank? rule.message = false) := by
  by_cases takes : TakesBlank rule
  · by_cases blankValue : Text.isBlank? value = true
    · -- No value, no form: neither rule looks at it.
      have notRequired : rule.kind ≠ .required ∧ rule.kind ≠ .length := by
        rcases takes.kind with (kind | kind | kind | ⟨kind, -⟩) | kind <;> rw [kind] <;> decide
      have own : empty.check lookup rule field value = ((Check.unseen rule).result rule field value, empty) :=
        check_of_unseen blankValue notRequired.1 notRequired.2
      have without : empty.check lookup rule.withoutPattern field value =
          ((Check.unseen rule).result rule.withoutPattern field value, empty) :=
        check_of_unseen blankValue notRequired.1 notRequired.2
      rw [own, without, Check.result_withoutPattern]
      refine iff_of_true rfl ?_
      rintro - text rfl present
      rw [Text.isBlank?, present] at blankValue
      cases blankValue
    · obtain ⟨text, rfl, present⟩ := Text.isBlank?_eq_false_iff.1 (Bool.eq_false_iff.2 blankValue)
      rw [check_eq_iff_of_takesBlank field blank takes present]
      constructor
      · rintro same - text' ⟨⟩ -
        exact same
      · exact fun same => same takes.given text rfl present
  · refine iff_of_true (check_withoutPattern field blank ignores takes) ?_
    intro given text _ _ formed
    exact absurd ⟨given, hasForm_of_hasBuiltInForm formed⟩ takes

/-- A rule of a kind whose pattern is a space. -/
def spaceRule (kind : RuleKind) : Rule := { patternRule "R" "CODE" " " 1 with kind := kind }

/-- An account number that is too long fails with the message of the rule, with and without the pattern. One that is
not too long fails with the pattern only. -/
theorem check_blankPattern_iff_account :
    let rule : Rule := { spaceRule .accountNumber with maxLength := some 3, message := some "no account" }
    Text.isBlank? rule.pattern = true ∧
      (empty.check none rule "CODE" (some "AB123")).1 = (empty.check none rule.withoutPattern "CODE" (some "AB123")).1 ∧
      (empty.check none rule "CODE" (some "AB1")).1 ≠ (empty.check none rule.withoutPattern "CODE" (some "AB1")).1 := by
  intro rule
  have blank : Text.isBlank? rule.pattern = true := by decide
  have ignores : ∀ find ∈ (none : Option ReferenceLookup), find.IgnoresPattern := nofun
  refine ⟨blank, ?_, ?_⟩
  · refine (check_blankPattern_iff "CODE" blank ignores).2 ?_
    rintro - text ⟨⟩ - -
    exact ⟨rfl, by decide, by decide⟩
  · intro same
    have short := (check_blankPattern_iff "CODE" blank ignores).1 same (by decide) "AB1" rfl (by decide) (by decide)
    exact short.2.1 (by decide)

/-- An address is refused for the sake of a space in the place of a pattern. -/
theorem check_blankPattern_email :
    Text.isBlank? (spaceRule .email).pattern = true ∧
      (empty.check none (spaceRule .email) "CODE" (some "a@b.co")).1 =
        .failure "CODE" (some "a@b.co") (spaceRule .email).tag "CODE must be a valid email address" ∧
      (empty.check none (spaceRule .email).withoutPattern "CODE" (some "a@b.co")).1 =
        .success "CODE" (some "a@b.co") (spaceRule .email).tag := by
  decide +kernel

end PatternCache
end FixedExtract
