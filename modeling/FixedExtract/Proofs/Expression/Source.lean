import FixedExtract.Proofs.Expression.Scanning
/-!
# Sources of tokens

Every token is cut from a source: a string from the literal with its quotes, any other token from its own text. A
source that stands alone is a single token, and where the scanner finds no token, no source of any token starts there
either. So the sources are told by rules of their own, without the scanner.
-/

namespace FixedExtract.Expression

variable {c quote : Char} {text body written rest after source : Text} {kind : TokenKind} {l : Lexeme}

/-! ## Between quotes -/

/-- What is written between quotes for a text. A backslash makes the next character stand for itself. -/
inductive Quotes (quote : Char) : Text → Text → Prop where
  | nil : Quotes quote [] []
  | plain {c : Char} {body written : Text} : c ≠ quote → c ≠ '\\' → Quotes quote body written →
      Quotes quote (c :: body) (c :: written)
  | escaped {c : Char} {body written : Text} : Quotes quote body written →
      Quotes quote (c :: body) ('\\' :: c :: written)

theorem IsQuote.ne_backslash (h : IsQuote quote) : quote ≠ '\\' := by
  rcases h with rfl | rfl
  · decide
  · decide

/-- A string is read up to the first quote that no backslash stands before. -/
theorem Quotes.quotedBody_eq (h : Quotes quote body written) (isQuote : IsQuote quote) (after : Text) :
    quotedBody quote (written ++ quote :: after) = some (body, after) := by
  induction h with
  | nil =>
    unfold quotedBody
    exact if_pos rfl
  | plain notQuote notBackslash _ ih =>
    unfold quotedBody
    simp only [List.cons_append, if_neg notQuote, if_neg notBackslash, ih]
    rfl
  | escaped _ ih =>
    unfold quotedBody
    simp only [List.cons_append, if_neg isQuote.ne_backslash.symm, if_true, ih]
    rfl

theorem quotes_of_quotedBody (h : quotedBody quote text = some (body, after)) :
    ∃ written, Quotes quote body written ∧ text = written ++ quote :: after := by
  fun_induction quotedBody quote text generalizing body after with
  | case1 => cases h
  | case2 rest =>
    cases h
    exact ⟨[], .nil, rfl⟩
  | case3 => cases h
  | case4 c rest notQuote ih =>
    obtain ⟨⟨b, a⟩, found, heq⟩ := Option.map_eq_some_iff.1 h
    cases heq
    obtain ⟨written, quotes, rfl⟩ := ih found
    exact ⟨'\\' :: c :: written, .escaped quotes, rfl⟩
  | case5 c rest notQuote notBackslash ih =>
    obtain ⟨⟨b, a⟩, found, heq⟩ := Option.map_eq_some_iff.1 h
    cases heq
    obtain ⟨written, quotes, rfl⟩ := ih found
    exact ⟨c :: written, .plain notQuote notBackslash quotes, rfl⟩

/-! ## The kinds of sources -/

/-- The source that a token of this kind and text is cut from. -/
inductive Source : TokenKind → Text → Text → Prop where
  | double {c d : Char} {kind : TokenKind} : doubleKind? c d = some kind → Source kind [c, d] [c, d]
  | single {c : Char} {kind : TokenKind} : singleKind? c = some kind → Source kind [c] [c]
  | string {quote : Char} {body written : Text} : IsQuote quote → Quotes quote body written →
      Source .string body (quote :: (written ++ [quote]))
  | number {text : Text} : Decimal.Written Text.isDigit text → Source .number text text
  | identifier {c : Char} {rest : Text} : startsIdentifier c = true → (∀ d ∈ rest, Text.isWord d = true) →
      Source .identifier (c :: rest) (c :: rest)
  | dot : Source .dot ['.'] ['.']

theorem Source.eq_text (h : Source kind text source) (notString : kind ≠ .string) : source = text := by
  cases h with
  | string => exact absurd rfl notString
  | double | single | number | identifier | dot => rfl

/-! ## What the first character tells -/

/-- The characters that operators and signs start with. -/
def signs : List Char := ['&', '|', '=', '!', '>', '<', '(', ')', ',']

theorem doubleKind?_front {d : Char} (h : doubleKind? c d = some kind) : c ∈ signs := by
  unfold doubleKind? at h
  split at h <;> first | decide | cases h

theorem singleKind?_front (h : singleKind? c = some kind) : c ∈ signs := by
  unfold singleKind? at h
  split at h <;> first | decide | cases h

theorem operatorLexeme?_eq_none (h : c ∉ signs) (rest : Text) : operatorLexeme? c rest = none := by
  have noSingle : singleKind? c = none := by
    rw [Option.eq_none_iff_forall_not_mem]
    exact fun kind found => h (singleKind?_front found)
  cases rest with
  | nil => rw [operatorLexeme?, noSingle]; rfl
  | cons d more =>
    have noDouble : doubleKind? c d = none := by
      rw [Option.eq_none_iff_forall_not_mem]
      exact fun kind found => h (doubleKind?_front found)
    rw [operatorLexeme?, noDouble, noSingle]
    rfl

/-- A character of a class that no sign is in is no sign. -/
theorem notMem_signs {p : Char → Bool} (none : signs.any p = false) (h : p c = true) : c ∉ signs := by
  intro sign
  exact List.any_eq_false.1 none c sign h

theorem operatorLexeme?_double {d : Char} (known : doubleKind? c d = some kind) (rest : Text) :
    operatorLexeme? c (d :: rest) = some ⟨kind, [c, d], rest⟩ := by
  unfold operatorLexeme?
  dsimp only
  rw [known]

theorem operatorLexeme?_alone (known : singleKind? c = some kind) :
    operatorLexeme? c [] = some ⟨kind, [c], []⟩ := by
  unfold operatorLexeme?
  rw [known]
  rfl

theorem exists_operatorLexeme? (known : singleKind? c = some kind) (rest : Text) :
    ∃ l, operatorLexeme? c rest = some l := by
  cases rest with
  | nil => exact ⟨_, operatorLexeme?_alone known⟩
  | cons d more =>
    cases double : doubleKind? c d with
    | some other => exact ⟨_, operatorLexeme?_double double more⟩
    | none => exact ⟨⟨kind, [c], d :: more⟩, by rw [operatorLexeme?, double, known]; rfl⟩

theorem exists_source_of_operator (h : operatorLexeme? c rest = some l) :
    ∃ source, Source l.kind l.text source ∧ c :: rest = source ++ l.rest := by
  have ofSingle : (singleKind? c).map (fun kind => (⟨kind, [c], rest⟩ : Lexeme)) = some l →
      ∃ source, Source l.kind l.text source ∧ c :: rest = source ++ l.rest := by
    intro found
    obtain ⟨kind, known, rfl⟩ := Option.map_eq_some_iff.1 found
    exact ⟨[c], .single known, rfl⟩
  unfold operatorLexeme? at h
  dsimp only at h
  split at h
  · split at h
    · next kind known =>
      cases h
      exact ⟨_, .double known, rfl⟩
    · exact ofSingle h
  · exact ofSingle h

theorem startsNumber_notMem_signs (h : startsNumber c rest = true) : c ∉ signs := by
  unfold startsNumber at h
  rw [Bool.or_eq_true, Bool.and_eq_true, decide_eq_true_eq] at h
  rcases h with digit | ⟨rfl, -⟩
  · exact notMem_signs (by decide) digit
  · decide

/-- A character below 128 that is no ASCII letter and no underscore starts no identifier. -/
theorem startsIdentifier_eq_false (ascii : c.toNat < 128) (notLetter : Text.isAsciiLetter c = false)
    (notUnderscore : c ≠ '_') : startsIdentifier c = false := by
  have other : Text.isLetter c = false := by
    rw [Bool.eq_false_iff]
    intro letter
    rw [Text.isAsciiLetter_of_isLetter letter ascii] at notLetter
    cases notLetter
  rw [startsIdentifier, other, decide_eq_false notUnderscore]
  rfl

theorem startsIdentifier_notMem_signs (h : startsIdentifier c = true) : c ∉ signs := by
  intro sign
  have plain : (signs.all fun d => Nat.blt d.toNat 128 && !Text.isAsciiLetter d && d ≠ '_') = true := by decide
  have here := List.all_eq_true.1 plain c sign
  rw [Bool.and_eq_true, Bool.and_eq_true, Nat.blt_eq, Bool.not_eq_true', decide_eq_true_eq] at here
  rw [startsIdentifier_eq_false here.1.1 here.1.2 here.2] at h
  cases h

theorem IsQuote.notMem_signs (h : IsQuote c) : c ∉ signs := by
  rcases h with rfl | rfl
  · decide
  · decide

theorem startsNumber_eq_false (notDigit : Text.isDigit c = false) (notMinus : c ≠ '-') (rest : Text) :
    startsNumber c rest = false := by
  unfold startsNumber
  rw [notDigit, decide_eq_false notMinus]
  rfl

/-- A number starts with a digit or a minus sign, and an identifier with neither. -/
theorem startsNumber_of_startsIdentifier (h : startsIdentifier c = true) (rest : Text) :
    startsNumber c rest = false := by
  rw [startsIdentifier, Bool.or_eq_true, decide_eq_true_eq] at h
  rcases h with letter | rfl
  · refine startsNumber_eq_false (Text.isDigit_eq_false_of_isLetter letter) ?_ rest
    rintro rfl
    exact absurd (Text.isAsciiLetter_of_isLetter letter (by decide)) (by decide)
  · exact startsNumber_eq_false (by decide) (by decide) rest

theorem IsQuote.starts_nothing (h : IsQuote c) (rest : Text) :
    startsNumber c rest = false ∧ startsIdentifier c = false := by
  rcases h with rfl | rfl
  · exact ⟨startsNumber_eq_false (by decide) (by decide) rest, startsIdentifier_eq_false (by decide) rfl (by decide)⟩
  · exact ⟨startsNumber_eq_false (by decide) (by decide) rest, startsIdentifier_eq_false (by decide) rfl (by decide)⟩

/-! ## Tokens by their first character -/

theorem lexeme_operator (h : operatorLexeme? c rest = some l) : lexeme c rest = .ok l := by
  rw [lexeme, h]

theorem lexeme_quote (h : IsQuote c) (rest : Text) :
    lexeme c rest = match quotedBody c rest with
      | some (body, after) => .ok ⟨.string, body, after⟩
      | none => .error .unterminatedString := by
  rw [lexeme, operatorLexeme?_eq_none h.notMem_signs]
  exact if_pos h

theorem lexeme_number (h : startsNumber c rest = true) :
    lexeme c rest = .ok ⟨.number, c :: (numberTail rest).1, (numberTail rest).2⟩ := by
  have notQuote : ¬ (c = '\x27' ∨ c = '"') := by
    intro isQuote
    rw [(IsQuote.starts_nothing isQuote rest).1] at h
    cases h
  rw [lexeme, operatorLexeme?_eq_none (startsNumber_notMem_signs h)]
  dsimp only
  rw [if_neg notQuote, if_pos h]

theorem lexeme_identifier (h : startsIdentifier c = true) (rest : Text) :
    lexeme c rest = .ok ⟨.identifier, c :: rest.takeWhile Text.isWord, rest.dropWhile Text.isWord⟩ := by
  have notQuote : ¬ (c = '\x27' ∨ c = '"') := by
    intro isQuote
    rw [(IsQuote.starts_nothing isQuote rest).2] at h
    cases h
  have notNumber : ¬ startsNumber c rest = true := by
    rw [startsNumber_of_startsIdentifier h rest]
    exact Bool.false_ne_true
  rw [lexeme, operatorLexeme?_eq_none (startsIdentifier_notMem_signs h)]
  dsimp only
  rw [if_neg notQuote, if_neg notNumber, if_pos h]

theorem lexeme_dot (rest : Text) : lexeme '.' rest = .ok ⟨.dot, ['.'], rest⟩ := by
  have notNumber : startsNumber '.' rest = false := startsNumber_eq_false (by decide) (by decide) rest
  have notIdentifier : startsIdentifier '.' = false := startsIdentifier_eq_false (by decide) rfl (by decide)
  rw [lexeme, operatorLexeme?_eq_none (by decide)]
  simp [notNumber, notIdentifier]

/-! ## Sources and tokens -/

/-- What is cut off the front is a source of the token. -/
theorem exists_source_of_lexeme (h : lexeme c rest = .ok l) :
    ∃ source, Source l.kind l.text source ∧ c :: rest = source ++ l.rest := by
  unfold lexeme at h
  split at h
  · next found operator =>
    cases h
    exact exists_source_of_operator operator
  · split at h
    · next isQuote =>
      split at h
      · next body after found =>
        cases h
        obtain ⟨written, quotes, rfl⟩ := quotes_of_quotedBody found
        exact ⟨c :: (written ++ [c]), .string isQuote quotes, by simp⟩
      · cases h
    · split at h
      · next starts =>
        cases h
        exact ⟨_, .number (number_written starts), congrArg (c :: ·) (numberTail_eq rest).symm⟩
      · split at h
        · next starts =>
          cases h
          have whole : rest.takeWhile Text.isWord ++ rest.dropWhile Text.isWord = rest :=
            List.takeWhile_append_dropWhile
          exact ⟨_, .identifier starts fun d hd => List.mem_takeWhile_imp hd, congrArg (c :: ·) whole.symm⟩
        · split at h
          · next point =>
            cases h
            subst point
            exact ⟨_, .dot, rfl⟩
          · cases h

/-- A number in digits starts like one. -/
theorem startsNumber_of_written (h : Decimal.Written Text.isDigit source) (cut : c :: rest = source ++ after) :
    startsNumber c rest = true := by
  obtain ⟨negative, whole, fraction, rfl, nonEmpty, digits, -⟩ := h
  obtain ⟨d, more, rfl⟩ := List.exists_cons_of_ne_nil nonEmpty
  have digit : Text.isDigit d = true := digits d List.mem_cons_self
  cases negative with
  | true =>
    cases cut
    exact digit
  | false =>
    cases cut
    unfold startsNumber
    rw [digit]
    rfl

/-- Where a source starts, a token is found. -/
theorem Source.exists_lexeme (h : Source kind text source) (cut : c :: rest = source ++ after) :
    ∃ l, lexeme c rest = .ok l := by
  cases h with
  | double known =>
    obtain ⟨rfl, rfl⟩ := List.cons.inj cut
    exact ⟨_, lexeme_operator (operatorLexeme?_double known after)⟩
  | single known =>
    obtain ⟨rfl, -⟩ := List.cons.inj cut
    obtain ⟨l, found⟩ := exists_operatorLexeme? known rest
    exact ⟨l, lexeme_operator found⟩
  | @string _ _ written isQuote quotes =>
    obtain ⟨rfl, here⟩ := List.cons.inj cut
    have closed : rest = written ++ c :: after := by
      rw [here]
      simp
    rw [lexeme_quote isQuote, closed, quotes.quotedBody_eq isQuote]
    exact ⟨_, rfl⟩
  | number numeral => exact ⟨_, lexeme_number (startsNumber_of_written numeral cut)⟩
  | identifier starts _ =>
    obtain ⟨rfl, -⟩ := List.cons.inj cut
    exact ⟨_, lexeme_identifier starts rest⟩
  | dot =>
    obtain ⟨rfl, -⟩ := List.cons.inj cut
    exact ⟨_, lexeme_dot rest⟩

/-- The text starts with no source of a token. -/
def StartsNoToken (text : Text) : Prop :=
  ∀ kind token source after, Source kind token source → text ≠ source ++ after

/-- There are two ways to find no token: a quote whose string has no end, and a character that is there for nothing. -/
theorem lexeme_error_cases {problem : LexProblem} (h : lexeme c rest = .error problem) :
    (problem = .unterminatedString ∧ IsQuote c) ∨
      (problem = .unexpectedCharacter c ∧ ¬ IsQuote c ∧ operatorLexeme? c rest = none ∧
        startsNumber c rest = false ∧ startsIdentifier c = false ∧ c ≠ '.') := by
  unfold lexeme at h
  split at h
  · cases h
  · next noOperator =>
    split at h
    · next isQuote =>
      split at h
      · cases h
      · cases h
        exact .inl ⟨rfl, isQuote⟩
    · next notQuote =>
      split at h
      · cases h
      · next notNumber =>
        split at h
        · cases h
        · next notIdentifier =>
          split at h
          · cases h
          · next notDot =>
            cases h
            exact .inr ⟨rfl, notQuote, noOperator, Bool.eq_false_iff.2 notNumber, Bool.eq_false_iff.2 notIdentifier,
              notDot⟩

/-- Where no token is found, none starts. -/
theorem startsNoToken_of_lexeme {problem : LexProblem} (h : lexeme c rest = .error problem) :
    StartsNoToken (c :: rest) ∧
      match problem with
      | .unterminatedString => IsQuote c
      | .unexpectedCharacter d => d = c ∧ ¬ IsQuote c := by
  constructor
  · intro kind token source after isSource cut
    obtain ⟨l, found⟩ := isSource.exists_lexeme cut
    rw [h] at found
    cases found
  · rcases lexeme_error_cases h with ⟨rfl, isQuote⟩ | ⟨rfl, notQuote, -⟩
    · exact isQuote
    · exact ⟨rfl, notQuote⟩

/-- A character that is there for nothing starts no token whatever follows, unless it is one of the three that only
start one with another character behind them. -/
theorem startsNoToken_of_unexpected {d : Char} (h : lexeme c rest = .error (.unexpectedCharacter d)) :
    c ∈ ['-', '&', '|'] ∨ ∀ behind, StartsNoToken (c :: behind) := by
  by_cases halves : c ∈ ['-', '&', '|']
  · exact .inl halves
  right
  intro behind
  rcases lexeme_error_cases h with ⟨problem, -⟩ | ⟨-, notQuote, noOperator, notNumber, notIdentifier, notDot⟩
  · cases problem
  -- What follows decides only for the three: any other sign is a token by itself, and a digit is a number.
  have noSign : c ∉ signs := by
    intro sign
    have alone : (signs.all fun e => e ∈ ['-', '&', '|'] || (singleKind? e).isSome) = true := by decide
    have here := List.all_eq_true.1 alone c sign
    rw [Bool.or_eq_true, decide_eq_true_eq] at here
    obtain ⟨kind, known⟩ := Option.isSome_iff_exists.1 (here.resolve_left halves)
    obtain ⟨l, found⟩ := exists_operatorLexeme? known rest
    rw [noOperator] at found
    cases found
  have noDigit : Text.isDigit c = false := by
    unfold startsNumber at notNumber
    exact (Bool.or_eq_false_iff.1 notNumber).1
  have notMinus : c ≠ '-' := by
    rintro rfl
    exact halves List.mem_cons_self
  have again : lexeme c behind = .error (.unexpectedCharacter c) := by
    have other : ¬ (c = '\x27' ∨ c = '"') := notQuote
    rw [lexeme, operatorLexeme?_eq_none noSign]
    dsimp only
    rw [if_neg other, startsNumber_eq_false noDigit notMinus, notIdentifier, if_neg Bool.false_ne_true,
      if_neg Bool.false_ne_true, if_neg notDot]
  exact (startsNoToken_of_lexeme again).1

/-! ## Sources that stand alone -/

/-- Digits, and a point with digits behind it, go on to their end. -/
theorem numberTail_digits {whole fraction : Text} (wholeDigits : ∀ d ∈ whole, Text.isDigit d = true)
    (fractionDigits : ∀ d ∈ fraction, Text.isDigit d = true) :
    numberTail (whole ++ Decimal.pointAnd fraction) = (whole ++ Decimal.pointAnd fraction, []) := by
  have ends : ∀ d ∈ (Decimal.pointAnd fraction).head?, Text.isDigit d = false := by
    unfold Decimal.pointAnd
    split
    · simp
    · intro d hd
      cases hd
      decide
  have taken : whole.takeWhile Text.isDigit = whole := List.takeWhile_eq_self_iff.2 wholeDigits
  have dropped : whole.dropWhile Text.isDigit = [] := List.dropWhile_eq_nil_iff.2 wholeDigits
  unfold numberTail
  dsimp only
  rw [Text.takeWhile_append_apart ends, Text.dropWhile_append_apart ends, taken, dropped, List.nil_append]
  cases fraction with
  | nil => exact Prod.ext (List.append_nil whole).symm rfl
  | cons d more =>
    obtain ⟨digit, moreDigits⟩ := List.forall_mem_cons.1 fractionDigits
    have point : Decimal.pointAnd (d :: more) = '.' :: d :: more := if_neg (List.cons_ne_nil d more)
    rw [point]
    show (if Text.isDigit d = true then _ else _) = _
    rw [if_pos digit, List.takeWhile_eq_self_iff.2 moreDigits, List.dropWhile_eq_nil_iff.2 moreDigits]

theorem numberTail_alone (h : Decimal.Written Text.isDigit (c :: rest)) : numberTail rest = (rest, []) := by
  obtain ⟨negative, whole, fraction, cut, nonEmpty, wholeDigits, fractionDigits⟩ := h
  cases negative with
  | true =>
    obtain ⟨-, rfl⟩ := List.cons.inj cut
    exact numberTail_digits wholeDigits fractionDigits
  | false =>
    obtain ⟨d, more, rfl⟩ := List.exists_cons_of_ne_nil nonEmpty
    obtain ⟨-, rfl⟩ := List.cons.inj cut
    exact numberTail_digits (List.forall_mem_cons.1 wholeDigits).2 fractionDigits

/-- A source that nothing follows is a token as a whole. -/
theorem Source.lexeme_alone (h : Source kind text (c :: rest)) : lexeme c rest = .ok ⟨kind, text, []⟩ := by
  cases h with
  | double known => exact lexeme_operator (operatorLexeme?_double known [])
  | single known => exact lexeme_operator (operatorLexeme?_alone known)
  | string isQuote quotes =>
    rw [lexeme_quote isQuote, quotes.quotedBody_eq isQuote]
  | number numeral =>
    rw [lexeme_number (startsNumber_of_written numeral (List.append_nil _).symm), numberTail_alone numeral]
  | identifier starts words =>
    rw [lexeme_identifier starts, List.takeWhile_eq_self_iff.2 words, List.dropWhile_eq_nil_iff.2 words]
  | dot => exact lexeme_dot []

theorem Source.ne_nil (h : Source kind text source) : source ≠ [] := by
  cases h with
  | number numeral =>
    obtain ⟨negative, whole, fraction, rfl, nonEmpty, -⟩ := numeral
    simp [Decimal.written, nonEmpty]
  | double | single | string | identifier | dot => exact List.cons_ne_nil _ _

/-- No source starts with white space. -/
theorem Source.isSpace_eq_false (h : Source kind text (c :: rest)) : Text.isSpace c = false := by
  have ofSign : c ∈ signs → Text.isSpace c = false := by
    intro sign
    rw [Bool.eq_false_iff]
    intro space
    exact notMem_signs (by decide) space sign
  cases h with
  | double known => exact ofSign (doubleKind?_front known)
  | single known => exact ofSign (singleKind?_front known)
  | string isQuote =>
    rcases isQuote with rfl | rfl
    · decide
    · decide
  | number numeral => exact numeral.isSpace_eq_false c List.mem_cons_self
  | identifier starts =>
    rw [Bool.eq_false_iff]
    intro space
    have notWord := Text.isWord_eq_false_of_isSpace space
    have word : Text.isWord c = true := by
      rw [startsIdentifier, Bool.or_eq_true] at starts
      rw [Text.isWord, Text.isAlphanumeric, Bool.or_eq_true, Bool.or_eq_true, Bool.or_eq_true]
      exact starts.imp (fun letter => .inl (.inl letter)) id
    rw [notWord] at word
    cases word
  | dot => decide

end FixedExtract.Expression
