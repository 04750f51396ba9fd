import FixedExtract.Expression.Fault
import FixedExtract.Text.Class
/-!
# Tokens of expressions

A token is a kind, a text and the position it starts at. The text is the token as written, except that
a string token holds what the string stands for. `lexeme` cuts one token off the front of a text.
-/

namespace FixedExtract.Expression

inductive TokenKind where
  | identifier
  | string
  | number
  | operator
  | and
  | or
  | bang
  | leftParen
  | rightParen
  | comma
  | dot
  | stop
  deriving DecidableEq, Repr

def TokenKind.name : TokenKind → Text
  | .identifier => "IDENT"
  | .string => "STRING"
  | .number => "NUMBER"
  | .operator => "OP"
  | .and => "AND"
  | .or => "OR"
  | .bang => "BANG"
  | .leftParen => "LPAREN"
  | .rightParen => "RPAREN"
  | .comma => "COMMA"
  | .dot => "DOT"
  | .stop => "EOF"

structure Token where
  kind : TokenKind
  text : Text
  position : Nat
  deriving DecidableEq, Repr

/-- A token cut off the front of a text, and the text behind it. -/
structure Lexeme where
  kind : TokenKind
  text : Text
  rest : Text

/-- Why no token starts here. -/
inductive LexProblem where
  | unterminatedString
  | unexpectedCharacter (c : Char)
  deriving DecidableEq, Repr

/-! ## Strings and numbers -/

/-- The content of a string up to its closing quote, and the text behind the quote. A backslash makes
the next character stand for itself. -/
def quotedBody (quote : Char) : Text → Option (Text × Text)
  | [] => none
  | c :: rest =>
    if c = quote then some ([], rest)
    else if c = '\\' then
      match rest with
      | [] => none
      | d :: more => (quotedBody quote more).map fun (body, after) => (d :: body, after)
    else (quotedBody quote rest).map fun (body, after) => (c :: body, after)

/-- The rest of a number: its digits, and a fraction if a point with a digit behind it follows. -/
def numberTail (text : Text) : Text × Text :=
  let whole := text.takeWhile Text.isDigit
  match text.dropWhile Text.isDigit with
  | '.' :: d :: more =>
    if Text.isDigit d then
      (whole ++ '.' :: d :: more.takeWhile Text.isDigit, more.dropWhile Text.isDigit)
    else (whole, '.' :: d :: more)
  | after => (whole, after)

/-- Does a number start with `c` when `rest` follows? -/
def startsNumber (c : Char) (rest : Text) : Bool :=
  Text.isDigit c || (c = '-' && match rest with
    | d :: _ => Text.isDigit d
    | [] => false)

/-- Does an identifier start with this character? -/
def startsIdentifier (c : Char) : Bool := Text.isLetter c || c = '_'

/-! ## One token -/

/-- The operators of two characters. -/
def doubleKind? : Char → Char → Option TokenKind
  | '&', '&' => some .and
  | '|', '|' => some .or
  | '=', '=' => some .operator
  | '!', '=' => some .operator
  | '>', '=' => some .operator
  | '<', '=' => some .operator
  | _, _ => none

/-- The operators and signs of one character. -/
def singleKind? : Char → Option TokenKind
  | '=' => some .operator
  | '<' => some .operator
  | '>' => some .operator
  | '!' => some .bang
  | '(' => some .leftParen
  | ')' => some .rightParen
  | ',' => some .comma
  | _ => none

/-- The operator or sign at the front of a text. -/
def operatorLexeme? (c : Char) (rest : Text) : Option Lexeme :=
  let single := (singleKind? c).map fun kind => ⟨kind, [c], rest⟩
  match rest with
  | d :: more =>
    match doubleKind? c d with
    | some kind => some ⟨kind, [c, d], more⟩
    | none => single
  | [] => single

/-- The token at the front of a text that starts with the character `c`, which is no white space. -/
def lexeme (c : Char) (rest : Text) : Except LexProblem Lexeme :=
  match operatorLexeme? c rest with
  | some found => .ok found
  | none =>
    if c = '\x27' ∨ c = '"' then
      match quotedBody c rest with
      | some (body, after) => .ok ⟨.string, body, after⟩
      | none => .error .unterminatedString
    else if startsNumber c rest then
      let (digits, after) := numberTail rest
      .ok ⟨.number, c :: digits, after⟩
    else if startsIdentifier c then
      .ok ⟨.identifier, c :: rest.takeWhile Text.isWord, rest.dropWhile Text.isWord⟩
    else if c = '.' then .ok ⟨.dot, ['.'], rest⟩
    else .error (.unexpectedCharacter c)

/-! ## Every token shortens the text -/

theorem length_dropWhile_le (p : Char → Bool) (text : Text) :
    (text.dropWhile p).length ≤ text.length :=
  (List.dropWhile_suffix p).length_le

theorem quotedBody_length {quote : Char} {text body after : Text}
    (h : quotedBody quote text = some (body, after)) : after.length ≤ text.length := by
  fun_induction quotedBody quote text generalizing body after with
  | case1 => simp at h
  | case2 rest =>
    simp only [Option.some.injEq, Prod.mk.injEq] at h
    simp [← h.2]
  | case3 => simp at h
  | case4 _ d more ih =>
    obtain ⟨⟨b, a⟩, hb, heq⟩ := Option.map_eq_some_iff.1 h
    cases heq
    have := ih hb
    simp only [List.length_cons]
    omega
  | case5 c rest _ _ ih =>
    obtain ⟨⟨b, a⟩, hb, heq⟩ := Option.map_eq_some_iff.1 h
    cases heq
    have := ih hb
    simp only [List.length_cons]
    omega

theorem numberTail_length (text : Text) : (numberTail text).2.length ≤ text.length := by
  have whole := length_dropWhile_le Text.isDigit text
  unfold numberTail
  split
  · next d more heq =>
    rw [heq] at whole
    simp only [List.length_cons] at whole
    split
    · have := length_dropWhile_le Text.isDigit more
      simp only
      omega
    · simp only [List.length_cons]
      omega
  · next heq => exact whole

theorem operatorLexeme?_length {c : Char} {rest : Text} {l : Lexeme}
    (h : operatorLexeme? c rest = some l) : l.rest.length ≤ rest.length := by
  unfold operatorLexeme? at h
  have single : ∀ {kind? : Option TokenKind} {text : Text},
      kind?.map (fun kind => (⟨kind, [c], text⟩ : Lexeme)) = some l → l.rest = text := by
    intro kind? text hmap
    obtain ⟨_, _, rfl⟩ := Option.map_eq_some_iff.1 hmap
    rfl
  split at h
  · split at h
    · cases h
      simp
    · exact Nat.le_of_eq (congrArg List.length (single h))
  · exact Nat.le_of_eq (congrArg List.length (single h))

/-- What is behind a token is no longer than what was behind its first character. -/
theorem lexeme_length {c : Char} {rest : Text} {l : Lexeme} (h : lexeme c rest = .ok l) :
    l.rest.length ≤ rest.length := by
  unfold lexeme at h
  split at h
  · next found hfound =>
    cases h
    exact operatorLexeme?_length hfound
  · split at h
    · split at h
      · next body after hbody =>
        cases h
        exact quotedBody_length hbody
      · cases h
    · split at h
      · cases h
        exact numberTail_length rest
      · split at h
        · cases h
          exact length_dropWhile_le _ _
        · split at h
          · cases h
            exact Nat.le_refl _
          · cases h

/-! ## Splitting expressions into tokens

White space between tokens is dropped. The list of tokens has no mark for its end; `tokensWithStop` adds
one, whose position is the length of the text.
-/

/-- The tokens of a text that starts at a position of the expression, or why and where none starts. -/
def scan (position : Nat) (text : Text) : Except (Nat × LexProblem) (List Token) :=
  match text with
  | [] => .ok []
  | c :: rest =>
    if Text.isSpace c then scan (position + 1) rest
    else
      match h : lexeme c rest with
      | .error problem => .error (position, problem)
      | .ok found =>
        (scan (position + (rest.length + 1 - found.rest.length)) found.rest).map fun tokens =>
          ⟨found.kind, found.text, position⟩ :: tokens
termination_by text.length
decreasing_by
  · simp
  · have := lexeme_length h
    simp only [List.length_cons]
    omega

def LexProblem.cause : LexProblem → Cause
  | .unterminatedString => .unterminatedString
  | .unexpectedCharacter c => .unexpectedCharacter c

/-- The tokens of an expression. -/
def tokens (expression : Text) : Except Fault (List Token) :=
  match scan 0 expression with
  | .ok found => .ok found
  | .error (position, problem) => .error ⟨expression, position, problem.cause⟩

/-- The tokens of an expression with a mark at its end. -/
def tokensWithStop (expression : Text) : Except Fault (List Token) :=
  (tokens expression).map fun found => found ++ [⟨.stop, [], expression.length⟩]

end FixedExtract.Expression
