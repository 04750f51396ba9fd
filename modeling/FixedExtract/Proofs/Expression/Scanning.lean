import FixedExtract.Expression.Token
import FixedExtract.Proofs.Decimal.Written
import FixedExtract.Proofs.Traversal
/-!
# Scanning texts piece by piece

A token does not reach over a seam: where the text behind starts with a character that goes on with no token,
the tokens of the two texts together are the tokens of each. Only a string that is still open could swallow
what follows, so the text behind has no quotes or the text in front can be scanned by itself.
-/

namespace FixedExtract.Expression

/-! ## Numbers among the tokens -/

theorem doubleKind?_ne_number {c d : Char} : doubleKind? c d ≠ some .number := by
  unfold doubleKind?
  split <;> simp

theorem singleKind?_ne_number {c : Char} : singleKind? c ≠ some .number := by
  unfold singleKind?
  split <;> simp

theorem operatorLexeme?_ne_number {c : Char} {rest : Text} {l : Lexeme}
    (h : operatorLexeme? c rest = some l) : l.kind ≠ .number := by
  have single : (singleKind? c).map (fun kind => (⟨kind, [c], rest⟩ : Lexeme)) = some l →
      l.kind ≠ .number := by
    intro hmap
    obtain ⟨kind, hk, rfl⟩ := Option.map_eq_some_iff.1 hmap
    rintro rfl
    exact singleKind?_ne_number hk
  unfold operatorLexeme? at h
  dsimp only at h
  split at h
  · split at h
    · next kind hk =>
      cases h
      rintro rfl
      exact doubleKind?_ne_number hk
    · exact single h
  · exact single h

/-- A number goes on with its digits and, behind a point, the digits of its fraction. -/
theorem numberTail_written (text : Text) :
    ∃ fraction, (numberTail text).1 = text.takeWhile Text.isDigit ++ Decimal.pointAnd fraction ∧
      ∀ c ∈ fraction, Text.isDigit c = true := by
  unfold numberTail
  dsimp only
  split
  · next d more _ =>
    split
    · next digit =>
      refine ⟨d :: more.takeWhile Text.isDigit, rfl, ?_⟩
      intro c hc
      rcases List.mem_cons.1 hc with rfl | hc
      · exact digit
      · exact List.mem_takeWhile_imp hc
    · exact ⟨[], (List.append_nil _).symm, by simp⟩
  · exact ⟨[], (List.append_nil _).symm, by simp⟩

/-- The number and the text behind it are the whole text. -/
theorem numberTail_eq (text : Text) : (numberTail text).1 ++ (numberTail text).2 = text := by
  have whole : text.takeWhile Text.isDigit ++ text.dropWhile Text.isDigit = text :=
    List.takeWhile_append_dropWhile
  unfold numberTail
  dsimp only
  split
  · next d more behind =>
    split
    · have fraction : more.takeWhile Text.isDigit ++ more.dropWhile Text.isDigit = more :=
        List.takeWhile_append_dropWhile
      rw [List.append_assoc, List.cons_append, List.cons_append, fraction, ← behind, whole]
    · rw [← behind, whole]
  · exact whole

theorem number_written {c : Char} {rest : Text} (starts : startsNumber c rest = true) :
    Decimal.Written Text.isDigit (c :: (numberTail rest).1) := by
  obtain ⟨fraction, tail, fractionDigits⟩ := numberTail_written rest
  have wholeDigits : ∀ d ∈ rest.takeWhile Text.isDigit, Text.isDigit d = true :=
    fun d hd => List.mem_takeWhile_imp hd
  rw [tail]
  by_cases digit : Text.isDigit c = true
  · refine ⟨false, c :: rest.takeWhile Text.isDigit, fraction, rfl, by simp, ?_, fractionDigits⟩
    exact List.forall_mem_cons.2 ⟨digit, wholeDigits⟩
  · -- The number starts with its sign, and a digit follows.
    unfold startsNumber at starts
    rw [Bool.eq_false_iff.2 digit, Bool.false_or, Bool.and_eq_true, decide_eq_true_eq] at starts
    obtain ⟨rfl, follows⟩ := starts
    refine ⟨true, rest.takeWhile Text.isDigit, fraction, rfl, ?_, wholeDigits, fractionDigits⟩
    match rest with
    | [] => cases follows
    | d :: _ =>
      have digit : Text.isDigit d = true := follows
      rw [List.takeWhile_cons_of_pos digit]
      exact List.cons_ne_nil _ _

theorem lexeme_written {c : Char} {rest : Text} {l : Lexeme} (h : lexeme c rest = .ok l)
    (number : l.kind = .number) :
    Decimal.Written Text.isDigit l.text ∧ l.text.length ≤ rest.length + 1 := by
  unfold lexeme at h
  split at h
  · next found hfound =>
    cases h
    exact absurd number (operatorLexeme?_ne_number hfound)
  · split at h
    · split at h
      · cases h
        cases number
      · cases h
    · split at h
      · next starts =>
        cases h
        have parts := congrArg List.length (numberTail_eq rest)
        rw [List.length_append] at parts
        have short : (numberTail rest).1.length ≤ rest.length := by omega
        exact ⟨number_written starts, Nat.succ_le_succ short⟩
      · split at h
        · cases h
          cases number
        · split at h
          · cases h
            cases number
          · cases h

/-! ## Seams -/

/-- No token that starts before this character goes on with it. -/
def Breaks (d : Char) : Prop := Text.isWord d = false ∧ d ≠ '.' ∧ ∀ c, doubleKind? c d = none

/-- The text starts with a character that goes on with no token. -/
def Seam (rest : Text) : Prop := ∀ d ∈ rest.head?, Breaks d

/-- Strings stand between these. -/
def IsQuote (c : Char) : Prop := c = '\x27' ∨ c = '"'

theorem Breaks.not_digit {d : Char} (h : Breaks d) : Text.isDigit d = false := by
  rw [Bool.eq_false_iff]
  intro digit
  have word : Text.isWord d = true := by simp [Text.isWord, Text.isAlphanumeric, digit]
  rw [h.1] at word
  cases word

theorem doubleKind?_eq_none {d : Char} (h : d ≠ '&' ∧ d ≠ '|' ∧ d ≠ '=') (c : Char) :
    doubleKind? c d = none := by
  obtain ⟨h₁, h₂, h₃⟩ := h
  unfold doubleKind?
  split <;> first | rfl | contradiction

theorem quotedBody_append_of_some {quote : Char} {text body after : Text} (rest : Text)
    (h : quotedBody quote text = some (body, after)) :
    quotedBody quote (text ++ rest) = some (body, after ++ rest) := by
  fun_induction quotedBody quote text generalizing body after with
  | case1 => cases h
  | case2 more =>
    cases h
    unfold quotedBody
    rw [List.cons_append]
    exact if_pos rfl
  | case3 => cases h
  | case4 d more notQuote ih =>
    obtain ⟨⟨b, a⟩, hb, heq⟩ := Option.map_eq_some_iff.1 h
    cases heq
    unfold quotedBody
    simp only [List.cons_append, if_neg notQuote, if_true, ih hb]
    rfl
  | case5 c more notQuote plain ih =>
    obtain ⟨⟨b, a⟩, hb, heq⟩ := Option.map_eq_some_iff.1 h
    cases heq
    unfold quotedBody
    simp only [List.cons_append, if_neg notQuote, if_neg plain, ih hb]
    rfl

/-- A string stays open when the closing quote is not in the text behind. -/
theorem quotedBody_append_of_none {quote : Char} {text rest : Text} (isOpen : quotedBody quote text = none)
    (absent : quote ∉ rest) : quotedBody quote (text ++ rest) = none := by
  -- With no quote at all in it, a text is the body of no string.
  have without : ∀ {text : Text}, quote ∉ text → quotedBody quote text = none := by
    intro text absent
    fun_induction quotedBody quote text with
    | case1 => rfl
    | case2 more => exact absurd List.mem_cons_self absent
    | case3 => rfl
    | case4 d more notQuote ih =>
      rw [ih fun h => absent (List.mem_cons_of_mem _ (List.mem_cons_of_mem _ h))]
      rfl
    | case5 c more notQuote plain ih =>
      rw [ih fun h => absent (List.mem_cons_of_mem _ h)]
      rfl
  fun_induction quotedBody quote text with
  | case1 => exact without absent
  | case2 more => cases isOpen
  | case3 notQuote =>
    unfold quotedBody
    simp only [List.singleton_append, if_neg notQuote, if_true]
    cases rest with
    | nil => rfl
    | cons d rest =>
      dsimp only
      rw [without fun h => absent (List.mem_cons_of_mem _ h)]
      rfl
  | case4 d more notQuote ih =>
    rw [Option.map_eq_none_iff] at isOpen
    unfold quotedBody
    simp only [List.cons_append, if_neg notQuote, if_true, ih isOpen]
    rfl
  | case5 c more notQuote plain ih =>
    rw [Option.map_eq_none_iff] at isOpen
    unfold quotedBody
    simp only [List.cons_append, if_neg notQuote, if_neg plain, ih isOpen]
    rfl

section
variable {rest : Text} (seam : Seam rest)
include seam

theorem numberTail_append (text : Text) :
    numberTail (text ++ rest) = ((numberTail text).1, (numberTail text).2 ++ rest) := by
  have apart : ∀ d ∈ rest.head?, Text.isDigit d = false := fun d hd => (seam d hd).not_digit
  unfold numberTail
  dsimp only
  rw [Text.takeWhile_append_apart apart, Text.dropWhile_append_apart apart]
  -- A fraction behind the digits of the text does not begin or go on in the text behind.
  match text.dropWhile Text.isDigit with
  | [] =>
    match rest with
    | [] => rfl
    | d :: more =>
      have notPoint := (seam d rfl).2.1
      split
      · next heq =>
        cases heq
        exact absurd rfl notPoint
      · rfl
  | c :: more =>
    by_cases point : c = '.'
    · subst point
      match more with
      | [] =>
        match rest with
        | [] => rfl
        | d :: more =>
          have notDigit := apart d rfl
          simp [notDigit]
      | d :: more =>
        simp only [List.cons_append]
        rw [Text.takeWhile_append_apart apart, Text.dropWhile_append_apart apart]
        split <;> rfl
    · rw [List.cons_append]
      split
      · next heq => exact absurd (List.cons.inj heq).1 point
      · split
        · next heq => exact absurd (List.cons.inj heq).1 point
        · rfl

theorem startsNumber_append (c : Char) (text : Text) :
    startsNumber c (text ++ rest) = startsNumber c text := by
  unfold startsNumber
  cases text with
  | cons d more => rfl
  | nil =>
    cases rest with
    | nil => rfl
    | cons d more =>
      have := (seam d rfl).not_digit
      simp [this]

theorem operatorLexeme?_append (c : Char) (text : Text) :
    operatorLexeme? c (text ++ rest) =
      (operatorLexeme? c text).map fun l => { l with rest := l.rest ++ rest } := by
  unfold operatorLexeme?
  dsimp only
  match text with
  | [] =>
    match rest with
    | [] =>
      cases singleKind? c <;> rfl
    | d :: more =>
      rw [List.nil_append]
      dsimp only
      rw [(seam d rfl).2.2 c]
      cases singleKind? c <;> rfl
  | d :: more =>
    rw [List.cons_append]
    dsimp only
    cases doubleKind? c d with
    | some kind => rfl
    | none => cases singleKind? c <;> rfl

/-- The token at the front of a text stays when text is put behind a seam, unless a string is still open
and the text behind closes it. -/
theorem lexeme_append (c : Char) (text : Text)
    (closed : (∃ found, lexeme c text = .ok found) ∨ (IsQuote c → c ∉ rest)) :
    lexeme c (text ++ rest) = (lexeme c text).map fun l => { l with rest := l.rest ++ rest } := by
  have apart : ∀ d ∈ rest.head?, Text.isWord d = false := fun d hd => (seam d hd).1
  -- The kinds of tokens are tried in order, and none of them looks across the seam.
  unfold lexeme at closed ⊢
  rw [operatorLexeme?_append seam]
  cases operator : operatorLexeme? c text with
  | some found => rfl
  | none =>
    dsimp only [Option.map_none]
    by_cases quote : c = '\x27' ∨ c = '"'
    · rw [if_pos quote, if_pos quote]
      cases body : quotedBody c text with
      | some read =>
        rw [quotedBody_append_of_some rest body]
        rfl
      | none =>
        have absent : c ∉ rest := by
          rcases closed with ⟨found, h⟩ | absent
          · rw [operator, body, if_pos quote] at h
            cases h
          · exact absent quote
        rw [quotedBody_append_of_none body absent]
        rfl
    · rw [if_neg quote, if_neg quote, startsNumber_append seam, numberTail_append seam,
        Text.takeWhile_append_apart apart, Text.dropWhile_append_apart apart]
      split
      · rfl
      · split
        · rfl
        · split <;> rfl

end

/-! ## Scanning -/

theorem scan_space {c : Char} (space : Text.isSpace c = true) (position : Nat) (rest : Text) :
    scan position (c :: rest) = scan (position + 1) rest := by
  rw [scan, if_pos space]

theorem scan_error {c : Char} {rest : Text} {problem : LexProblem} (space : Text.isSpace c = false)
    (h : lexeme c rest = .error problem) (position : Nat) :
    scan position (c :: rest) = .error (position, problem) := by
  rw [scan, if_neg (Bool.eq_false_iff.1 space)]
  split
  · next heq =>
    rw [h] at heq
    cases heq
    rfl
  · next heq =>
    rw [h] at heq
    cases heq

theorem scan_token {c : Char} {rest : Text} {found : Lexeme} (space : Text.isSpace c = false)
    (h : lexeme c rest = .ok found) (position : Nat) :
    scan position (c :: rest) =
      (scan (position + (rest.length + 1 - found.rest.length)) found.rest).map fun tokens =>
        ⟨found.kind, found.text, position⟩ :: tokens := by
  rw [scan, if_neg (Bool.eq_false_iff.1 space)]
  split
  · next heq =>
    rw [h] at heq
    cases heq
  · next heq =>
    rw [h] at heq
    cases heq
    rfl

/-- The numbers that are scanned are written in digits and are no longer than the text. -/
theorem scan_numbers {position : Nat} {text : Text} {ts : List Token} (h : scan position text = .ok ts) :
    ∀ t ∈ ts, t.kind = .number →
      Decimal.Written Text.isDigit t.text ∧ t.text.length ≤ text.length := by
  fun_induction scan position text generalizing ts with
  | case1 =>
    cases h
    simp
  | case2 position c rest space ih =>
    intro t ht number
    obtain ⟨written, short⟩ := ih h t ht number
    exact ⟨written, Nat.le_succ_of_le short⟩
  | case3 => cases h
  | case4 position c rest space found token ih =>
    obtain ⟨others, ho, rfl⟩ := map_eq_ok_iff.1 h
    intro t ht number
    rcases List.mem_cons.1 ht with rfl | ht
    · exact lexeme_written token number
    · obtain ⟨written, short⟩ := ih ho t ht number
      have shorter := lexeme_length token
      refine ⟨written, ?_⟩
      rw [List.length_cons]
      omega

def Token.moved (distance : Nat) (t : Token) : Token := { t with position := t.position + distance }

/-- Tokens move with the text. -/
theorem scan_moved (distance : Nat) {position : Nat} {text : Text} {ts : List Token}
    (h : scan position text = .ok ts) :
    scan (position + distance) text = .ok (ts.map (Token.moved distance)) := by
  fun_induction scan position text generalizing ts with
  | case1 =>
    cases h
    rw [scan]
    rfl
  | case2 position c rest space ih =>
    rw [scan_space space, Nat.add_right_comm]
    exact ih h
  | case3 => cases h
  | case4 position c rest space found token ih =>
    obtain ⟨others, ho, rfl⟩ := map_eq_ok_iff.1 h
    rw [scan_token (Bool.eq_false_iff.2 space) token, Nat.add_right_comm, ih ho]
    rfl

/-- The tokens of two texts with a seam between them are the tokens of each. The text in front is scanned by
itself, or else the text behind has no quote that closes a string left open. -/
theorem scan_append {position : Nat} {text rest : Text} (seam : Seam rest)
    (closed : (∃ ts, scan position text = .ok ts) ∨ ∀ c, IsQuote c → c ∉ rest) :
    scan position (text ++ rest) =
      scan position text >>= fun ts => (scan (position + text.length) rest).map (ts ++ ·) := by
  fun_induction scan position text with
  | case1 position =>
    rw [ok_bind, List.nil_append, List.length_nil, Nat.add_zero]
    cases scan position rest <;> rfl
  | case2 position c text space ih =>
    rw [List.cons_append, scan_space space, ih closed, List.length_cons]
    congr 1
    funext ts
    rw [Nat.add_right_comm, Nat.add_assoc]
  | case3 position c text space problem failed =>
    -- The text in front cannot be scanned, so the text behind has no quote that would change that.
    have quoteless : IsQuote c → c ∉ rest := by
      rcases closed with ⟨ts, h⟩ | quoteless
      · cases h
      · exact quoteless c
    have stays := lexeme_append seam c text (.inr quoteless)
    rw [failed] at stays
    rw [List.cons_append, scan_error (Bool.eq_false_iff.2 space) stays]
    rfl
  | case4 position c text space found token ih =>
    have stays := lexeme_append seam c text (.inl ⟨found, token⟩)
    rw [token] at stays
    have shorter := lexeme_length token
    -- What is behind the token is scanned by itself if the whole text in front is.
    have closedBehind :
        (∃ ts, scan (position + (text.length + 1 - found.rest.length)) found.rest = .ok ts) ∨
          ∀ c, IsQuote c → c ∉ rest := by
      refine closed.imp ?_ id
      rintro ⟨ts, h⟩
      obtain ⟨others, ho, -⟩ := map_eq_ok_iff.1 h
      exact ⟨others, ho⟩
    have distance : (text ++ rest).length + 1 - (found.rest ++ rest).length =
        text.length + 1 - found.rest.length := by
      rw [List.length_append, List.length_append]
      omega
    have place : position + (text.length + 1 - found.rest.length) + found.rest.length =
        position + (text.length + 1) := by omega
    rw [List.cons_append, scan_token (Bool.eq_false_iff.2 space) stays, distance, ih closedBehind, place,
      List.length_cons]
    cases scan (position + (text.length + 1 - found.rest.length)) found.rest with
    | error problem => rfl
    | ok ts =>
      rw [ok_bind]
      cases scan (position + (text.length + 1)) rest <;> rfl

/-! ## White space around a text -/

theorem scan_nil (position : Nat) : scan position [] = .ok [] := by rw [scan]

theorem scan_spaces_append {lead : Text} (spaces : ∀ c ∈ lead, Text.isSpace c = true) (position : Nat)
    (text : Text) : scan position (lead ++ text) = scan (position + lead.length) text := by
  induction lead generalizing position with
  | nil => rfl
  | cons c lead ih =>
    rw [List.cons_append, scan_space (spaces c List.mem_cons_self),
      ih (fun d hd => spaces d (List.mem_cons_of_mem c hd)), List.length_cons, Nat.add_assoc,
      Nat.add_comm 1]

theorem breaks_of_isSpace {d : Char} (h : Text.isSpace d = true) : Breaks d := by
  have differs : ∀ {c : Char}, Text.isSpace c = false → d ≠ c := by
    rintro c apart rfl
    rw [h] at apart
    cases apart
  refine ⟨Text.isWord_eq_false_of_isSpace h, differs (by decide), ?_⟩
  exact doubleKind?_eq_none ⟨differs (by decide), differs (by decide), differs (by decide)⟩

theorem scan_append_spaces {trail : Text} (spaces : ∀ c ∈ trail, Text.isSpace c = true) (position : Nat)
    (text : Text) : scan position (text ++ trail) = scan position text := by
  have seam : Seam trail := fun d hd => breaks_of_isSpace (spaces d (List.mem_of_mem_head? hd))
  have quoteless : ∀ c, IsQuote c → c ∉ trail := by
    intro c quote inTrail
    have space := spaces c inTrail
    rcases quote with rfl | rfl
    · exact absurd space (by decide)
    · exact absurd space (by decide)
  have blank : scan (position + text.length) trail = .ok [] := by
    have all := scan_spaces_append spaces (position + text.length) []
    rw [List.append_nil, scan_nil] at all
    exact all
  rw [scan_append seam (.inr quoteless), blank]
  cases scan position text with
  | error problem => rfl
  | ok ts =>
    show Except.ok (ts ++ []) = _
    rw [List.append_nil]

end FixedExtract.Expression
