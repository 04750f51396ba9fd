import FixedExtract.Proofs.Expression.Source
import FixedExtract.Proofs.Expression.Spelling
/-!
# Expressions cut into tokens

An expression that is scanned is white space and the sources of its tokens, one behind the other. Written down again
with single spaces between them, the tokens are scanned as what they are: no source goes on over a space, and a string
is put between quotes with a backslash before whatever would end it.
-/

namespace FixedExtract.Expression

variable {position : Nat} {expression text rest : Text} {ts us : List Token} {t : Token} {quote : Char}

/-! ## Pieces of an expression -/

/-- The text, which starts at a position, is white space and the sources of these tokens, in order. -/
inductive CutInto : Nat → Text → List Token → Prop where
  | nil {position : Nat} : CutInto position [] []
  | space {position : Nat} {c : Char} {rest : Text} {ts : List Token} : Text.isSpace c = true →
      CutInto (position + 1) rest ts → CutInto position (c :: rest) ts
  | token {position : Nat} {kind : TokenKind} {text source rest : Text} {ts : List Token} :
      Source kind text source → CutInto (position + source.length) rest ts →
      CutInto position (source ++ rest) (⟨kind, text, position⟩ :: ts)

/-- The source of a token is as long as what the token takes off the text. -/
theorem length_source {c : Char} {source after : Text} (cut : c :: rest = source ++ after) :
    rest.length + 1 - after.length = source.length := by
  have lengths := congrArg List.length cut
  rw [List.length_cons, List.length_append] at lengths
  omega

/-- What is scanned is cut into its tokens. -/
theorem cutInto_of_scan (h : scan position text = .ok ts) : CutInto position text ts := by
  fun_induction scan position text generalizing ts with
  | case1 =>
    cases h
    exact .nil
  | case2 position c rest space ih => exact .space space (ih h)
  | case3 => cases h
  | case4 position c rest space found token ih =>
    obtain ⟨others, ho, rfl⟩ := map_eq_ok_iff.1 h
    obtain ⟨source, isSource, cut⟩ := exists_source_of_lexeme token
    have behind := ih ho
    rw [length_source cut] at behind
    rw [cut]
    exact .token isSource behind

/-- Every token stands where its source does. -/
theorem CutInto.exists_source (h : CutInto position text ts) :
    ∀ t ∈ ts, ∃ front source after, text = front ++ (source ++ after) ∧ t.position = position + front.length ∧
      Source t.kind t.text source := by
  induction h with
  | nil => simp
  | @space position c rest ts _ _ ih =>
    intro t ht
    obtain ⟨front, source, after, rfl, place, isSource⟩ := ih t ht
    refine ⟨c :: front, source, after, rfl, ?_, isSource⟩
    rw [place, List.length_cons]
    omega
  | @token position kind text source rest ts isSource _ ih =>
    intro t ht
    rcases List.mem_cons.1 ht with rfl | ht
    · exact ⟨[], source, rest, rfl, rfl, isSource⟩
    · obtain ⟨front, other, after, rfl, place, isOther⟩ := ih t ht
      refine ⟨source ++ front, other, after, (List.append_assoc ..).symm, ?_, isOther⟩
      rw [place, List.length_append, Nat.add_assoc]

/-- A token stands within the text, since its source is not empty. -/
theorem CutInto.position_bounds (h : CutInto position text ts) :
    ∀ t ∈ ts, position ≤ t.position ∧ t.position < position + text.length := by
  intro t ht
  obtain ⟨front, source, after, rfl, place, isSource⟩ := h.exists_source t ht
  have some : 0 < source.length := List.length_pos_iff.2 isSource.ne_nil
  rw [List.length_append, List.length_append]
  omega

theorem CutInto.pairwise_position (h : CutInto position text ts) :
    ts.Pairwise fun a b => a.position < b.position := by
  induction h with
  | nil => exact .nil
  | space _ _ ih => exact ih
  | @token position kind text source rest ts isSource behind ih =>
    refine .cons ?_ ih
    intro t ht
    have later := (behind.position_bounds t ht).1
    have some := List.length_pos_iff.2 isSource.ne_nil
    show position < t.position
    omega

/-! ## Writing tokens down -/

/-- A character as it is written between quotes: the quote and the backslash have a backslash before them. -/
def escapedIn (quote c : Char) : Text := if c = quote ∨ c = '\\' then ['\\', c] else [c]

/-- The literal that stands for a text. -/
def literal (quote : Char) (text : Text) : Text := quote :: (text.flatMap (escapedIn quote) ++ [quote])

/-- A token as it is written down. -/
def Token.spelled (quote : Char) (t : Token) : Text :=
  if t.kind = .string then literal quote t.text else t.text

/-- Tokens written down with single spaces between them; every string has quotes of its own choice. -/
def rewritten (quote : Token → Char) (ts : List Token) : Text :=
  Text.join " " (ts.map fun t => t.spelled (quote t))

/-- What a token is, wherever it stands. -/
def Token.content (t : Token) : TokenKind × Text := (t.kind, t.text)

theorem quotes_escaped (quote : Char) (text : Text) : Quotes quote text (text.flatMap (escapedIn quote)) := by
  induction text with
  | nil => exact .nil
  | cons c rest ih =>
    rw [List.flatMap_cons]
    by_cases special : c = quote ∨ c = '\\'
    · rw [escapedIn, if_pos special]
      exact .escaped ih
    · rw [escapedIn, if_neg special]
      exact .plain (fun same => special (.inl same)) (fun same => special (.inr same)) ih

/-- Every text has a literal. -/
theorem source_literal (isQuote : IsQuote quote) (text : Text) : Source .string text (literal quote text) :=
  .string isQuote (quotes_escaped quote text)

/-- A token that has a source is written down as a source, which may be another one when it is a string. -/
theorem source_spelled {source : Text} (h : Source t.kind t.text source) (isQuote : IsQuote quote) :
    Source t.kind t.text (t.spelled quote) := by
  unfold Token.spelled
  by_cases string : t.kind = .string
  · rw [if_pos string, string]
    exact source_literal isQuote t.text
  · rw [if_neg string]
    rwa [h.eq_text string] at h

/-- Wherever a source starts, it is the one token that it is a source of. -/
theorem Source.scan_eq {kind : TokenKind} {source : Text} (h : Source kind text source) (position : Nat) :
    scan position source = .ok [⟨kind, text, position⟩] := by
  obtain ⟨c, more, rfl⟩ := List.exists_cons_of_ne_nil h.ne_nil
  rw [scan_token h.isSpace_eq_false h.lexeme_alone, scan_nil]
  rfl

theorem Source.isToken {kind : TokenKind} {source : Text} (h : Source kind text source) :
    IsToken source fun t => t.content = (kind, text) :=
  fun position => ⟨_, h.scan_eq position, _, rfl, rfl⟩

/-- Tokens that are written down are scanned again, each by itself. -/
theorem scans_rewritten {quote : Token → Char} (isQuote : ∀ t, IsQuote (quote t))
    (sources : ∀ t ∈ ts, ∃ source, Source t.kind t.text source) :
    Scans (rewritten quote ts) fun us => us.map Token.content = ts.map Token.content := by
  induction ts with
  | nil => exact fun position => ⟨[], scan_nil position, rfl⟩
  | cons t ts ih =>
    obtain ⟨⟨source, isSource⟩, others⟩ := List.forall_mem_cons.1 sources
    have first := (source_spelled isSource (isQuote t)).isToken
    cases ts with
    | nil =>
      rw [rewritten, List.map_singleton, Text.join, List.intercalate_singleton]
      refine Scans.imp first ?_
      rintro _ ⟨u, rfl, same⟩
      exact congrArg (fun content => [content]) same
    | cons u more =>
      have cut : rewritten quote (t :: u :: more) =
          t.spelled (quote t) ++ ' ' :: rewritten quote (u :: more) := by
        simp [rewritten, Text.join, List.intercalate_cons_cons]
      rw [cut]
      -- The source ends at the space behind it, so it is scanned as if it stood alone.
      refine (first.before (ih others)).imp ?_
      intro vs sorted
      cases vs with
      | nil => exact sorted.elim
      | cons v vs =>
        rw [List.map_cons, List.map_cons]
        exact congrArg₂ List.cons sorted.1 sorted.2

theorem tokensWithStop_eq_ok_iff :
    tokensWithStop expression = .ok ts ↔
      ∃ us, scan 0 expression = .ok us ∧ ts = us ++ [⟨.stop, [], expression.length⟩] := by
  rw [tokensWithStop, map_eq_ok_iff]
  constructor
  · rintro ⟨us, scanned, rfl⟩
    exact ⟨us, tokens_eq_ok_iff.1 scanned, rfl⟩
  · rintro ⟨us, scanned, rfl⟩
    exact ⟨us, tokens_eq_ok_iff.2 scanned, rfl⟩

/-- The tokens of an expression stand one behind the other and the mark at its end, each but a string with its text at
its position, and only white space is between them. Written down with spaces between them they are the same tokens
again; and whatever a text holds, its literal is scanned as that text. -/
theorem tokensWithStop_cut (h : tokensWithStop expression = .ok ts) :
    (∃ us, ts = us ++ [⟨.stop, [], expression.length⟩] ∧ CutInto 0 expression us ∧
      ∀ quote : Token → Char, (∀ t, IsQuote (quote t)) →
        ∃ vs, tokensWithStop (rewritten quote us) = .ok vs ∧ vs.map Token.content = ts.map Token.content) ∧
    ts.Pairwise (fun a b => a.position < b.position) ∧
    (∀ t ∈ ts, t.kind ≠ .string → (expression.drop t.position).take t.text.length = t.text) ∧
    ∀ quote text, IsQuote quote →
      tokensWithStop (literal quote text) = .ok [⟨.string, text, 0⟩, ⟨.stop, [], (literal quote text).length⟩] := by
  obtain ⟨us, scanned, rfl⟩ := tokensWithStop_eq_ok_iff.1 h
  have cut := cutInto_of_scan scanned
  refine ⟨⟨us, rfl, cut, ?_⟩, ?_, ?_, ?_⟩
  · intro quote isQuote
    have sources : ∀ t ∈ us, ∃ source, Source t.kind t.text source := by
      intro t ht
      obtain ⟨_, source, _, -, -, isSource⟩ := cut.exists_source t ht
      exact ⟨source, isSource⟩
    obtain ⟨vs, again, same⟩ := scans_rewritten isQuote sources 0
    refine ⟨_, tokensWithStop_eq_ok_iff.2 ⟨vs, again, rfl⟩, ?_⟩
    rw [List.map_append, List.map_append, same]
    rfl
  · refine List.pairwise_append.2 ⟨cut.pairwise_position, List.pairwise_singleton _ _, ?_⟩
    intro t ht stop hs
    rw [List.mem_singleton.1 hs]
    have within := (cut.position_bounds t ht).2
    rwa [Nat.zero_add] at within
  · intro t ht notString
    rcases List.mem_append.1 ht with ht | ht
    · obtain ⟨front, source, after, whole, place, isSource⟩ := cut.exists_source t ht
      rw [isSource.eq_text notString] at whole
      rw [place, Nat.zero_add, whole, List.drop_left, List.take_left]
    · rw [List.mem_singleton.1 ht]
      exact List.take_zero
  · intro quote text isQuote
    exact tokensWithStop_eq_ok_iff.2 ⟨_, (source_literal isQuote text).scan_eq 0, rfl⟩

/-- The tokens of `NAME.contains('it\\'s')&&!(A>=-1.50)`, which has no space between them. -/
def denseTokens : List Token :=
  [⟨.identifier, "NAME", 0⟩, ⟨.dot, ".", 4⟩, ⟨.identifier, "contains", 5⟩, ⟨.leftParen, "(", 13⟩,
   ⟨.string, "it's", 14⟩, ⟨.rightParen, ")", 21⟩, ⟨.and, "&&", 22⟩, ⟨.bang, "!", 24⟩, ⟨.leftParen, "(", 25⟩,
   ⟨.identifier, "A", 26⟩, ⟨.operator, ">=", 27⟩, ⟨.number, "-1.50", 29⟩, ⟨.rightParen, ")", 34⟩]

theorem tokensWithStop_cut_dense :
    tokensWithStop "NAME.contains('it\\'s')&&!(A>=-1.50)" = .ok (denseTokens ++ [⟨.stop, [], 35⟩]) ∧
      CutInto 0 "NAME.contains('it\\'s')&&!(A>=-1.50)" denseTokens ∧
      rewritten (fun _ => '"') denseTokens = "NAME . contains ( \"it's\" ) && ! ( A >= -1.50 )".toList ∧
      ∃ vs, tokensWithStop "NAME . contains ( \"it's\" ) && ! ( A >= -1.50 )" = .ok vs ∧
        vs.map Token.content = denseTokens.map Token.content ++ [(.stop, [])] := by
  have scanned : tokensWithStop "NAME.contains('it\\'s')&&!(A>=-1.50)" = .ok (denseTokens ++ [⟨.stop, [], 35⟩]) := by
    decide +kernel
  have spelled : rewritten (fun _ => '"') denseTokens =
      "NAME . contains ( \"it's\" ) && ! ( A >= -1.50 )".toList := by
    decide +kernel
  obtain ⟨⟨us, same, cut, again⟩, -⟩ := tokensWithStop_cut scanned
  obtain ⟨rfl, -⟩ := List.append_inj' same rfl
  obtain ⟨vs, hv, content⟩ := again (fun _ => '"') fun _ => .inr rfl
  rw [spelled] at hv
  exact ⟨scanned, cut, spelled, vs, hv, content⟩

end FixedExtract.Expression
