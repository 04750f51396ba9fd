import FixedExtract.Proofs.Computation
import FixedExtract.Proofs.Yaml.Scanning
/-!
# Faults of the lexer

A text that cannot be cut into tokens is not well-formed, but for two kinds of places: an escape may name a character
that there is none of, and a version number may be too long to be taken for a number.
-/

namespace FixedExtract.Yaml

/-- A fault that the lexer may come upon. -/
inductive LexicalFault : Fault → Prop
  | malformed : LexicalFault .malformed
  | character {code : Nat} (beyond : 0x110000 ≤ code) : LexicalFault (.character code)
  | version {digits : Nat} (tooMany : Text.maxDigits < digits) : LexicalFault (.integer (.tooLong digits))

variable {α : Type}

/-- A part of the lexer. -/
abbrev Lexical (x : Except Fault α) : Prop := FailsWith LexicalFault x

theorem lexical_malformed : Lexical (.error .malformed : Except Fault α) := .error .malformed

/-! ## Names, tags and directives -/

theorem lexical_readName (c : Cursor) : Lexical (readName c) := .ite lexical_malformed (.ok _)

theorem lexical_readAnchor (c : Cursor) : Lexical (readAnchor c) :=
  .bind (lexical_readName c.next) fun _ => .ite (.ok _) lexical_malformed

theorem lexical_readHandle (c : Cursor) : Lexical (readHandle c) :=
  .ite lexical_malformed (.ite (.ok _) (.ite (.ok _) lexical_malformed))

theorem lexical_readTagBytes (fuel : Nat) (c : Cursor) : Lexical (readTagBytes fuel c) := by
  induction fuel generalizing c with
  | zero => exact .ok _
  | succ fuel ih =>
    refine .ite ?_ (.ok _)
    split
    · exact .bind (ih _) fun _ => .ok _
    · exact lexical_malformed

theorem lexical_readTagChars (fuel : Nat) (c : Cursor) : Lexical (readTagChars fuel c) := by
  induction fuel generalizing c with
  | zero => exact .ok _
  | succ fuel ih =>
    unfold readTagChars
    refine .ite ?_ (.ite (.bind (ih _) fun _ => .ok _) (.ok _))
    refine .bind (lexical_readTagBytes _ c) fun part => .bind ?_ fun text => .bind (ih _) fun _ => .ok _
    cases Text.ofBytes? part.1 with
    | none => exact lexical_malformed
    | some text => exact .ok _

theorem lexical_readTagText (c : Cursor) : Lexical (readTagText c) := .ite (lexical_readTagChars _ c) lexical_malformed

theorem lexical_readTag (c : Cursor) : Lexical (readTag c) := by
  have finish (token : Token) (after : Cursor) :
      Lexical (if isSpaceOrEnd after.here then pure (token, after) else throw .malformed) :=
    .ite (.ok _) lexical_malformed
  refine .ite (.bind (lexical_readTagText _) fun _ => .ite (finish _ _) lexical_malformed) (.ite (finish _ _) ?_)
  exact .ite (.bind (lexical_readHandle c) fun _ => .bind (lexical_readTagText _) fun _ => finish _ _)
    (.bind (.ok _) fun _ => .bind (lexical_readTagText _) fun _ => finish _ _)

theorem lexical_readVersionNumber (c : Cursor) : Lexical (readVersionNumber c) := by
  refine .ite lexical_malformed ?_
  split
  · next tooMany => exact .error (.version tooMany)
  · exact .ok _

theorem lexical_readDirectiveContent (name : Text) (c : Cursor) : Lexical (readDirectiveContent name c) := by
  refine .ite ?_ (.ite ?_ (.ok _))
  · exact .bind (lexical_readVersionNumber _) fun _ => .ite lexical_malformed
      (.bind (lexical_readVersionNumber _) fun _ => .ite (.ok _) lexical_malformed)
  · exact .bind (lexical_readHandle _) fun _ => .ite lexical_malformed
      (.bind (lexical_readTagText _) fun _ => .ite (.ok _) lexical_malformed)

theorem lexical_readDirective (c : Cursor) : Lexical (readDirective c) := by
  refine .bind (lexical_readName _) fun part => .ite lexical_malformed
    (.bind (lexical_readDirectiveContent _ _) fun found => .ite lexical_malformed ?_)
  split
  · exact .ok _
  · exact .ok _

/-! ## Scalars -/

/-- A code point is a character, or the fault names it. -/
theorem lexical_characterOf (code : Nat) : Lexical (characterOf code) := by
  unfold characterOf
  split
  · next beyond => exact .error (.character beyond)
  · exact .ite (.ok _) (.ok _)

theorem lexical_readCode (width : Nat) (c : Cursor) : Lexical (readCode width c) := by
  unfold readCode
  split
  · exact lexical_malformed
  · exact .ite lexical_malformed (.map (lexical_characterOf _) _)

theorem lexical_quotedBreaks (fuel : Nat) (c : Cursor) : Lexical (quotedBreaks fuel c) := by
  induction fuel generalizing c with
  | zero => exact .ok _
  | succ fuel ih =>
    refine .ite lexical_malformed ?_
    dsimp only
    split
    · exact .ok _
    · exact .map (ih _) _

theorem lexical_readEscape (c : Cursor) : Lexical (readEscape c) := by
  unfold readEscape
  split
  · exact .ok _
  · exact lexical_readCode _ _
  · exact lexical_quotedBreaks _ _
  · exact lexical_malformed

theorem lexical_quotedPiece (double : Bool) (fuel : Nat) (c : Cursor) : Lexical (quotedPiece double fuel c) := by
  induction fuel generalizing c with
  | zero => exact .ok _
  | succ fuel ih =>
    refine .ite (.bind (ih _) fun _ => .ok _) (.ite (.bind (ih _) fun _ => .ok _) (.ite ?_ (.ok _)))
    exact .bind (lexical_readEscape _) fun _ => .bind (ih _) fun _ => .ok _

theorem lexical_quotedGap (c : Cursor) : Lexical (quotedGap c) := by
  refine .ite lexical_malformed ?_
  split
  · exact .ok _
  · exact .map (lexical_quotedBreaks _ _) _

theorem lexical_readQuotedAfter (quote : Char) (fuel : Nat) (c : Cursor) : Lexical (readQuotedAfter quote fuel c) := by
  induction fuel generalizing c with
  | zero => exact lexical_malformed
  | succ fuel ih =>
    exact .ite (.ok _) (.bind (lexical_quotedGap c) fun _ => .bind (lexical_quotedPiece _ _ _) fun _ =>
      .bind (ih _) fun _ => .ok _)

theorem lexical_readQuoted (c : Cursor) : Lexical (readQuoted c) :=
  .bind (lexical_quotedPiece _ _ _) fun _ => .bind (lexical_readQuotedAfter _ _ _) fun _ => .ok _

theorem lexical_readBlockHeader (c : Cursor) : Lexical (readBlockHeader c) := by
  refine .ite lexical_malformed (.ite lexical_malformed ?_)
  split
  · exact .ok _
  · exact .ok _

theorem lexical_readBlock (fold : Bool) (parent : Int) (c : Cursor) : Lexical (readBlock fold parent c) :=
  .bind (lexical_readBlockHeader _) fun _ => .ok _

/-! ## Tokens -/

namespace Lexing

variable (s : Lexing)

theorem lexical_dropStale : Lexical s.dropStale := .ite lexical_malformed (.ok _)

theorem lexical_dropKeyStart : Lexical s.dropKeyStart := .ite lexical_malformed (.ok _)

theorem lexical_saveKeyStart : Lexical s.saveKeyStart := .ite (.bind s.lexical_dropKeyStart fun _ => .ok _) (.ok _)

theorem lexical_takeAtLineStart : Lexical s.takeAtLineStart := .bind (lexical_dropKeyStart _) fun _ => .ok _

theorem lexical_takeDirective : Lexical s.takeDirective :=
  .bind s.lexical_takeAtLineStart fun _ => .bind (lexical_readDirective _) fun _ => .ok _

theorem lexical_takeDocumentMark (token : Token) : Lexical (s.takeDocumentMark token) :=
  .bind s.lexical_takeAtLineStart fun _ => .ok _

theorem lexical_takeFlowStart (token : Token) : Lexical (s.takeFlowStart token) :=
  .bind s.lexical_saveKeyStart fun _ => .ok _

theorem lexical_takeFlowEnd (token : Token) : Lexical (s.takeFlowEnd token) :=
  .bind s.lexical_dropKeyStart fun _ => .ok _

theorem lexical_takeFlowEntry : Lexical s.takeFlowEntry := .bind (lexical_dropKeyStart _) fun _ => .ok _

theorem lexical_takeBlockEntry : Lexical s.takeBlockEntry :=
  .ite lexical_malformed (.bind (lexical_dropKeyStart _) fun _ => .ok _)

theorem lexical_takeKey : Lexical s.takeKey := .ite lexical_malformed (.bind (lexical_dropKeyStart _) fun _ => .ok _)

theorem lexical_takeValue : Lexical s.takeValue := by
  unfold takeValue
  split
  · exact .ok _
  · exact .ite lexical_malformed (.bind (lexical_dropKeyStart _) fun _ => .ok _)

theorem lexical_takeNode {read : Cursor → Except Fault (Token × Cursor)} (h : ∀ c, Lexical (read c)) :
    Lexical (s.takeNode read) :=
  .bind s.lexical_saveKeyStart fun _ => .bind (h _) fun _ => .ok _

theorem lexical_takePlain : Lexical s.takePlain := .bind s.lexical_saveKeyStart fun _ => .ok _

theorem lexical_takeBlock (fold : Bool) : Lexical (s.takeBlock fold) :=
  .bind (lexical_dropKeyStart _) fun _ => .bind (lexical_readBlock _ _ _) fun _ => .ok _

theorem lexical_takeEnd : Lexical s.takeEnd := .bind (lexical_dropKeyStart _) fun _ => .ok _

theorem lexical_takeHere : Lexical s.takeHere := by
  refine .ite s.lexical_takeEnd (.ite s.lexical_takeDirective (.ite (s.lexical_takeDocumentMark _)
    (.ite (s.lexical_takeFlowStart _) (.ite (s.lexical_takeFlowStart _) (.ite (s.lexical_takeFlowEnd _)
    (.ite (s.lexical_takeFlowEnd _) (.ite s.lexical_takeFlowEntry (.ite s.lexical_takeBlockEntry
    (.ite s.lexical_takeKey (.ite s.lexical_takeValue ?_))))))))))
  refine .ite (s.lexical_takeNode fun c => .map (lexical_readAnchor c) _)
    (.ite (s.lexical_takeNode fun c => .map (lexical_readAnchor c) _) (.ite (s.lexical_takeNode lexical_readTag) ?_))
  exact .ite (s.lexical_takeBlock _) (.ite (s.lexical_takeBlock _)
    (.ite (s.lexical_takeNode fun c => .map (lexical_readQuoted c) _) (.ite s.lexical_takePlain lexical_malformed)))

theorem lexical_takeNext : Lexical s.takeNext := .bind (lexical_dropStale _) fun _ => lexical_takeHere _

/-- The run ends at the end of the text or at a fault of one of its steps. -/
theorem lexicalFault_of_run {fuel : Nat} {s : Lexing} {found : List Token} {fault : Fault}
    (h : s.run fuel = (found, some fault)) : LexicalFault fault := by
  induction fuel generalizing s with
  | zero =>
    have ended : (s.tokens.reverse, some Fault.malformed) = (found, some fault) := h
    cases ended
    exact .malformed
  | succ fuel ih =>
    rw [run_succ] at h
    split at h
    · next failed =>
      cases h
      exact s.lexical_takeNext _ failed
    · split at h
      · cases h
      · exact ih h

end Lexing

theorem lexicalFault_of_tokens {text : Text} {found : List Token} {fault : Fault}
    (h : tokens text = (found, some fault)) : LexicalFault fault :=
  Lexing.lexicalFault_of_run h

end FixedExtract.Yaml
