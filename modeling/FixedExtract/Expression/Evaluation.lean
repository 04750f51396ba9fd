import FixedExtract.Decimal.Basic
import FixedExtract.Expression.Node
import FixedExtract.Record
import FixedExtract.Regex.Matcher
import FixedExtract.Regex.Parser
import FixedExtract.Text.Case
/-!
# Evaluating expressions

An expression holds or does not hold for a record; evaluation cannot fail. Operands are text, or nothing
for null and missing fields. Order is decided on decimals alone: a side that is no decimal makes the
test false. Equality is that of texts, except that a number literal compares by value with text that is
a decimal, and a boolean literal ignores case and surrounding white space.
-/

namespace FixedExtract

/-! ## Patterns with wildcards

In such a pattern `%` stands for any run of characters, `_` for any one character, and every other character for
itself. The pattern is turned into a regular expression character by character, and a text matches it when the
expression matches the whole text.
-/

/-- The characters that have a meaning of their own in regular expressions, and those that layout may give one. -/
def Regex.specialChars : Text := "()[]\x7b\x7d?*+-|^$\\.&~# \t\n\r\x0b\x0c"

/-- The text that stands for a character in a regular expression. -/
def Regex.escape (c : Char) : Text := if Regex.specialChars.elem c then ['\\', c] else [c]

namespace Wildcard

/-- The text of the regular expression for one character of a pattern. -/
def sourceOfChar (c : Char) : Text :=
  if c = '%' then ['.', '*'] else if c = '_' then ['.'] else Regex.escape c

/-- The text of the regular expression for a pattern. -/
def source (pattern : Text) : Text := pattern.flatMap sourceOfChar

/-- The regular expression for a pattern. Its point stands for line ends too. -/
def expression (pattern : Text) : Except Regex.Fault Regex.Pattern := do
  let read ← Regex.Pattern.read (source pattern)
  return { read with flags := read.flags.union { Regex.Flags.none with dotAll := true } }

/-- Does the whole text match the pattern? -/
def accepts (pattern text : Text) : Bool :=
  match expression pattern with
  | .ok expression => expression.find text == .matched
  | .error _ => false

end Wildcard
end FixedExtract

namespace FixedExtract.Expression

/-! ## Operands -/

/-- The text of an operand for a record. -/
def Operand.text? (record : Record) : Operand → Option Text
  | .field name fallback =>
    if record.has name then record.text? name else if fallback then some name else none
  | .string value => some value
  | .number _ text => some text
  | .boolean value => some (if value then "true" else "false")
  | .null => none

/-- The decimal that an operand's text denotes. -/
def Operand.decimal? (record : Record) (operand : Operand) : Option Decimal :=
  (operand.text? record).bind Decimal.read?

def Operand.isNumber : Operand → Bool
  | .number .. => true
  | _ => false

def Operand.isBoolean : Operand → Bool
  | .boolean _ => true
  | _ => false

def Operand.isNull : Operand → Bool
  | .null => true
  | _ => false

/-! ## Tests -/

/-- The decimals of two texts, when both have one. -/
def bothDecimals? (a b : Text) : Option (Decimal × Decimal) := do
  let x ← Decimal.read? a
  let y ← Decimal.read? b
  return (x, y)

/-- Equality of two texts that come from the given operands. -/
def sameText (left right : Operand) (a b : Text) : Bool :=
  match (if left.isNumber || right.isNumber then bothDecimals? a b else none) with
  | some (x, y) => Decimal.same x y
  | none =>
    if left.isBoolean || right.isBoolean then
      Text.lower (Text.strip a) == Text.lower (Text.strip b)
    else a == b

/-- Are two operands equal for a record? Nothing is equal to nothing. -/
def equalFor (record : Record) (left right : Operand) : Bool :=
  match left.text? record, right.text? record with
  | some a, some b => sameText left right a b
  | _, _ => false

/-- Equality with the null literal asks whether the other side has no text. -/
def isEqual (record : Record) (left right : Operand) : Bool :=
  if right.isNull then (left.text? record).isNone
  else if left.isNull then (right.text? record).isNone
  else equalFor record left right

/-- Compares the decimals of two operands. -/
def ordered (record : Record) (test : Decimal → Decimal → Bool) (left right : Operand) : Bool :=
  match left.decimal? record, right.decimal? record with
  | some x, some y => test x y
  | _, _ => false

def Comparator.holds (record : Record) (left right : Operand) : Comparator → Bool
  | .equal => isEqual record left right
  | .notEqual => !isEqual record left right
  | .greater => ordered record (fun x y => Decimal.lt y x) left right
  | .less => ordered record Decimal.lt left right
  | .greaterOrEqual => ordered record (fun x y => Decimal.le y x) left right
  | .lessOrEqual => ordered record Decimal.le left right

def Property.holds (text : Option Text) : Property → Bool
  | .isNull => text.isNone
  | .isNotNull => text.isSome
  | .isBlank => Text.isBlank? text
  | .isNotBlank => !Text.isBlank? text
  | .isEmpty => match text with
    | none => true
    | some t => t.isEmpty

def Occurrence.holds (text argument : Text) : Occurrence → Bool
  | .contains => Text.includes argument text
  | .startsWith => argument.isPrefixOf text
  | .endsWith => argument.isSuffixOf text

/-- Is the operand one of the options? Nothing is among no options. -/
def isOneOf (record : Record) (operand : Operand) (options : List Operand) : Bool :=
  options.any fun option => equalFor record operand option

def isBetween (record : Record) (operand low high : Operand) : Bool :=
  match operand.decimal? record, low.decimal? record, high.decimal? record with
  | some x, some l, some h => Decimal.le l x && Decimal.le x h
  | _, _, _ => false

def isLike (record : Record) (operand pattern : Operand) : Bool :=
  match operand.text? record, pattern.text? record with
  | some text, some p => Wildcard.accepts p text
  | _, _ => false

/-! ## Trees -/

mutual

/-- Does the expression hold for the record? -/
def Node.holds (record : Record) : Node → Bool
  | .compare op left right => op.holds record left right
  | .check target property => property.holds (target.text? record)
  | .search target occurrence argument =>
    match target.text? record, argument.text? record with
    | some text, some part => occurrence.holds text part
    | _, _ => false
  | .oneOf operand options negated => isOneOf record operand options != negated
  | .between operand low high => isBetween record operand low high
  | .like operand pattern => isLike record operand pattern
  | .not node => !node.holds record
  | .all children => allHold record children
  | .any children => anyHolds record children

def allHold (record : Record) : List Node → Bool
  | [] => true
  | node :: rest => node.holds record && allHold record rest

def anyHolds (record : Record) : List Node → Bool
  | [] => false
  | node :: rest => node.holds record || anyHolds record rest

end

end FixedExtract.Expression
