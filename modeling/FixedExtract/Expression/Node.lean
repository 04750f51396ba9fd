import FixedExtract.Decimal.Basic
import FixedExtract.Text.Basic
/-!
# Expression trees

An expression is a boolean combination of tests on operands. The comparison operators and the methods
are closed types, and a method that takes an argument is a test of its own, so that every tree can be
evaluated.
-/

namespace FixedExtract.Expression

/-- What a test reads. A field marked with a fallback was written where a literal may stand: when the
record has no such field, the word itself is the value. -/
inductive Operand where
  | field (name : Text) (fallback : Bool)
  | string (value : Text)
  | number (value : Decimal) (text : Text)
  | boolean (value : Bool)
  | null
  deriving DecidableEq, Repr

inductive Comparator where
  | equal
  | notEqual
  | greaterOrEqual
  | lessOrEqual
  | greater
  | less
  deriving DecidableEq, Repr

def Comparator.symbol : Comparator → Text
  | .equal => "=="
  | .notEqual => "!="
  | .greaterOrEqual => ">="
  | .lessOrEqual => "<="
  | .greater => ">"
  | .less => "<"

/-- The operator that a token stands for; a single equals sign means equality. -/
def Comparator.ofText? : Text → Option Comparator
  | ['=', '='] => some .equal
  | ['='] => some .equal
  | ['!', '='] => some .notEqual
  | ['>', '='] => some .greaterOrEqual
  | ['<', '='] => some .lessOrEqual
  | ['>'] => some .greater
  | ['<'] => some .less
  | _ => none

/-- A property of one operand. -/
inductive Property where
  | isNull
  | isNotNull
  | isBlank
  | isNotBlank
  | isEmpty
  deriving DecidableEq, Repr

/-- A way in which a text may occur in another. -/
inductive Occurrence where
  | contains
  | startsWith
  | endsWith
  deriving DecidableEq, Repr

/-- A method is a property or a search for its argument. -/
inductive Method where
  | property (p : Property)
  | search (o : Occurrence)
  deriving DecidableEq, Repr

def Method.all : List Method :=
  [.search .contains, .search .startsWith, .search .endsWith, .property .isNull,
   .property .isNotNull, .property .isBlank, .property .isNotBlank, .property .isEmpty]

def Property.name : Property → Text
  | .isNull => "isNull"
  | .isNotNull => "isNotNull"
  | .isBlank => "isBlank"
  | .isNotBlank => "isNotBlank"
  | .isEmpty => "isEmpty"

def Occurrence.name : Occurrence → Text
  | .contains => "contains"
  | .startsWith => "startsWith"
  | .endsWith => "endsWith"

def Method.name : Method → Text
  | .property p => p.name
  | .search o => o.name

def Method.ofName? (name : Text) : Option Method := Method.all.find? fun m => m.name == name

inductive Node where
  | compare (op : Comparator) (left right : Operand)
  | check (target : Operand) (property : Property)
  | search (target : Operand) (occurrence : Occurrence) (argument : Operand)
  | oneOf (operand : Operand) (options : List Operand) (negated : Bool)
  | between (operand low high : Operand)
  | like (operand pattern : Operand)
  | not (node : Node)
  | all (children : List Node)
  | any (children : List Node)
  deriving Repr

/-! ## The fields an expression reads -/

def Operand.fields : Operand → List Text
  | .field name _ => [name]
  | _ => []

mutual

/-- The names of the fields an expression reads, in order, with repetitions. -/
def Node.fields : Node → List Text
  | .compare _ left right => left.fields ++ right.fields
  | .check target _ => target.fields
  | .search target _ argument => target.fields ++ argument.fields
  | .oneOf operand options _ => operand.fields ++ options.flatMap Operand.fields
  | .between operand low high => operand.fields ++ low.fields ++ high.fields
  | .like operand pattern => operand.fields ++ pattern.fields
  | .not node => node.fields
  | .all children => fieldsOfAll children
  | .any children => fieldsOfAll children

def fieldsOfAll : List Node → List Text
  | [] => []
  | node :: rest => node.fields ++ fieldsOfAll rest

end

/-- The names of the fields an expression reads, in ascending order. -/
def Node.requiredFields (node : Node) : List Text := Text.sortedSet node.fields

end FixedExtract.Expression
