import FixedExtract.Expression.Evaluation
import FixedExtract.Proofs.Traversal
/-!
# Loose trees

In a loose tree the operators and methods are names, every place takes any tree, and a method may come with
an argument or without. Evaluating such a tree can go wrong: a name may be unknown, a test may stand where a
text is wanted, and a number may be one that has no order. The trees of the evaluator have loose forms, and
none of these goes wrong.
-/

namespace FixedExtract.Expression

/-! ## Numbers that texts may denote -/

/-- Besides the decimals, texts denote infinities and results that are no numbers. -/
inductive Numeral where
  | finite (d : Decimal)
  | infinite (negative : Bool)
  | undefined
  deriving DecidableEq, Repr

/-- Where the evaluation of a loose tree goes wrong. -/
inductive Breach where
  | testWanted
  | operandWanted
  | unknownOperator (name : Text)
  | unknownMethod (name : Text)
  | wrongArgument (method : Text)
  | unordered
  deriving DecidableEq, Repr

namespace Numeral

/-- The number that a word stands for, in lower case and without a sign. -/
def ofWord? (negative : Bool) (word : Text) : Option Numeral :=
  if word == "inf" || word == "infinity" then some (.infinite negative)
  else
    match word with
    | 'n' :: 'a' :: 'n' :: payload => if payload.all Text.isAsciiDigit then some .undefined else none
    | 's' :: 'n' :: 'a' :: 'n' :: payload =>
      if payload.all Text.isAsciiDigit then some .undefined else none
    | _ => none

/-- The number that a text denotes. -/
def read? (text : Text) : Option Numeral :=
  match Decimal.read? text with
  | some d => some (.finite d)
  | none => do
    let ascii ← Decimal.asciiForm? (Text.strip text)
    let (negative, unsigned) := Decimal.splitSign ascii
    ofWord? negative (Text.lower unsigned)

/-- The number, if it is finite. -/
def finite? : Numeral → Option Numeral
  | .finite d => some (.finite d)
  | _ => none

/-- The order of two numbers. What is no number has none. -/
def order : Numeral → Numeral → Except Breach Ordering
  | .finite a, .finite b => .ok (Decimal.compareValue a b)
  | .infinite a, .infinite b => .ok (if a = b then .eq else if a then .lt else .gt)
  | .infinite a, .finite _ => .ok (if a then .lt else .gt)
  | .finite _, .infinite b => .ok (if b then .gt else .lt)
  | _, _ => .error .unordered

/-- The finite number that a text denotes. -/
def readFinite? (text : Text) : Option Numeral := (read? text).bind finite?

/-- The texts with a finite number are those with a decimal. -/
theorem readFinite?_eq (text : Text) : readFinite? text = (Decimal.read? text).map .finite := by
  unfold readFinite? read?
  cases Decimal.read? text with
  | some d => rfl
  | none =>
    dsimp only
    cases Decimal.asciiForm? (Text.strip text) with
    | none => rfl
    | some ascii =>
      simp only [Option.bind_eq_bind, Option.bind_some, Option.map_none]
      -- What is no decimal is one of the words at most, and none of them is a finite number.
      unfold ofWord?
      split
      · rfl
      · split
        · split <;> rfl
        · split <;> rfl
        · rfl

end Numeral

/-! ## Trees -/

inductive Tree where
  | operand (o : Operand)
  | compare (op : Text) (left right : Tree)
  | call (target : Tree) (method : Text) (argument : Option Tree)
  | oneOf (subject : Tree) (options : List Tree) (negated : Bool)
  | between (subject low high : Tree)
  | like (subject pattern : Tree)
  | not (inner : Tree)
  | all (children : List Tree)
  | any (children : List Tree)
  deriving Repr

namespace Tree

/-- A chain of one child is the child itself. -/
def allOf : List Tree → Tree
  | [tree] => tree
  | children => .all children

/-- A chain of one child is the child itself. -/
def anyOf : List Tree → Tree
  | [tree] => tree
  | children => .any children

/-- The operand that stands in a place where one is wanted. -/
def operand? : Tree → Except Breach Operand
  | .operand o => .ok o
  | _ => .error .operandWanted

/-- The operators that a comparison may name. -/
def operators : List Comparator := [.equal, .notEqual, .greaterOrEqual, .lessOrEqual, .greater, .less]

def operator? (name : Text) : Option Comparator := operators.find? fun c => c.symbol == name

section
variable (record : Record)

/-- Equality of two texts that come from the given operands, numbers being compared as numbers. -/
def sameText (left right : Operand) (a b : Text) : Except Breach Bool :=
  let plain :=
    if left.isBoolean || right.isBoolean then
      Text.lower (Text.strip a) == Text.lower (Text.strip b)
    else a == b
  if left.isNumber || right.isNumber then
    match Numeral.readFinite? a, Numeral.readFinite? b with
    | some x, some y => (x.order y).map (· == .eq)
    | _, _ => .ok plain
  else .ok plain

def equalFor (left right : Operand) : Except Breach Bool :=
  match left.text? record, right.text? record with
  | some a, some b => sameText left right a b
  | _, _ => .ok false

def isEqual (left right : Operand) : Except Breach Bool :=
  if right.isNull then .ok (left.text? record).isNone
  else if left.isNull then .ok (right.text? record).isNone
  else equalFor record left right

/-- The finite number that the text of an operand denotes. -/
def numeral? (o : Operand) : Option Numeral := (o.text? record).bind Numeral.readFinite?

def ordered (test : Ordering → Bool) (left right : Operand) : Except Breach Bool :=
  match numeral? record left, numeral? record right with
  | some x, some y => (x.order y).map test
  | _, _ => .ok false

def compares (left right : Operand) : Comparator → Except Breach Bool
  | .equal => isEqual record left right
  | .notEqual => (isEqual record left right).map (!·)
  | .greater => ordered record (· == .lt) right left
  | .less => ordered record (· == .lt) left right
  | .greaterOrEqual => ordered record (· != .gt) right left
  | .lessOrEqual => ordered record (· != .gt) left right

/-- Is the first operand between the others? The upper bound counts only when the lower one is kept. -/
def within (subject low high : Operand) : Except Breach Bool :=
  match numeral? record subject, numeral? record low, numeral? record high with
  | some x, some l, some h => do
    if ← (l.order x).map (· != .gt) then (x.order h).map (· != .gt) else return false
  | _, _, _ => .ok false

/-- Is one of the trees equal to the operand? The first that is decides. -/
def matchesOne (subject : Operand) : List Tree → Except Breach Bool
  | [] => .ok false
  | tree :: rest => do
    let option ← tree.operand?
    if ← equalFor record subject option then return true else matchesOne subject rest

/-- The outcome of a method that has an argument or has none. -/
def calls (target : Operand) (name : Text) (argument : Option Tree) : Except Breach Bool :=
  match Method.ofName? name, argument with
  | some (.property p), none => .ok (p.holds (target.text? record))
  | some (.search o), some argument => do
    let argument ← argument.operand?
    match target.text? record, argument.text? record with
    | some text, some part => return o.holds text part
    | _, _ => return false
  | some _, _ => .error (.wrongArgument name)
  | none, _ => .error (.unknownMethod name)

mutual

/-- Evaluates a tree for a record. -/
def evaluate : Tree → Except Breach Bool
  | .operand _ => .error .testWanted
  | .compare op left right => do
    let left ← left.operand?
    let right ← right.operand?
    match operator? op with
    | some c => compares record left right c
    | none => .error (.unknownOperator op)
  | .call target name argument => do
    let target ← target.operand?
    calls record target name argument
  | .oneOf subject options negated => do
    let subject ← subject.operand?
    let found ← matchesOne record subject options
    return found != negated
  | .between subject low high => do
    let subject ← subject.operand?
    let low ← low.operand?
    let high ← high.operand?
    within record subject low high
  | .like subject pattern => do
    let subject ← subject.operand?
    let pattern ← pattern.operand?
    return isLike record subject pattern
  | .not inner => do
    let held ← inner.evaluate
    return !held
  | .all children => evaluateAll children
  | .any children => evaluateAny children

/-- Do all trees hold? The first that does not decides. -/
def evaluateAll : List Tree → Except Breach Bool
  | [] => .ok true
  | tree :: rest => do
    if ← tree.evaluate then evaluateAll rest else return false

/-- Does some tree hold? The first that does decides. -/
def evaluateAny : List Tree → Except Breach Bool
  | [] => .ok false
  | tree :: rest => do
    if ← tree.evaluate then return true else evaluateAny rest

end

/-! ## Chains -/

/-- A chain of one tree is evaluated like the tree. -/
theorem evaluate_anyOf (trees : List Tree) :
    (anyOf trees).evaluate record = evaluateAny record trees := by
  match trees with
  | [] => rfl
  | [tree] =>
    rw [anyOf, evaluateAny, evaluateAny]
    cases tree.evaluate record with
    | error breach => rfl
    | ok held => cases held <;> rfl
  | _ :: _ :: _ =>
    rw [anyOf, evaluate]
    simp

/-- Of two chains in a row, the second one is evaluated when the first does not hold. -/
theorem evaluateAny_append (trees others : List Tree) :
    evaluateAny record (trees ++ others) =
      evaluateAny record trees >>= fun held => if held then .ok true else evaluateAny record others := by
  induction trees with
  | nil => rfl
  | cons tree rest ih =>
    rw [List.cons_append, evaluateAny, evaluateAny]
    cases tree.evaluate record with
    | error breach => rfl
    | ok held =>
      cases held with
      | true => rfl
      | false => exact ih

end

/-! ## Well-formed trees -/

/-- An operand is in the place of one. -/
inductive IsOperand : Tree → Prop where
  | operand (o : Operand) : IsOperand (.operand o)

/-- Every name is known, a method has the argument it wants, operands stand where operands are wanted and
tests where tests are, and a chain has two children at least. -/
inductive WellFormed : Tree → Prop where
  | compare {c : Comparator} {left right : Tree} :
      IsOperand left → IsOperand right → WellFormed (.compare c.symbol left right)
  | property {p : Property} {target : Tree} : IsOperand target → WellFormed (.call target p.name none)
  | search {o : Occurrence} {target argument : Tree} :
      IsOperand target → IsOperand argument → WellFormed (.call target o.name (some argument))
  | oneOf {subject : Tree} {options : List Tree} {negated : Bool} :
      IsOperand subject → (∀ option ∈ options, IsOperand option) →
      WellFormed (.oneOf subject options negated)
  | between {subject low high : Tree} :
      IsOperand subject → IsOperand low → IsOperand high → WellFormed (.between subject low high)
  | like {subject pattern : Tree} :
      IsOperand subject → IsOperand pattern → WellFormed (.like subject pattern)
  | not {inner : Tree} : WellFormed inner → WellFormed (.not inner)
  | all {children : List Tree} :
      2 ≤ children.length → (∀ child ∈ children, WellFormed child) → WellFormed (.all children)
  | any {children : List Tree} :
      2 ≤ children.length → (∀ child ∈ children, WellFormed child) → WellFormed (.any children)

theorem two_le_length {children : List Tree} (nonEmpty : children ≠ [])
    (several : ∀ tree, children ≠ [tree]) : 2 ≤ children.length := by
  match children with
  | [] => exact absurd rfl nonEmpty
  | [tree] => exact absurd rfl (several tree)
  | _ :: _ :: _ => simp

theorem wellFormed_allOf {children : List Tree} (nonEmpty : children ≠ [])
    (formed : ∀ child ∈ children, WellFormed child) : (allOf children).WellFormed := by
  unfold allOf
  split
  · exact formed _ List.mem_cons_self
  · next several => exact .all (two_le_length nonEmpty several) formed

theorem wellFormed_anyOf {children : List Tree} (nonEmpty : children ≠ [])
    (formed : ∀ child ∈ children, WellFormed child) : (anyOf children).WellFormed := by
  unfold anyOf
  split
  · exact formed _ List.mem_cons_self
  · next several => exact .any (two_le_length nonEmpty several) formed

end Tree

/-! ## The loose forms of trees -/

mutual

/-- The loose form of a tree. -/
def Node.tree : Node → Tree
  | .compare op left right => .compare op.symbol (.operand left) (.operand right)
  | .check target property => .call (.operand target) property.name none
  | .search target occurrence argument =>
    .call (.operand target) occurrence.name (some (.operand argument))
  | .oneOf subject options negated => .oneOf (.operand subject) (options.map .operand) negated
  | .between subject low high => .between (.operand subject) (.operand low) (.operand high)
  | .like subject pattern => .like (.operand subject) (.operand pattern)
  | .not node => .not node.tree
  | .all children => .all (treesOf children)
  | .any children => .any (treesOf children)

def treesOf : List Node → List Tree
  | [] => []
  | node :: rest => node.tree :: treesOf rest

end

theorem treesOf_eq_map (nodes : List Node) : treesOf nodes = nodes.map Node.tree := by
  induction nodes with
  | nil => rfl
  | cons node rest ih => rw [treesOf, ih, List.map_cons]

theorem Comparator.operator?_symbol (c : Comparator) : Tree.operator? c.symbol = some c := by
  cases c <;> decide

theorem Method.ofName?_name (m : Method) : Method.ofName? m.name = some m := by
  rcases m with p | o
  · cases p <;> decide
  · cases o <;> decide

theorem Method.ofName?_eq_some_iff {name : Text} {m : Method} :
    Method.ofName? name = some m ↔ m.name = name :=
  find?_name_eq_some_iff ofName?_name

theorem Comparator.symbol_injective : Function.Injective Comparator.symbol := by
  intro a b h
  have known := Comparator.operator?_symbol a
  rw [h, Comparator.operator?_symbol b] at known
  cases known
  rfl

theorem Method.name_injective : Function.Injective Method.name := by
  intro a b h
  have known := Method.ofName?_name a
  rw [h, Method.ofName?_name b] at known
  cases known
  rfl

mutual

/-- The loose form of a tree is that of no other tree. -/
theorem Node.eq_of_tree_eq : ∀ {a b : Node}, a.tree = b.tree → a = b
  | .compare op left right, b, h => by
    cases b <;> simp only [Node.tree, Tree.compare.injEq, Tree.operand.injEq, reduceCtorEq] at h
    obtain ⟨symbol, rfl, rfl⟩ := h
    rw [Comparator.symbol_injective symbol]
  | .check target p, b, h => by
    cases b <;> simp only [Node.tree, Tree.call.injEq, Tree.operand.injEq, reduceCtorEq, and_false] at h
    obtain ⟨rfl, name, -⟩ := h
    cases @Method.name_injective (.property p) (.property _) name
    rfl
  | .search target o argument, b, h => by
    cases b <;>
      simp only [Node.tree, Tree.call.injEq, Tree.operand.injEq, Option.some.injEq, reduceCtorEq,
        and_false] at h
    obtain ⟨rfl, name, rfl⟩ := h
    cases @Method.name_injective (.search o) (.search _) name
    rfl
  | .oneOf subject options negated, b, h => by
    cases b <;> simp only [Node.tree, Tree.oneOf.injEq, Tree.operand.injEq, reduceCtorEq] at h
    obtain ⟨rfl, same, rfl⟩ := h
    -- The options are the same one by one, for an operand is no other in a tree.
    have injective : Function.Injective Tree.operand := fun _ _ h => Tree.operand.inj h
    rw [List.map_injective_iff.2 injective same]
  | .between subject low high, b, h => by
    cases b <;> simp only [Node.tree, Tree.between.injEq, Tree.operand.injEq, reduceCtorEq] at h
    obtain ⟨rfl, rfl, rfl⟩ := h
    rfl
  | .like subject pattern, b, h => by
    cases b <;> simp only [Node.tree, Tree.like.injEq, Tree.operand.injEq, reduceCtorEq] at h
    obtain ⟨rfl, rfl⟩ := h
    rfl
  | .not node, b, h => by
    cases b <;> simp only [Node.tree, Tree.not.injEq, reduceCtorEq] at h
    rw [Node.eq_of_tree_eq h]
  | .all children, b, h => by
    cases b <;> simp only [Node.tree, Tree.all.injEq, reduceCtorEq] at h
    rw [eq_of_treesOf_eq h]
  | .any children, b, h => by
    cases b <;> simp only [Node.tree, Tree.any.injEq, reduceCtorEq] at h
    rw [eq_of_treesOf_eq h]

theorem eq_of_treesOf_eq : ∀ {nodes others : List Node}, treesOf nodes = treesOf others → nodes = others
  | [], [], _ => rfl
  | [], _ :: _, h => by cases h
  | _ :: _, [], h => by cases h
  | node :: rest, other :: others, h => by
    rw [treesOf, treesOf, List.cons.injEq] at h
    rw [Node.eq_of_tree_eq h.1, eq_of_treesOf_eq h.2]

end

/-! ## Nothing goes wrong -/

namespace Tree

section
variable {record : Record}

theorem sameText_ok (left right : Operand) (a b : Text) :
    sameText left right a b = .ok (Expression.sameText left right a b) := by
  unfold sameText Expression.sameText bothDecimals?
  rw [Numeral.readFinite?_eq, Numeral.readFinite?_eq]
  by_cases number : (left.isNumber || right.isNumber) = true
  · rw [if_pos number, if_pos number]
    -- Both sides have a decimal, or the test falls back on the texts.
    cases Decimal.read? a with
    | none => rfl
    | some x =>
      cases Decimal.read? b with
      | none => rfl
      | some y => rfl
  · rw [if_neg number, if_neg number]

theorem equalFor_ok (left right : Operand) :
    equalFor record left right = .ok (Expression.equalFor record left right) := by
  unfold equalFor Expression.equalFor
  cases left.text? record with
  | none => rfl
  | some a =>
    cases right.text? record with
    | none => rfl
    | some b => exact sameText_ok left right a b

theorem isEqual_ok (left right : Operand) :
    isEqual record left right = .ok (Expression.isEqual record left right) := by
  unfold isEqual Expression.isEqual
  split
  · rfl
  · split
    · rfl
    · exact equalFor_ok left right

theorem numeral?_eq (o : Operand) : numeral? record o = (o.decimal? record).map .finite := by
  rw [numeral?, Operand.decimal?, Option.map_bind]
  congr 1
  funext text
  exact Numeral.readFinite?_eq text

theorem ordered_ok (test : Ordering → Bool) (left right : Operand) :
    ordered record test left right =
      .ok (Expression.ordered record (fun x y => test (Decimal.compareValue x y)) left right) := by
  unfold ordered Expression.ordered
  rw [numeral?_eq, numeral?_eq]
  cases left.decimal? record with
  | none => rfl
  | some x =>
    cases right.decimal? record with
    | none => rfl
    | some y => rfl

/-- A test on the decimals of two operands may look at them in either order. -/
theorem ordered_swap (test : Decimal → Decimal → Bool) (left right : Operand) :
    Expression.ordered record test right left =
      Expression.ordered record (fun x y => test y x) left right := by
  unfold Expression.ordered
  cases left.decimal? record with
  | none => cases right.decimal? record <;> rfl
  | some x => cases right.decimal? record <;> rfl

theorem compares_ok (left right : Operand) (c : Comparator) :
    compares record left right c = .ok (c.holds record left right) := by
  cases c with
  | equal => exact isEqual_ok left right
  | notEqual =>
    rw [compares, isEqual_ok]
    rfl
  | greater =>
    rw [compares, ordered_ok, ordered_swap]
    rfl
  | less =>
    rw [compares, ordered_ok]
    rfl
  | greaterOrEqual =>
    rw [compares, ordered_ok, ordered_swap]
    rfl
  | lessOrEqual =>
    rw [compares, ordered_ok]
    rfl

theorem within_ok (subject low high : Operand) :
    within record subject low high = .ok (isBetween record subject low high) := by
  unfold within isBetween
  rw [numeral?_eq, numeral?_eq, numeral?_eq]
  cases subject.decimal? record with
  | none => rfl
  | some x =>
    cases low.decimal? record with
    | none => rfl
    | some l =>
      cases high.decimal? record with
      | none => rfl
      | some h =>
        -- The upper bound is compared only when the lower one is kept; otherwise both say no.
        show (if Decimal.le l x then Except.ok (Decimal.le x h) else .ok false) =
          .ok (Decimal.le l x && Decimal.le x h)
        cases Decimal.le l x <;> rfl

theorem matchesOne_ok (subject : Operand) (options : List Operand) :
    matchesOne record subject (options.map .operand) = .ok (isOneOf record subject options) := by
  induction options with
  | nil => rfl
  | cons option rest ih =>
    have first : (Tree.operand option).operand? = .ok option := rfl
    have decided : isOneOf record subject (option :: rest) =
        (Expression.equalFor record subject option || isOneOf record subject rest) := by
      rw [isOneOf, List.any_cons, isOneOf]
    rw [List.map_cons, matchesOne, first, ok_bind, equalFor_ok, ok_bind, decided]
    cases Expression.equalFor record subject option with
    | true => rfl
    | false => exact ih

theorem calls_property_ok (target : Operand) (p : Property) :
    calls record target p.name none = .ok (p.holds (target.text? record)) := by
  have known : Method.ofName? p.name = some (.property p) := Method.ofName?_name (.property p)
  unfold calls
  rw [known]

theorem calls_search_ok (target argument : Operand) (o : Occurrence) :
    calls record target o.name (some (.operand argument)) =
      .ok ((Node.search target o argument).holds record) := by
  have known : Method.ofName? o.name = some (.search o) := Method.ofName?_name (.search o)
  unfold calls
  rw [known]
  dsimp only [operand?]
  rw [ok_bind, Node.holds]
  cases target.text? record with
  | none => rfl
  | some text =>
    cases argument.text? record with
    | none => rfl
    | some part => rfl

end

/-! ## Trees -/

mutual

/-- The loose form of a tree evaluates, and to what the tree does. -/
theorem evaluate_tree (record : Record) :
    ∀ node : Node, node.tree.evaluate record = .ok (node.holds record)
  | .compare op left right => by
    show (match operator? op.symbol with
      | some c => compares record left right c
      | none => .error (.unknownOperator op.symbol)) = _
    rw [op.operator?_symbol]
    exact compares_ok left right op
  | .check target property => calls_property_ok target property
  | .search target occurrence argument => calls_search_ok target argument occurrence
  | .oneOf subject options negated => by
    show (matchesOne record subject (options.map .operand) >>= fun found =>
      .ok (found != negated)) = _
    rw [matchesOne_ok, ok_bind, Node.holds]
  | .between subject low high => within_ok subject low high
  | .like subject pattern => rfl
  | .not node => by
    rw [Node.tree, evaluate, evaluate_tree record node, ok_bind, Node.holds]
    rfl
  | .all children => evaluateAll_trees record children
  | .any children => evaluateAny_trees record children

theorem evaluateAll_trees (record : Record) :
    ∀ nodes : List Node, evaluateAll record (treesOf nodes) = .ok (allHold record nodes)
  | [] => rfl
  | node :: rest => by
    rw [treesOf, evaluateAll, evaluate_tree record node, ok_bind, allHold]
    cases node.holds record with
    | true => exact evaluateAll_trees record rest
    | false => rfl

theorem evaluateAny_trees (record : Record) :
    ∀ nodes : List Node, evaluateAny record (treesOf nodes) = .ok (anyHolds record nodes)
  | [] => rfl
  | node :: rest => by
    rw [treesOf, evaluateAny, evaluate_tree record node, ok_bind, anyHolds]
    cases node.holds record with
    | true => rfl
    | false => exact evaluateAny_trees record rest

end

end Tree
end FixedExtract.Expression
