import FixedExtract.Layout.Branch
import FixedExtract.Proofs.Traversal
/-!
# How far a choice looks

The branches of a list of conditions stand in one order: those of the first condition, then its else, then
those of the second. A choice goes through them and ends in one of four ways: a branch holds, an expression is
malformed, an else is come to, or nothing is left. Everything in front of that place fails, and nothing behind
it is looked at. So what stands behind it can be changed at will, and the log has the branches up to there.

The lemmas follow the two loops of the search, over the branches of one condition and over the conditions.
-/

namespace FixedExtract.Layout

variable {record : Record} {conditions others : List Condition} {condition : Condition}

/-! ## Attempts -/

theorem Trial.after_after {α : Type} (trial : Trial α) (first second : List Attempt) :
    (trial.after second).after first = trial.after (first ++ second) := by
  rw [Trial.after, Trial.after, Trial.after, List.append_assoc]

/-- Attempts of branches that do not hold. -/
def failures (branches : List (Text × Text)) : List Attempt :=
  branches.map fun branch => ⟨branch.1, false⟩

theorem failures_append (first second : List (Text × Text)) :
    failures (first ++ second) = failures first ++ failures second := List.map_append

/-- All expressions of the branches are well-formed, and none holds. -/
def Fail (record : Record) (branches : List (Text × Text)) : Prop :=
  ∀ branch ∈ branches, evaluate record branch.1 = .ok false

/-- An expression is evaluated unless it is malformed. -/
theorem evaluate_eq_error_iff {expression : Text} {fault : Expression.Fault} :
    evaluate record expression = .error fault ↔
      Expression.parse (Text.strip expression) = .error fault := by
  rw [evaluate]
  cases Expression.parse (Text.strip expression) <;> simp [Except.map]

/-! ## The branches of one condition -/

section
variable {branches : List (Text × Text)} {branch : Text × Text} {count : Nat}

/-- Branches that fail are tried one after the other, and the search goes on behind them. -/
theorem firstHolding_append {before : List (Text × Text)} (fail : Fail record before) (index : Nat)
    (rest : List (Text × Text)) :
    firstHolding record index (before ++ rest) =
      (firstHolding record (index + before.length) rest).after (failures before) := by
  induction before generalizing index with
  | nil => rfl
  | cons branch before ih =>
    have here : evaluate record branch.1 = .ok false := fail branch List.mem_cons_self
    have later := ih (fun b hb => fail b (List.mem_cons_of_mem branch hb)) (index + 1)
    have position : index + 1 + before.length = index + (branch :: before).length := by
      rw [List.length_cons]
      omega
    rw [List.cons_append, firstHolding, here]
    simp only
    rw [later, Trial.after_after, position]
    rfl

theorem firstHolding_of_fail (fail : Fail record branches) (index : Nat) :
    firstHolding record index branches = ⟨failures branches, .ok none⟩ := by
  have whole := firstHolding_append fail index []
  rw [List.append_nil, firstHolding] at whole
  rw [whole, Trial.after, List.append_nil]

/-- The search comes to a branch when all in front of it fail. -/
theorem firstHolding_of_found (found : branches[count]? = some branch)
    (fail : Fail record (branches.take count)) (index : Nat) :
    firstHolding record index branches =
      (firstHolding record (index + count) (branch :: branches.drop (count + 1))).after
        (failures (branches.take count)) := by
  obtain ⟨bound, rfl⟩ := List.getElem?_eq_some_iff.1 found
  have split : branches.take count ++ branches[count] :: branches.drop (count + 1) = branches := by
    rw [← List.drop_eq_getElem_cons bound, List.take_append_drop]
  have length : (branches.take count).length = count := List.length_take_of_le (Nat.le_of_lt bound)
  have behind := firstHolding_append fail index (branches[count] :: branches.drop (count + 1))
  rwa [split, length] at behind

/-- All branches fail, or there is a first one that does not. -/
theorem fail_or_found (record : Record) (branches : List (Text × Text)) :
    Fail record branches ∨ ∃ count branch, branches[count]? = some branch ∧
      Fail record (branches.take count) ∧ evaluate record branch.1 ≠ .ok false := by
  induction branches with
  | nil => exact .inl fun _ member => nomatch member
  | cons first rest ih =>
    by_cases here : evaluate record first.1 = .ok false
    · rcases ih with fail | ⟨count, branch, found, fail, decides⟩
      · exact .inl (List.forall_mem_cons.2 ⟨here, fail⟩)
      · exact .inr ⟨count + 1, branch, found, List.forall_mem_cons.2 ⟨here, fail⟩, decides⟩
    · exact .inr ⟨0, first, rfl, (fun _ member => nomatch member), here⟩

/-- The branch of a condition that stands behind `count` others. -/
def Branch.ofPlace (index count : Nat) : Branch :=
  if count = 0 then .ifBranch index else .elseIf index count

theorem chooseIn_of_holds (found : condition.branches[count]? = some branch)
    (fail : Fail record (condition.branches.take count)) (holds : evaluate record branch.1 = .ok true)
    (index : Nat) :
    chooseIn record index condition =
      ⟨failures (condition.branches.take count) ++ [⟨branch.1, true⟩],
        .ok (some ⟨(branchValue? record branch.2).getD [], Branch.ofPlace index count⟩)⟩ := by
  have here : firstHolding record 0 condition.branches =
      ⟨failures (condition.branches.take count) ++ [⟨branch.1, true⟩], .ok (some (count, branch.2))⟩ := by
    rw [firstHolding_of_found found fail, firstHolding, holds, Nat.zero_add]
    rfl
  rw [chooseIn, here]
  rfl

theorem chooseIn_of_malformed {fault : Expression.Fault}
    (found : condition.branches[count]? = some branch)
    (fail : Fail record (condition.branches.take count))
    (malformed : evaluate record branch.1 = .error fault) (index : Nat) :
    chooseIn record index condition = ⟨failures (condition.branches.take count), .error fault⟩ := by
  have here : firstHolding record 0 condition.branches =
      ⟨failures (condition.branches.take count), .error fault⟩ := by
    rw [firstHolding_of_found found fail, firstHolding, malformed, Trial.after, List.append_nil]
  rw [chooseIn, here]
  rfl

/-- When all branches fail, the else is the choice, if there is one. -/
theorem chooseIn_of_fail (fail : Fail record condition.branches) (index : Nat) :
    chooseIn record index condition =
      ⟨failures condition.branches, .ok (condition.otherwise?.map fun value =>
        ⟨(branchValue? record value).getD [], .otherwise index⟩)⟩ := by
  rw [chooseIn, firstHolding_of_fail fail]
  rfl

end

/-! ## The list of conditions -/

/-- The condition leaves the choice to those behind it: its branches fail, and it has no else. -/
structure Passes (record : Record) (condition : Condition) : Prop where
  fail : Fail record condition.branches
  noElse : condition.otherwise? = none

theorem chooseFrom_append {before : List Condition} (passes : ∀ c ∈ before, Passes record c)
    (index : Nat) (rest : List Condition) :
    chooseFrom record index (before ++ rest) =
      (chooseFrom record (index + before.length) rest).after
        (failures (before.flatMap Condition.branches)) := by
  induction before generalizing index with
  | nil => rfl
  | cons first before ih =>
    have here := passes first List.mem_cons_self
    have later := ih (fun c hc => passes c (List.mem_cons_of_mem first hc)) (index + 1)
    have position : index + 1 + before.length = index + (first :: before).length := by
      rw [List.length_cons]
      omega
    rw [List.cons_append, chooseFrom, chooseIn_of_fail here.fail, here.noElse]
    simp only [Option.map_none]
    rw [later, Trial.after_after, position, List.flatMap_cons, failures_append]

theorem chooseFrom_of_passes (passes : ∀ c ∈ conditions, Passes record c) (index : Nat) :
    chooseFrom record index conditions =
      ⟨failures (conditions.flatMap Condition.branches), .ok none⟩ := by
  have whole := chooseFrom_append passes index []
  rw [List.append_nil, chooseFrom] at whole
  rw [whole, Trial.after, List.append_nil]

/-- The search comes to the `count`-th branch of the `index`-th condition, or behind its last one: the branches
in front of it fail, and so do all of the conditions in front, which have no else. -/
structure Reaches (record : Record) (conditions : List Condition) (index : Nat) (condition : Condition)
    (count : Nat) : Prop where
  found : conditions[index]? = some condition
  passes : ∀ earlier ∈ conditions.take index, Passes record earlier
  fail : Fail record (condition.branches.take count)

/-- The branches in front of the `count`-th of the `index`-th condition, in the order they are tried. -/
def branchesBefore (conditions : List Condition) (index count : Nat) : List (Text × Text) :=
  (conditions.take index).flatMap Condition.branches ++
    ((conditions[index]?.map Condition.branches).getD []).take count

section
variable {index count : Nat} {branch : Text × Text} {defaultValue : Option Text}

theorem Reaches.failures_before (h : Reaches record conditions index condition count) :
    failures (branchesBefore conditions index count) =
      failures ((conditions.take index).flatMap Condition.branches) ++
        failures (condition.branches.take count) := by
  rw [branchesBefore, h.found, failures_append]
  rfl

/-- A condition that the search comes to decides, unless it leaves the choice to those behind it. -/
theorem Reaches.chooseFrom (h : Reaches record conditions index condition count)
    (decides : (chooseIn record index condition).outcome ≠ .ok none) :
    Layout.chooseFrom record 0 conditions = (chooseIn record index condition).after
      (failures ((conditions.take index).flatMap Condition.branches)) := by
  obtain ⟨bound, rfl⟩ := List.getElem?_eq_some_iff.1 h.found
  have split : conditions.take index ++ conditions[index] :: conditions.drop (index + 1) =
      conditions := by
    rw [← List.drop_eq_getElem_cons bound, List.take_append_drop]
  have length : (conditions.take index).length = index := List.length_take_of_le (Nat.le_of_lt bound)
  have behind := chooseFrom_append h.passes 0 (conditions[index] :: conditions.drop (index + 1))
  rw [split, length, Nat.zero_add] at behind
  rw [behind, Layout.chooseFrom]
  split
  · next undecided => exact absurd undecided decides
  · rfl

theorem Reaches.chooseTraced_of_holds (h : Reaches record conditions index condition count)
    (found : condition.branches[count]? = some branch) (holds : evaluate record branch.1 = .ok true) :
    chooseTraced conditions record defaultValue =
      ⟨failures (branchesBefore conditions index count) ++ [⟨branch.1, true⟩],
        .ok ⟨(branchValue? record branch.2).getD [], Branch.ofPlace index count⟩⟩ := by
  have here := chooseIn_of_holds found h.fail holds index
  have decides : (chooseIn record index condition).outcome ≠ .ok none := by
    rw [here]
    exact fun same => nomatch same
  rw [chooseTraced, h.chooseFrom decides, here, h.failures_before, List.append_assoc]
  rfl

theorem Reaches.chooseTraced_of_malformed {fault : Expression.Fault}
    (h : Reaches record conditions index condition count)
    (found : condition.branches[count]? = some branch)
    (malformed : evaluate record branch.1 = .error fault) :
    chooseTraced conditions record defaultValue =
      ⟨failures (branchesBefore conditions index count), .error fault⟩ := by
  have here := chooseIn_of_malformed found h.fail malformed index
  have decides : (chooseIn record index condition).outcome ≠ .ok none := by
    rw [here]
    exact fun same => nomatch same
  rw [chooseTraced, h.chooseFrom decides, here, h.failures_before]
  rfl

theorem Reaches.chooseTraced_of_otherwise {value : Text}
    (h : Reaches record conditions index condition condition.branches.length)
    (otherwise : condition.otherwise? = some value) :
    chooseTraced conditions record defaultValue =
      ⟨failures (branchesBefore conditions index condition.branches.length),
        .ok ⟨(branchValue? record value).getD [], .otherwise index⟩⟩ := by
  have fail := h.fail
  rw [List.take_length] at fail
  have here := chooseIn_of_fail fail index
  have decides : (chooseIn record index condition).outcome ≠ .ok none := by
    rw [here, otherwise]
    exact fun same => nomatch same
  rw [chooseTraced, h.chooseFrom decides, here, h.failures_before, otherwise, List.take_length]
  rfl

theorem chooseTraced_of_passes (passes : ∀ c ∈ conditions, Passes record c) :
    chooseTraced conditions record defaultValue =
      ⟨failures (conditions.flatMap Condition.branches), .ok (fallback defaultValue)⟩ := by
  rw [chooseTraced, chooseFrom_of_passes passes]
  rfl

end

/-- How the search for a branch ends. -/
inductive Ending (record : Record) (conditions : List Condition) : Prop
  | holds {index count : Nat} {condition : Condition} {branch : Text × Text}
      (reaches : Reaches record conditions index condition count)
      (found : condition.branches[count]? = some branch)
      (holds : evaluate record branch.1 = .ok true)
  | malformed {index count : Nat} {condition : Condition} {branch : Text × Text}
      {fault : Expression.Fault} (reaches : Reaches record conditions index condition count)
      (found : condition.branches[count]? = some branch)
      (malformed : evaluate record branch.1 = .error fault)
  | otherwise {index : Nat} {condition : Condition} {value : Text}
      (reaches : Reaches record conditions index condition condition.branches.length)
      (otherwise : condition.otherwise? = some value)
  | passes (passes : ∀ condition ∈ conditions, Passes record condition)

theorem Reaches.cons {first : Condition} {index count : Nat} (passes : Passes record first)
    (h : Reaches record conditions index condition count) :
    Reaches record (first :: conditions) (index + 1) condition count :=
  ⟨h.found, List.forall_mem_cons.2 ⟨passes, h.passes⟩, h.fail⟩

theorem Reaches.head {count : Nat} (fail : Fail record (condition.branches.take count)) :
    Reaches record (condition :: conditions) 0 condition count :=
  ⟨rfl, (fun _ member => nomatch member), fail⟩

/-- The search ends in one of the four ways. -/
theorem ending (record : Record) (conditions : List Condition) : Ending record conditions := by
  induction conditions with
  | nil => exact .passes fun _ member => nomatch member
  | cons first rest ih =>
    rcases fail_or_found record first.branches with fail | ⟨count, branch, found, fail, decides⟩
    · cases otherwise : first.otherwise? with
      | some value =>
        refine .otherwise (.head ?_) otherwise
        rwa [List.take_length]
      | none =>
        have passes : Passes record first := ⟨fail, otherwise⟩
        cases ih with
        | holds reaches found holds => exact .holds (reaches.cons passes) found holds
        | malformed reaches found malformed => exact .malformed (reaches.cons passes) found malformed
        | otherwise reaches otherwise => exact .otherwise (reaches.cons passes) otherwise
        | passes others => exact .passes (List.forall_mem_cons.2 ⟨passes, others⟩)
    · cases held : evaluate record branch.1 with
      | error fault => exact .malformed (.head fail) found held
      | ok value =>
        cases value with
        | true => exact .holds (.head fail) found held
        | false => exact absurd held decides

/-! ## Changes behind the choice -/

/-- The conditions in front of the `index`-th are the same, and so are its first `count` branches. -/
def SameFront (index count : Nat) (conditions others : List Condition) : Prop :=
  others.take index = conditions.take index ∧ ∃ condition other, conditions[index]? = some condition ∧
    others[index]? = some other ∧ other.branches.take count = condition.branches.take count

/-- The conditions are the same up to the branch or the else. -/
def Branch.SameUpTo (conditions others : List Condition) : Branch → Prop
  | .ifBranch index => SameFront index 1 conditions others
  | .elseIf index count => SameFront index (count + 1) conditions others
  | .otherwise index =>
    others.take index = conditions.take index ∧ ∃ condition other, conditions[index]? = some condition ∧
      others[index]? = some other ∧ other.branches = condition.branches ∧
      other.otherwise? = condition.otherwise?
  | .fallback | .none => False

theorem Branch.sameUpTo_ofPlace {index count : Nat} :
    (Branch.ofPlace index count).SameUpTo conditions others ↔
      SameFront index (count + 1) conditions others := by
  unfold Branch.ofPlace
  split
  · next zero =>
    subst zero
    rfl
  · rfl

/-- A search that comes to a branch comes to it in all conditions that are the same up to there. -/
theorem Reaches.of_sameFront {index count : Nat} {branch : Text × Text}
    (h : Reaches record conditions index condition count)
    (found : condition.branches[count]? = some branch)
    (same : SameFront index (count + 1) conditions others) :
    ∃ other, Reaches record others index other count ∧ other.branches[count]? = some branch ∧
      branchesBefore others index count = branchesBefore conditions index count := by
  obtain ⟨earlier, condition', other, found', foundOther, branches⟩ := same
  rw [h.found] at found'
  cases found'
  have front : other.branches.take count = condition.branches.take count := by
    have shorter := congrArg (List.take count) branches
    rwa [List.take_take, List.take_take, Nat.min_eq_left (Nat.le_succ count)] at shorter
  refine ⟨other, ⟨foundOther, ?_, ?_⟩, ?_, ?_⟩
  · rw [earlier]
    exact h.passes
  · rw [front]
    exact h.fail
  · rw [← List.getElem?_take_of_lt (Nat.lt_succ_self count), branches,
      List.getElem?_take_of_lt (Nat.lt_succ_self count), found]
  · rw [branchesBefore, branchesBefore, earlier, foundOther, h.found, Option.map_some, Option.getD_some,
      front]
    rfl

theorem chooseTraced_of_sameUpTo {defaultValue : Option Text} {choice : Choice}
    (chosen : (chooseTraced conditions record defaultValue).outcome = .ok choice)
    (same : choice.branch.SameUpTo conditions others) (otherDefault : Option Text) :
    chooseTraced others record otherDefault = chooseTraced conditions record defaultValue := by
  cases ending record conditions with
  | holds reaches found holds =>
    rw [reaches.chooseTraced_of_holds found holds] at chosen ⊢
    cases chosen
    obtain ⟨other, reaches', found', before⟩ :=
      reaches.of_sameFront found (Branch.sameUpTo_ofPlace.1 same)
    rw [reaches'.chooseTraced_of_holds found' holds, before]
  | malformed reaches found malformed =>
    rw [reaches.chooseTraced_of_malformed found malformed] at chosen
    cases chosen
  | @otherwise index condition value reaches otherwise =>
    rw [reaches.chooseTraced_of_otherwise otherwise] at chosen ⊢
    cases chosen
    obtain ⟨earlier, condition', other, found', foundOther, branches, sameElse⟩ := same
    rw [reaches.found] at found'
    cases found'
    have reaches' : Reaches record others index other other.branches.length := by
      refine ⟨foundOther, ?_, ?_⟩
      · rw [earlier]
        exact reaches.passes
      · rw [branches]
        exact reaches.fail
    have before : branchesBefore others index other.branches.length =
        branchesBefore conditions index condition.branches.length := by
      rw [branchesBefore, branchesBefore, earlier, foundOther, reaches.found, Option.map_some,
        Option.map_some, branches]
    rw [reaches'.chooseTraced_of_otherwise (sameElse.trans otherwise), before]
  | passes passes =>
    rw [chooseTraced_of_passes passes] at chosen
    cases chosen
    unfold fallback at same
    cases defaultValue <;> exact same.elim

/-! ## What is logged -/

/-- The branches that fail before the choice is made. -/
def Branch.failed (conditions : List Condition) : Branch → List (Text × Text)
  | .ifBranch index => branchesBefore conditions index 0
  | .elseIf index count => branchesBefore conditions index count
  | .otherwise index => (conditions.take (index + 1)).flatMap Condition.branches
  | .fallback | .none => conditions.flatMap Condition.branches

/-- The expression of the branch, with its value; an else and a default have none. -/
def Branch.chosen? (conditions : List Condition) (branch : Branch) : Option (Text × Text) := do
  let index ← branch.conditionIndex?
  let count ← branch.branchIndex?
  let condition ← conditions[index]?
  condition.branches[count]?

/-- The line for an expression that does not hold. -/
def falseLine (branch : Text × Text) : Text := branch.1 ++ ": FALSE"

/-- The line for an expression that holds. -/
def trueLine (branch : Text × Text) : Text := branch.1 ++ ": TRUE"

theorem map_line_failures (branches : List (Text × Text)) :
    (failures branches).map Attempt.line = branches.map falseLine := by
  rw [failures, List.map_map]
  refine List.map_congr_left ?_
  intro branch _
  exact List.append_assoc branch.1 ": ".toList "FALSE".toList

theorem line_holds (branch : Text × Text) : Attempt.line ⟨branch.1, true⟩ = trueLine branch :=
  List.append_assoc branch.1 ": ".toList "TRUE".toList

section
variable {index count : Nat}

theorem Branch.failed_ofPlace :
    (Branch.ofPlace index count).failed conditions = branchesBefore conditions index count := by
  unfold Branch.ofPlace
  split
  · next zero =>
    subst zero
    rfl
  · rfl

theorem Branch.chosen?_ofPlace {branch : Text × Text}
    (reaches : Reaches record conditions index condition count)
    (found : condition.branches[count]? = some branch) :
    (Branch.ofPlace index count).chosen? conditions = some branch := by
  have place : (Branch.ofPlace index count).conditionIndex? = some index ∧
      (Branch.ofPlace index count).branchIndex? = some count := by
    unfold Branch.ofPlace
    split
    · next zero =>
      subst zero
      exact ⟨rfl, rfl⟩
    · exact ⟨rfl, rfl⟩
  rw [Branch.chosen?, place.1, place.2]
  simp only [Option.bind_eq_bind, Option.bind_some, reaches.found, found]

/-- All branches of a condition are those in front of its else. -/
theorem branchesBefore_length (found : conditions[index]? = some condition) :
    branchesBefore conditions index condition.branches.length =
      (conditions.take (index + 1)).flatMap Condition.branches := by
  rw [branchesBefore, List.take_add_one, found, List.flatMap_append, Option.map_some, Option.getD_some,
    List.take_length, Option.toList_some, List.flatMap_singleton]

end

/-- The attempts that lead to a choice are the branches that fail before it, and the chosen one. -/
theorem attempts_of_chosen {defaultValue : Option Text} {choice : Choice}
    (chosen : (chooseTraced conditions record defaultValue).outcome = .ok choice) :
    (chooseTraced conditions record defaultValue).attempts = failures (choice.branch.failed conditions) ++
      (choice.branch.chosen? conditions).toList.map fun branch => ⟨branch.1, true⟩ := by
  cases ending record conditions with
  | holds reaches found holds =>
    rw [reaches.chooseTraced_of_holds found holds] at chosen ⊢
    cases chosen
    rw [Branch.failed_ofPlace, Branch.chosen?_ofPlace reaches found]
    rfl
  | malformed reaches found malformed =>
    rw [reaches.chooseTraced_of_malformed found malformed] at chosen
    cases chosen
  | otherwise reaches otherwise =>
    rw [reaches.chooseTraced_of_otherwise otherwise] at chosen ⊢
    cases chosen
    rw [branchesBefore_length reaches.found]
    exact (List.append_nil _).symm
  | passes passes =>
    rw [chooseTraced_of_passes passes] at chosen ⊢
    cases chosen
    unfold fallback
    cases defaultValue <;> exact (List.append_nil _).symm

/-- A choice fails exactly when the search comes to a malformed expression. -/
theorem chooseTraced_eq_error_iff {defaultValue : Option Text} {fault : Expression.Fault} :
    (chooseTraced conditions record defaultValue).outcome = .error fault ↔
      ∃ index condition count branch, Reaches record conditions index condition count ∧
        condition.branches[count]? = some branch ∧
        Expression.parse (Text.strip branch.1) = .error fault := by
  constructor
  · intro failed
    cases ending record conditions with
    | holds reaches found holds =>
      rw [reaches.chooseTraced_of_holds found holds] at failed
      cases failed
    | malformed reaches found malformed =>
      rw [reaches.chooseTraced_of_malformed found malformed] at failed
      cases failed
      exact ⟨_, _, _, _, reaches, found, evaluate_eq_error_iff.1 malformed⟩
    | otherwise reaches otherwise =>
      rw [reaches.chooseTraced_of_otherwise otherwise] at failed
      cases failed
    | passes passes =>
      rw [chooseTraced_of_passes passes] at failed
      cases failed
  · rintro ⟨index, condition, count, branch, reaches, found, malformed⟩
    rw [reaches.chooseTraced_of_malformed found (evaluate_eq_error_iff.2 malformed)]

/-! ## Evaluators -/

namespace Evaluator

/-- The log grows by the lines of the attempts, if it is kept. -/
theorem log_note (evaluator : Evaluator) (attempts : List Attempt) :
    (evaluator.note attempts).log =
      evaluator.log ++ if evaluator.debug then attempts.map Attempt.line else [] := by
  rw [note]
  split
  · rfl
  · exact (List.append_nil _).symm

/-- A choice of a branch or an else, with what is logged on the way, stays as it is whatever is changed behind
it. It fails exactly when a malformed expression is come to: everything in front of it fails, and there is no
else in front. If the log is kept, it grows by the expressions in front, which are false, and by the chosen one,
which is true. -/
theorem resolve_lazy (evaluator : Evaluator) (conditions : List Condition) (record : Record)
    (defaultValue : Option Text) :
    (∀ choice, (evaluator.resolve conditions record defaultValue).1 = .ok choice →
      ∀ others otherDefault, choice.branch.SameUpTo conditions others →
        evaluator.resolve others record otherDefault =
          evaluator.resolve conditions record defaultValue) ∧
    (∀ fault, (evaluator.resolve conditions record defaultValue).1 = .error fault ↔
      ∃ index condition count branch, Reaches record conditions index condition count ∧
        condition.branches[count]? = some branch ∧
        Expression.parse (Text.strip branch.1) = .error fault) ∧
    (∀ choice, (evaluator.resolve conditions record defaultValue).1 = .ok choice →
      (evaluator.resolve conditions record defaultValue).2.log = evaluator.log ++
        if evaluator.debug then (choice.branch.failed conditions).map falseLine ++
          (choice.branch.chosen? conditions).toList.map trueLine else []) ∧
    ∀ index condition count branch fault, Reaches record conditions index condition count →
      condition.branches[count]? = some branch →
      Expression.parse (Text.strip branch.1) = .error fault →
      (evaluator.resolve conditions record defaultValue).2.log = evaluator.log ++
        if evaluator.debug then (branchesBefore conditions index count).map falseLine else [] := by
  refine ⟨?_, fun fault => chooseTraced_eq_error_iff, ?_, ?_⟩
  · intro choice chosen others otherDefault same
    rw [resolve, resolve, chooseTraced_of_sameUpTo chosen same otherDefault]
  · intro choice chosen
    have holds : (choice.branch.chosen? conditions).toList.map
        (Attempt.line ∘ fun branch => ⟨branch.1, true⟩) =
          (choice.branch.chosen? conditions).toList.map trueLine :=
      List.map_congr_left fun branch _ => line_holds branch
    rw [resolve, log_note, attempts_of_chosen chosen, List.map_append, map_line_failures, List.map_map,
      holds]
  · intro index condition count branch fault reaches found malformed
    have run : chooseTraced conditions record defaultValue =
        ⟨failures (branchesBefore conditions index count), .error fault⟩ :=
      reaches.chooseTraced_of_malformed found (evaluate_eq_error_iff.2 malformed)
    rw [resolve, log_note, run, map_line_failures]

end Evaluator
end FixedExtract.Layout
