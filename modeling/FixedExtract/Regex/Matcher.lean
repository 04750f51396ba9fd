import FixedExtract.Regex.Class
/-!
# Matching

A match is searched by trying the possibilities in order: alternatives from left to right, greedy repetitions from
many to few and lazy ones from few to many. What follows a step is given as a function, so that the step tries its
next possibility when the rest fails. Failed attempts leave traces. A mark that was set is only forgotten when more
marks are in use than at the start of the attempt, or when the attempt was part of a loop, which puts all marks
back. The place where the latest attempt stopped is kept as well: a possessive loop goes on from there after the
repetition that fails.
-/

namespace FixedExtract.Regex

/-! ## Programs

A pattern with its flags worked in: groups are marks around their contents, items of width one are tests, and what
repeats one test is told apart from what repeats anything else, because it needs no marks and no way back into its
middle.
-/

/-- One step of a match. -/
inductive Step where
  | test (test : Test)
  | anchor (anchor : Anchor) (ascii multiLine : Bool)
  | mark (index : Nat)
  | branch (alternatives : List (List Step))
  | run (mode : Mode) (least : Nat) (most : Option Nat) (test : Test)
  | loop (mode : Mode) (least : Nat) (most : Option Nat) (body : List Step)
  | atomic (body : List Step)
  | look (negated : Bool) (width : Nat) (body : List Step)
  | again (fold : Fold) (group : Nat)
  | conditional (group : Nat) (yes : List Step) (no : Option (List Step))
  deriving Repr, Inhabited

/-- The marks of a group: where it begins, and where it ends. -/
def beginMark (group : Nat) : Nat := 2 * (group - 1)

def endMark (group : Nat) : Nat := 2 * (group - 1) + 1

mutual

/-- The test that a sequence of one item amounts to; groups that only change flags do not count. -/
def onlyTest? (flags : Flags) : List Item → Option Test
  | [item] => itemTest? flags item
  | _ => none

def itemTest? (flags : Flags) : Item → Option Test
  | .group none on off body => onlyTest? (flags.inGroup on off) body
  | item => item.test? flags

end

mutual

/-- The steps of an item. -/
def stepsOfItem (flags : Flags) : Item → List Step
  | .anchor anchor => [.anchor anchor flags.ascii flags.multiLine]
  | .branch alternatives => [.branch (stepsOfBranch flags alternatives)]
  | .group none on off body => stepsOf (flags.inGroup on off) body
  | .group (some group) on off body =>
    .mark (beginMark group) :: stepsOf (flags.inGroup on off) body ++ [.mark (endMark group)]
  | .atomic body => [.atomic (stepsOf flags body)]
  | .repeated mode least most body =>
    match onlyTest? flags body with
    | some test => [.run mode least most test]
    | none => [.loop mode least most (stepsOf flags body)]
  | .look _ negated width body => [.look negated width (stepsOf flags body)]
  | .backReference group => [.again flags.fold group]
  | .conditional group yes no =>
    [.conditional group (stepsOf flags yes) (if no.isEmpty then none else some (stepsOf flags no))]
  | .literal code => [.test (.ofCode flags false code)]
  | .any => [.test (.any flags.dotAll)]
  | .set negated items => [.test (.ofSet flags negated items)]

/-- The steps of a sequence. -/
def stepsOf (flags : Flags) : List Item → List Step
  | [] => []
  | item :: rest => stepsOfItem flags item ++ stepsOf flags rest

/-- The steps of some alternatives. -/
def stepsOfBranch (flags : Flags) : List (List Item) → List (List Step)
  | [] => []
  | first :: rest => stepsOf flags first :: stepsOfBranch flags rest

end

/-- The steps of a pattern. -/
def Pattern.program (pattern : Pattern) : List Step := stepsOf pattern.flags pattern.items

/-! ## Attempts -/

/-- The marks in use, and the place that the latest attempt has reached. -/
structure State where
  place : Nat
  marks : List (Option Nat)
  deriving DecidableEq, Repr

/-- How an attempt ended: whether it was successful, and in which state. -/
abbrev Ending := Bool × State

/-- What follows at a position of the text. -/
abbrev Rest := Nat → State → Ending

namespace State

def start : State := ⟨0, []⟩

/-- The state with another place reached. -/
def reach (s : State) (place : Nat) : State := { s with place := place }

/-- Sets a mark. Marks in front of it that were not in use become empty. -/
def setMark (s : State) (index position : Nat) : State :=
  { s with
    marks :=
      if index < s.marks.length then s.marks.set index (some position)
      else s.marks ++ List.replicate (index - s.marks.length) none ++ [some position] }

/-- The state after a failed attempt that began with the marks of `earlier`. -/
def recover (s : State) (inLoop : Bool) (earlier : State) : State :=
  { s with marks := if inLoop then earlier.marks else s.marks.take earlier.marks.length }

/-- Where the text of a group begins and ends, if the group has matched. -/
def span? (s : State) (group : Nat) : Option (Nat × Nat) :=
  match (s.marks[beginMark group]?).join, (s.marks[endMark group]?).join with
  | some first, some last => if first ≤ last then some (first, last) else none
  | _, _ => none

end State

/-! ### Places in the text -/

/-- Is there a character of a word at the position? -/
def isWordAt (text : Array Char) (ascii : Bool) (position : Nat) : Bool :=
  match text[position]? with
  | some c => inCategory ascii c.toNat .word
  | none => false

/-- Do a word and something else meet at the position? -/
def isBoundary (text : Array Char) (ascii : Bool) (position : Nat) : Bool :=
  (0 < position && isWordAt text ascii (position - 1)) != isWordAt text ascii position

/-- Does an anchor hold at the position? In an empty text there are neither boundaries nor places without. -/
def anchorHolds (text : Array Char) (ascii multiLine : Bool) (position : Nat) : Anchor → Bool
  | .textStart => position == 0
  | .textEnd => position == text.size
  | .lineStart => position == 0 || (multiLine && text[position - 1]? == some '\n')
  | .lineEnd =>
    position == text.size ||
      (text[position]? == some '\n' && (multiLine || position + 1 == text.size))
  | .boundary => !text.isEmpty && isBoundary text ascii position
  | .noBoundary => !text.isEmpty && !isBoundary text ascii position

/-- Does the character at the position fulfil a test? -/
def testHolds (text : Array Char) (test : Test) (position : Nat) : Bool :=
  match text[position]? with
  | some c => test.holds c
  | none => false

/-- How many characters in a row fulfil a test, at most `most`. -/
def countRun (text : Array Char) (test : Test) : (most : Nat) → (position : Nat) → Nat
  | 0, _ => 0
  | most + 1, position =>
    if testHolds text test position then countRun text test most (position + 1) + 1 else 0

/-- Does the text of a group stand at the position once more? -/
def standsAgain (text : Array Char) (fold : Fold) : (length first position : Nat) → Bool
  | 0, _, _ => true
  | length + 1, first, position =>
    match text[first]?, text[position]? with
    | some a, some b =>
      fold.lower a.toNat == fold.lower b.toNat &&
        standsAgain text fold length (first + 1) (position + 1)
    | _, _ => false

/-! ### Runs of one test -/

/-- Tries the rest behind `count` characters of a run and then behind fewer, down to `least`. Where the literal
that follows does not stand, the rest is not tried. -/
def shrinkRun (text : Array Char) (inLoop : Bool) (literal : Option Nat) (least start : Nat)
    (earlier : State) (k : Rest) : (count : Nat) → State → Ending
  | 0, s =>
    if 0 < least then (false, s)
    else if literal.any fun code => (text[start]?).map Char.toNat != some code then (false, s)
    else
      match k start (s.reach start) with
      | (true, found) => (true, found)
      | (false, failed) => (false, failed.recover inLoop earlier)
  | count + 1, s =>
    if count + 1 < least then (false, s)
    else
      let position := start + count + 1
      if literal.any fun code => (text[position]?).map Char.toNat != some code then
        shrinkRun text inLoop literal least start earlier k count s
      else
        match k position (s.reach position) with
        | (true, found) => (true, found)
        | (false, failed) =>
          shrinkRun text inLoop literal least start earlier k count
            (failed.recover inLoop earlier)

/-- Tries the rest at the position and then behind one more character at a time, up to `more` of them. -/
def growRun (text : Array Char) (inLoop : Bool) (test : Test) (earlier : State) (k : Rest) :
    (more : Nat) → (position : Nat) → State → Ending
  | more, position, s =>
    match k position (s.reach position) with
    | (true, found) => (true, found)
    | (false, failed) =>
      let s := (failed.recover inLoop earlier).reach position
      if testHolds text test position then
        let s := if test.isFoldedSet then s.reach (position + 1) else s
        match more with
        | 0 => (false, s)
        | more + 1 => growRun text inLoop test earlier k more (position + 1) s
      else (false, s)

/-- Repeats a test. -/
def matchRun (text : Array Char) (inLoop : Bool) (literal : Option Nat) (mode : Mode) (least : Nat)
    (most : Option Nat) (test : Test) (position : Nat) (s : State) (k : Rest) : Ending :=
  let available := text.size - position
  if available < least then (false, s)
  else
    let limit := if mode = .lazy then least else (most.map (min available)).getD available
    let count := countRun text test limit position
    let reached := s.reach (if test.isFoldedSet then position + count else position)
    if count < least then (false, reached)
    else
      match mode with
      | .greedy => shrinkRun text inLoop literal least position reached k count reached
      | .lazy =>
        growRun text inLoop test reached k ((most.map (· - least)).getD available)
          (position + count) reached
      | .possessive => k (position + count) (reached.reach (position + count))

/-! ### Loops -/

/-- What matching the body of a loop does, given what follows. -/
abbrev Body := Nat → State → Rest → Ending

/-- Accepts whatever has been matched, and keeps the place. -/
def accept : Rest := fun position s => (true, s.reach position)

/-- Is one more repetition allowed after `count` of them? -/
def mayRepeat (most : Option Nat) (count : Nat) : Bool := (most.map (Nat.blt count)).getD true

/-- Repeats greedily, after `count` repetitions of which the last one that was not required began at `last`. A
repetition that matches nothing is not followed by another. -/
def loopGreedy (body : Body) (least : Nat) (most : Option Nat) (k : Rest) :
    (fuel count : Nat) → (last : Option Nat) → Nat → State → Ending
  | 0, _, _, position, s => (false, s.reach position)
  | fuel + 1, count, last, position, s =>
    let s := s.reach position
    if count < least then
      match body position s (loopGreedy body least most k fuel (count + 1) last) with
      | (true, found) => (true, found)
      | (false, failed) => (false, failed.reach position)
    else
      let attempt :=
        if mayRepeat most count && last != some position then
          body position s (loopGreedy body least most k fuel (count + 1) (some position))
        else (false, s)
      match attempt with
      | (true, found) => (true, found)
      | (false, _) =>
        match k position s with
        | (true, found) => (true, found)
        | (false, failed) => (false, failed.reach position)

/-- Repeats lazily. -/
def loopLazy (body : Body) (inLoop : Bool) (least : Nat) (most : Option Nat) (k : Rest) :
    (fuel count : Nat) → (last : Option Nat) → Nat → State → Ending
  | 0, _, _, position, s => (false, s.reach position)
  | fuel + 1, count, last, position, s =>
    let s := s.reach position
    if count < least then
      match body position s (loopLazy body inLoop least most k fuel (count + 1) last) with
      | (true, found) => (true, found)
      | (false, failed) => (false, failed.reach position)
    else
      match k position s with
      | (true, found) => (true, found)
      | (false, failed) =>
        let s := (failed.recover inLoop s).reach position
        if mayRepeat most count && last != some position then
          match body position s (loopLazy body inLoop least most k fuel (count + 1) (some position)) with
          | (true, found) => (true, found)
          | (false, failed) => (false, failed.reach position)
        else (false, s)

/-- Repeats as often as possible, and goes on from the place that is reached then; the repetition that fails may
have moved it. -/
def loopPossessive (body : Body) (least : Nat) (most : Option Nat) (k : Rest) (start : Nat) :
    (fuel count : Nat) → (last : Option Nat) → State → Ending
  | 0, _, _, s => k s.place s
  | fuel + 1, count, last, s =>
    if count < least then
      match body s.place s accept with
      | (true, after) => loopPossessive body least most k start fuel (count + 1) last after
      | (false, failed) => (false, failed.reach start)
    else if mayRepeat most count && last != some s.place then
      match body s.place s accept with
      | (true, after) => loopPossessive body least most k start fuel (count + 1) (some s.place) after
      | (false, failed) => k failed.place { failed with marks := s.marks }
    else k s.place s

/-- Repeats the body of a loop. A repetition that is not required either goes on in the text or is the last one, so
that the fuel is enough. -/
def matchLoop (text : Array Char) (body : Body) (inLoop : Bool) (mode : Mode) (least : Nat)
    (most : Option Nat) (position : Nat) (s : State) (k : Rest) : Ending :=
  let fuel := least + (text.size - position) + 3
  match mode with
  | .greedy => loopGreedy body least most k fuel 0 none position s
  | .lazy => loopLazy body inLoop least most k fuel 0 none position s
  | .possessive => loopPossessive body least most k position fuel 0 none (s.reach position)

/-! ### Steps -/

/-- The literal that the steps begin with; `following` is the one behind them. -/
def firstLiteral (following : Option Nat) : List Step → Option Nat
  | [] => following
  | .test test :: _ => test.literal?
  | _ => none

/-- Does the character at the position rule an alternative out? Only a literal or a set in front that leaves
characters as they are is looked at. -/
def ruledOut (text : Array Char) (position : Nat) : List Step → Bool
  | .test (.equal .none false code) :: _ => !testHolds text (.equal .none false code) position
  | .test (.among .none negated members) :: _ =>
    !testHolds text (.among .none negated members) position
  | _ => false

mutual

/-- Matches a step and what follows it. `inLoop` says whether a greedy or lazy loop is around, and `following` is the
literal that follows the step. -/
def matchStep (text : Array Char) (inLoop : Bool) (following : Option Nat) :
    Step → Nat → State → Rest → Ending
  | .test test, position, s, k =>
    if testHolds text test position then k (position + 1) s else (false, s)
  | .anchor anchor ascii multiLine, position, s, k =>
    if anchorHolds text ascii multiLine position anchor then k position s else (false, s)
  | .mark index, position, s, k => k position (s.setMark index position)
  | .branch alternatives, position, s, k => matchBranch text inLoop alternatives s position s k
  | .run mode least most test, position, s, k =>
    matchRun text inLoop following mode least most test position s k
  | .loop mode least most body, position, s, k =>
    let around := inLoop || mode != .possessive
    matchLoop text (fun position s k => matchSteps text around none body position s k) inLoop mode
      least most position s k
  | .atomic body, position, s, k =>
    match matchSteps text inLoop none body position (s.reach position) accept with
    | (true, after) => k after.place after
    | (false, failed) => (false, failed.reach position)
  | .look false width body, position, s, k =>
    if position < width then (false, s)
    else
      match matchSteps text inLoop none body (position - width) (s.reach (position - width)) accept with
      | (true, after) => k position after
      | (false, failed) => (false, failed)
  | .look true width body, position, s, k =>
    if position < width then k position s
    else
      match matchSteps text inLoop none body (position - width) (s.reach (position - width)) accept with
      | (true, after) => (false, after)
      | (false, failed) => k position (failed.recover inLoop s)
  | .again fold group, position, s, k =>
    match s.span? group with
    | some (first, last) =>
      if standsAgain text fold (last - first) first position then k (position + (last - first)) s
      else (false, s)
    | none => (false, s)
  | .conditional group yes no, position, s, k =>
    if (s.span? group).isSome then
      matchSteps text inLoop (if no.isNone then following else none) yes position s k
    else
      match no with
      | some no => matchSteps text inLoop following no position s k
      | none => k position s

/-- Matches a sequence and what follows it. -/
def matchSteps (text : Array Char) (inLoop : Bool) (following : Option Nat) :
    List Step → Nat → State → Rest → Ending
  | [], position, s, k => k position s
  | step :: rest, position, s, k =>
    matchStep text inLoop (firstLiteral following rest) step position s fun position s =>
      matchSteps text inLoop following rest position s k

/-- Matches the first alternative that what follows allows. -/
def matchBranch (text : Array Char) (inLoop : Bool) :
    List (List Step) → (earlier : State) → Nat → State → Rest → Ending
  | [], _, _, s, _ => (false, s)
  | steps :: rest, earlier, position, s, k =>
    if ruledOut text position steps then matchBranch text inLoop rest earlier position s k
    else
      match matchSteps text inLoop none steps position (s.reach position) k with
      | (true, found) => (true, found)
      | (false, failed) =>
        matchBranch text inLoop rest earlier position (failed.recover inLoop earlier) k

end

/-! ### Whole texts -/

/-- What matching a whole text finds. In a crossed match a group ends before it begins. -/
inductive Finding where
  | unmatched
  | matched
  | crossed
  deriving DecidableEq, Repr

/-- Does some group end before it begins? -/
def hasCrossing : List (Option Nat) → Bool
  | some first :: some last :: rest => last < first || hasCrossing rest
  | _ :: _ :: rest => hasCrossing rest
  | _ => false

/-- Matches the text from its start to its end. -/
def Pattern.find (pattern : Pattern) (text : Text) : Finding :=
  let text := text.toArray
  let (found, s) := matchSteps text false none pattern.program 0 .start fun position s =>
    (position == text.size, s.reach position)
  if !found then .unmatched else if hasCrossing s.marks then .crossed else .matched

end FixedExtract.Regex
