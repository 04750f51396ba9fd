import FixedExtract.Regex.Matcher
import Mathlib.Data.List.Forall2
/-!
# Sequences of tests and runs

What follows a step is given to it as a function, and a step without groups leaves no marks behind. So such a function
is known by the positions of the text at which it succeeds, and so is a step with what follows it: a test moves by one
character, and a greedy run succeeds when what follows does so behind some part of the run, however the parts are tried.

A program of tests and greedy runs takes a text apart from left to right, and it matches just the texts that can be cut
into one piece for each step, each piece of the characters that the step takes.
-/

namespace FixedExtract.Regex

/-- Wherever it is tried in the text without marks, the rest of a match sets none, and it succeeds at these
positions. -/
structure Decides (text : Array Char) (k : Rest) (holdsAt : Nat → Prop) : Prop where
  answers : ∀ {position : Nat} {s : State}, position ≤ text.size → s.marks = [] →
    ((k position s).1 = true ↔ holdsAt position)
  unmarked : ∀ {position : Nat} {s : State}, position ≤ text.size → s.marks = [] → (k position s).2.marks = []

section
variable {text : Array Char} {t : Test} {k : Rest} {holdsAt : Nat → Prop}

theorem Decides.congr (h : Decides text k holdsAt) {otherAt : Nat → Prop}
    (same : ∀ position ≤ text.size, (holdsAt position ↔ otherAt position)) : Decides text k otherAt where
  answers inside unmarked := (h.answers inside unmarked).trans (same _ inside)
  unmarked inside unmarked := h.unmarked inside unmarked

namespace State

/-- Outside of loops nothing is left of an attempt that began without marks. -/
theorem marks_recover {earlier : State} (h : earlier.marks = []) (s : State) :
    (s.recover false earlier).marks = [] := by
  simp [recover, h]

end State

/-! ## Tests -/

theorem testHolds_iff {position : Nat} :
    testHolds text t position = true ↔ ∃ c, text[position]? = some c ∧ t.holds c = true := by
  unfold testHolds
  cases text[position]? <;> simp

theorem lt_size_of_testHolds {position : Nat} (h : testHolds text t position = true) : position < text.size := by
  obtain ⟨c, here, -⟩ := testHolds_iff.1 h
  exact (Array.getElem?_eq_some_iff.1 here).1

theorem Decides.test (behind : Decides text k holdsAt) (following : Option Nat) :
    Decides text (fun position s => matchStep text false following (.test t) position s k) fun position =>
      testHolds text t position = true ∧ holdsAt (position + 1) where
  answers {position s} _ unmarked := by
    rw [matchStep]
    by_cases here : testHolds text t position = true
    · rw [if_pos here, behind.answers (lt_size_of_testHolds here) unmarked]
      exact (and_iff_right here).symm
    · rw [if_neg here]
      simp [here]
  unmarked {position s} _ unmarked := by
    rw [matchStep]
    by_cases here : testHolds text t position = true
    · rw [if_pos here]
      exact behind.unmarked (lt_size_of_testHolds here) unmarked
    · rw [if_neg here]
      exact unmarked

/-! ## Greedy runs -/

/-- A run is as long as the test holds for all its characters. -/
theorem le_countRun_iff {most position n : Nat} :
    n ≤ countRun text t most position ↔
      n ≤ most ∧ ∀ i < n, testHolds text t (position + i) = true := by
  induction most generalizing position n with
  | zero =>
    show n ≤ 0 ↔ n ≤ 0 ∧ _
    constructor
    · intro h
      exact ⟨h, fun i hi => absurd hi (by omega)⟩
    · exact And.left
  | succ most ih =>
    rw [countRun]
    cases n with
    | zero => simp
    | succ n =>
      by_cases here : testHolds text t position = true
      · rw [if_pos here, Nat.add_le_add_iff_right, ih, Nat.add_le_add_iff_right]
        refine and_congr_right fun _ => ⟨fun later i hi => ?_, fun all i hi => ?_⟩
        · cases i with
          | zero => exact here
          | succ i =>
            have := later i (by omega)
            rwa [Nat.add_assoc, Nat.add_comm 1] at this
        · have := all (i + 1) (by omega)
          rwa [Nat.add_assoc, Nat.add_comm 1]
      · rw [if_neg here]
        constructor
        · intro h
          omega
        · rintro ⟨-, all⟩
          exact absurd (all 0 (by omega)) here

/-- Where the literal that follows does not stand, nothing is lost when the rest is not tried. -/
def Asks (text : Array Char) (literal : Option Nat) (holdsAt : Nat → Prop) : Prop :=
  ∀ code ∈ literal, ∀ position, holdsAt position → (text[position]?).map Char.toNat = some code

theorem Asks.not_holdsAt {literal : Option Nat} (asks : Asks text literal holdsAt) {position : Nat}
    (misses : (literal.any fun code => (text[position]?).map Char.toNat != some code) = true) : ¬holdsAt position := by
  intro holds
  cases literal with
  | none => cases misses
  | some code => simp [asks code rfl position holds] at misses

/-- Trying the rest behind a run and then behind less and less of it finds the rest wherever it is. -/
theorem shrinkRun_decides (behind : Decides text k holdsAt) {literal : Option Nat} (asks : Asks text literal holdsAt)
    (least : Nat) {start : Nat} {earlier : State} (before : earlier.marks = []) {count : Nat}
    (inside : start + count ≤ text.size) {s : State} (unmarked : s.marks = []) :
    ((shrinkRun text false literal least start earlier k count s).1 = true ↔
        ∃ n, least ≤ n ∧ n ≤ count ∧ holdsAt (start + n)) ∧
      (shrinkRun text false literal least start earlier k count s).2.marks = [] := by
  induction count generalizing s with
  | zero =>
    have here : start ≤ text.size := inside
    have answer : (k start (s.reach start)).1 = true ↔ holdsAt start := behind.answers here unmarked
    have clean : (k start (s.reach start)).2.marks = [] := behind.unmarked here unmarked
    rw [shrinkRun]
    by_cases short : 0 < least
    · rw [if_pos short]
      refine ⟨iff_of_false Bool.false_ne_true ?_, unmarked⟩
      rintro ⟨n, enough, none, -⟩
      omega
    · have alone : (∃ n, least ≤ n ∧ n ≤ 0 ∧ holdsAt (start + n)) ↔ holdsAt start := by
        rw [Nat.eq_zero_of_not_pos short]
        simp
      rw [if_neg short, alone]
      split
      · next misses => exact ⟨by simp [asks.not_holdsAt misses], unmarked⟩
      · generalize k start (s.reach start) = attempt at answer clean ⊢
        obtain ⟨found, after⟩ := attempt
        cases found with
        | true => exact ⟨answer, clean⟩
        | false => exact ⟨answer, State.marks_recover before after⟩
  | succ count ih =>
    have here : start + count + 1 ≤ text.size := inside
    have shorter : ∀ {s : State}, s.marks = [] → _ := fun {s} => ih (s := s) (by omega)
    rw [shrinkRun]
    by_cases short : count + 1 < least
    · rw [if_pos short]
      refine ⟨iff_of_false Bool.false_ne_true ?_, unmarked⟩
      rintro ⟨n, enough, most, -⟩
      omega
    · -- The longest part is tried first, and then all others.
      have last_or_shorter : (∃ n, least ≤ n ∧ n ≤ count + 1 ∧ holdsAt (start + n)) ↔
          holdsAt (start + count + 1) ∨ ∃ n, least ≤ n ∧ n ≤ count ∧ holdsAt (start + n) := by
        constructor
        · rintro ⟨n, enough, hn, holds⟩
          rcases Nat.lt_or_eq_of_le hn with less | rfl
          · exact .inr ⟨n, enough, by omega, holds⟩
          · exact .inl holds
        · rintro (holds | ⟨n, enough, hn, holds⟩)
          · exact ⟨count + 1, by omega, Nat.le_refl _, holds⟩
          · exact ⟨n, enough, by omega, holds⟩
      rw [if_neg short, last_or_shorter]
      dsimp only
      split
      · next misses =>
        rw [or_iff_right (asks.not_holdsAt misses)]
        exact shorter unmarked
      · have answer : (k (start + count + 1) (s.reach (start + count + 1))).1 = true ↔
            holdsAt (start + count + 1) := behind.answers here unmarked
        have clean : (k (start + count + 1) (s.reach (start + count + 1))).2.marks = [] :=
          behind.unmarked here unmarked
        generalize k (start + count + 1) (s.reach (start + count + 1)) = attempt at answer clean ⊢
        obtain ⟨found, after⟩ := attempt
        cases found with
        | true => exact ⟨iff_of_true rfl (.inl (answer.1 rfl)), clean⟩
        | false =>
          rw [or_iff_right fun holds => Bool.false_ne_true (answer.2 holds)]
          exact shorter (State.marks_recover before after)

/-- A run of characters that all pass the test lies inside the text. -/
theorem le_size_sub_of_testHolds {position n : Nat} (all : ∀ i < n, testHolds text t (position + i) = true) :
    n ≤ text.size - position := by
  refine Nat.le_of_not_lt fun long => ?_
  have := lt_size_of_testHolds (all (text.size - position) long)
  omega

/-- The run that is tried is as long as the test holds and as many repetitions are allowed. -/
theorem le_countRun_available_iff {most : Option Nat} {position n : Nat} :
    n ≤ countRun text t ((most.map (min (text.size - position))).getD (text.size - position)) position ↔
      (∀ m ∈ most, n ≤ m) ∧ ∀ i < n, testHolds text t (position + i) = true := by
  rw [le_countRun_iff]
  refine and_congr_left fun all => ?_
  have available := le_size_sub_of_testHolds all
  cases most with
  | none => exact iff_of_true available nofun
  | some m => exact Nat.le_min.trans (by simp [available])

/-- A greedy run succeeds when the rest does so behind characters that all pass the test, as many of them as are
allowed. -/
theorem Decides.run (behind : Decides text k holdsAt) {following : Option Nat}
    (asks : Asks text following holdsAt) (least : Nat) (most : Option Nat) :
    Decides text (fun position s => matchStep text false following (.run .greedy least most t) position s k)
      fun position => ∃ n, least ≤ n ∧ (∀ m ∈ most, n ≤ m) ∧ (∀ i < n, testHolds text t (position + i) = true) ∧
        holdsAt (position + n) := by
  have decided : ∀ {position : Nat} {s : State}, position ≤ text.size → s.marks = [] →
      ((matchStep text false following (.run .greedy least most t) position s k).1 = true ↔
        ∃ n, least ≤ n ∧ (∀ m ∈ most, n ≤ m) ∧ (∀ i < n, testHolds text t (position + i) = true) ∧
          holdsAt (position + n)) ∧
      (matchStep text false following (.run .greedy least most t) position s k).2.marks = [] := by
    intro position s inside unmarked
    rw [matchStep, matchRun]
    simp only [reduceCtorEq, if_false]
    by_cases few : text.size - position < least
    · rw [if_pos few]
      refine ⟨iff_of_false Bool.false_ne_true ?_, unmarked⟩
      rintro ⟨n, enough, -, all, -⟩
      have := le_size_sub_of_testHolds all
      omega
    · rw [if_neg few]
      have counts : ∀ {n}, n ≤ countRun text t
          ((most.map (min (text.size - position))).getD (text.size - position)) position ↔
            (∀ m ∈ most, n ≤ m) ∧ ∀ i < n, testHolds text t (position + i) = true := le_countRun_available_iff
      generalize countRun text t ((most.map (min (text.size - position))).getD (text.size - position)) position = count
        at counts ⊢
      have longest := le_size_sub_of_testHolds (counts.1 (Nat.le_refl count)).2
      have within : position + count ≤ text.size := by omega
      by_cases short : count < least
      · rw [if_pos short]
        refine ⟨iff_of_false Bool.false_ne_true ?_, unmarked⟩
        rintro ⟨n, enough, allowed, all, -⟩
        have := counts.2 ⟨allowed, all⟩
        omega
      · rw [if_neg short]
        have fresh : (s.reach (if t.isFoldedSet = true then position + count else position)).marks = [] := unmarked
        obtain ⟨answer, clean⟩ := shrinkRun_decides behind asks least fresh within fresh
        refine ⟨answer.trans (exists_congr fun n => and_congr_right fun _ => ?_), clean⟩
        rw [counts, and_assoc]
  exact ⟨fun inside unmarked => (decided inside unmarked).1, fun inside unmarked => (decided inside unmarked).2⟩

/-! ## Whole texts -/

/-- What is left to do at the end of a pattern: to be at the end of the text. -/
def atEnd (text : Array Char) : Rest := fun position s => (position == text.size, s.reach position)

theorem decides_atEnd : Decides text (atEnd text) (· = text.size) where
  answers _ _ := beq_iff_eq
  unmarked _ unmarked := unmarked

/-- A pattern that leaves no marks is found from start to end or not at all. -/
theorem Pattern.find_of_decides {pattern : Pattern} {text : Text}
    (decides : Decides text.toArray
      (fun position s => matchSteps text.toArray false none pattern.program position s (atEnd text.toArray)) holdsAt) :
    (pattern.find text = .matched ↔ holdsAt 0) ∧ pattern.find text ≠ .crossed := by
  have answer := decides.answers (Nat.zero_le _) (show State.start.marks = [] from rfl)
  have clean := decides.unmarked (Nat.zero_le _) (show State.start.marks = [] from rfl)
  have found : pattern.find text =
      if (matchSteps text.toArray false none pattern.program 0 .start (atEnd text.toArray)).1 then .matched
      else .unmatched := by
    rw [Pattern.find]
    unfold atEnd at clean ⊢
    dsimp only at clean ⊢
    rw [clean]
    cases (matchSteps text.toArray false none pattern.program 0 .start fun position s =>
      (position == text.toArray.size, s.reach position)).1 <;> rfl
  rw [found, ← answer]
  split
  · next succeeds => exact ⟨iff_of_true rfl succeeds, nofun⟩
  · next fails => exact ⟨iff_of_false nofun fails, nofun⟩

end

/-! ## Pieces -/

section
variable {α β : Type} {stands : α → Text → Prop} {a : α} {list more : List α} {text : Text}

/-- The text can be cut into pieces that the elements of the list stand for, in order. -/
def SpelledBy (stands : α → Text → Prop) (list : List α) (text : Text) : Prop :=
  ∃ pieces : List Text, pieces.flatten = text ∧ List.Forall₂ stands list pieces

theorem spelledBy_nil : SpelledBy stands [] text ↔ text = [] := by
  constructor
  · rintro ⟨pieces, rfl, none⟩
    cases none
    rfl
  · rintro rfl
    exact ⟨[], rfl, .nil⟩

theorem spelledBy_cons :
    SpelledBy stands (a :: list) text ↔
      ∃ piece rest, piece ++ rest = text ∧ stands a piece ∧ SpelledBy stands list rest := by
  constructor
  · rintro ⟨pieces, rfl, all⟩
    cases all with
    | cons first others => exact ⟨_, _, rfl, first, _, rfl, others⟩
  · rintro ⟨piece, _, rfl, first, pieces, rfl, others⟩
    exact ⟨piece :: pieces, rfl, .cons first others⟩

theorem spelledBy_singleton : SpelledBy stands [a] text ↔ stands a text := by
  rw [spelledBy_cons]
  constructor
  · rintro ⟨piece, rest, rfl, first, none⟩
    rw [spelledBy_nil.1 none, List.append_nil]
    exact first
  · intro first
    exact ⟨text, [], List.append_nil text, first, spelledBy_nil.2 rfl⟩

theorem spelledBy_append :
    SpelledBy stands (list ++ more) text ↔
      ∃ front back, front ++ back = text ∧ SpelledBy stands list front ∧ SpelledBy stands more back := by
  induction list generalizing text with
  | nil => simp [spelledBy_nil]
  | cons a list ih =>
    simp only [List.cons_append, spelledBy_cons, ih]
    constructor
    · rintro ⟨piece, _, rfl, first, front, back, rfl, others, behind⟩
      exact ⟨piece ++ front, back, List.append_assoc .., ⟨piece, front, rfl, first, others⟩, behind⟩
    · rintro ⟨_, back, rfl, ⟨piece, front, rfl, first, others⟩, behind⟩
      exact ⟨piece, front ++ back, (List.append_assoc ..).symm, first, front, back, rfl, others, behind⟩

theorem spelledBy_map {f : β → α} {list : List β} :
    SpelledBy stands (list.map f) text ↔ SpelledBy (fun b => stands (f b)) list text := by
  simp only [SpelledBy, List.forall₂_map_left_iff]

/-- Where each element stands for what others spell, all of them spell what the others do. -/
theorem spelledBy_flatMap {standsFor : β → Text → Prop} {f : β → List α} {list : List β}
    (h : ∀ b ∈ list, ∀ piece, standsFor b piece ↔ SpelledBy stands (f b) piece) :
    SpelledBy standsFor list text ↔ SpelledBy stands (list.flatMap f) text := by
  induction list generalizing text with
  | nil => rw [List.flatMap_nil, spelledBy_nil, spelledBy_nil]
  | cons b list ih =>
    have others : ∀ {rest}, SpelledBy standsFor list rest ↔ SpelledBy stands (list.flatMap f) rest :=
      ih fun other member => h other (List.mem_cons_of_mem b member)
    simp only [List.flatMap_cons, spelledBy_cons, spelledBy_append, h b List.mem_cons_self, others]

end

/-! ## Steps that take characters -/

/-- Is the step a test or a greedy run? -/
def Step.isTaking : Step → Bool
  | .test _ => true
  | .run .greedy _ _ _ => true
  | _ => false

/-- The characters that a test or a greedy run takes. -/
def Step.Takes : Step → Text → Prop
  | .test t, piece => ∃ c, piece = [c] ∧ t.holds c = true
  | .run .greedy least most t, piece =>
    least ≤ piece.length ∧ (∀ m ∈ most, piece.length ≤ m) ∧ ∀ c ∈ piece, t.holds c = true
  | _, _ => False

variable {text : Text} {t : Test} {steps : List Step}

/-- A text that steps spell begins with the literal that the steps begin with. -/
theorem asks_firstLiteral (steps : List Step) :
    Asks text.toArray (firstLiteral none steps) fun position => SpelledBy Step.Takes steps (text.drop position) := by
  intro code known position spelled
  match steps with
  | [] => cases known
  | .test t :: rest =>
    obtain ⟨_, behind, cut, ⟨c, rfl, holds⟩, -⟩ := spelledBy_cons.1 spelled
    have here : text[position]? = some c := by rw [← List.head?_drop, ← cut, List.singleton_append, List.head?_cons]
    have literal : t = .equal .none false code := by
      cases t with
      | any => cases known
      | among => cases known
      | equal fold negated code =>
        cases fold <;> cases negated <;> cases known
        rfl
    rw [literal] at holds
    rw [List.getElem?_toArray, here, Option.map_some]
    simpa [Test.holds, Fold.lower] using holds

theorem testHolds_toArray_iff {position : Nat} :
    testHolds text.toArray t position = true ↔
      ∃ c rest, c :: rest = text.drop position ∧ t.holds c = true := by
  rw [testHolds_iff, List.getElem?_toArray]
  constructor
  · rintro ⟨c, here, holds⟩
    obtain ⟨inside, rfl⟩ := List.getElem?_eq_some_iff.1 here
    exact ⟨_, _, (List.drop_eq_getElem_cons inside).symm, holds⟩
  · rintro ⟨c, rest, cut, holds⟩
    exact ⟨c, by rw [← List.head?_drop, ← cut, List.head?_cons], holds⟩

/-- As many characters from here on pass the test as a piece of the text has, when all in the piece do. -/
theorem forall_testHolds_iff {position n : Nat} :
    (∀ i < n, testHolds text.toArray t (position + i) = true) ↔
      ∃ piece rest, piece ++ rest = text.drop position ∧ piece.length = n ∧ ∀ c ∈ piece, t.holds c = true := by
  constructor
  · intro all
    have inside := le_size_sub_of_testHolds all
    refine ⟨(text.drop position).take n, _, List.take_append_drop n _, ?_, fun c member => ?_⟩
    · rw [List.length_take, List.length_drop]
      rw [List.size_toArray] at inside
      omega
    · obtain ⟨i, within, rfl⟩ := List.mem_iff_getElem.1 member
      rw [List.length_take] at within
      obtain ⟨c, here, holds⟩ := testHolds_iff.1 (all i (by omega))
      rw [List.getElem?_toArray] at here
      rw [List.getElem_take, List.getElem_drop, (List.getElem?_eq_some_iff.1 here).2]
      exact holds
  · rintro ⟨piece, rest, cut, rfl, all⟩ i within
    refine testHolds_iff.2 ⟨piece[i], ?_, all _ (List.getElem_mem within)⟩
    rw [List.getElem?_toArray, ← List.getElem?_drop, ← cut, List.getElem?_append_left within,
      List.getElem?_eq_getElem within]

/-- Steps that take characters succeed where they spell the rest of the text. -/
theorem matchSteps_decides (taking : ∀ step ∈ steps, step.isTaking = true) :
    Decides text.toArray
      (fun position s => matchSteps text.toArray false none steps position s (atEnd text.toArray))
      fun position => SpelledBy Step.Takes steps (text.drop position) := by
  induction steps with
  | nil =>
    refine decides_atEnd.congr fun position inside => ?_
    rw [spelledBy_nil, List.drop_eq_nil_iff, ← List.size_toArray]
    omega
  | cons step steps ih =>
    have others := ih fun other member => taking other (List.mem_cons_of_mem step member)
    -- The position behind a piece is the start of what the piece leaves.
    have behind : ∀ {position : Nat} {piece rest : Text}, piece ++ rest = text.drop position →
        text.drop (position + piece.length) = rest := by
      intro position piece rest cut
      rw [← List.drop_drop, ← cut, List.drop_left]
    match step, taking step List.mem_cons_self with
    | .test t, _ =>
      refine (others.test (t := t) _).congr fun position _ => ?_
      rw [spelledBy_cons, testHolds_toArray_iff]
      constructor
      · rintro ⟨⟨c, rest, cut, holds⟩, spelled⟩
        have later : text.drop (position + 1) = rest := @behind position [c] rest cut
        rw [later] at spelled
        exact ⟨[c], rest, cut, ⟨c, rfl, holds⟩, spelled⟩
      · rintro ⟨_, rest, cut, ⟨c, rfl, holds⟩, spelled⟩
        have later : text.drop (position + 1) = rest := behind cut
        refine ⟨⟨c, rest, cut, holds⟩, ?_⟩
        rwa [later]
    | .run .greedy least most t, _ =>
      refine (others.run (t := t) (asks_firstLiteral steps) least most).congr fun position _ => ?_
      simp only [spelledBy_cons, forall_testHolds_iff]
      constructor
      · rintro ⟨_, enough, allowed, ⟨piece, rest, cut, rfl, all⟩, spelled⟩
        rw [behind cut] at spelled
        exact ⟨piece, rest, cut, ⟨enough, allowed, all⟩, spelled⟩
      · rintro ⟨piece, rest, cut, ⟨enough, allowed, all⟩, spelled⟩
        refine ⟨piece.length, enough, allowed, ⟨piece, rest, cut, rfl, all⟩, ?_⟩
        rwa [behind cut]

/-- A program that only takes characters matches the texts that its steps spell and no others. -/
theorem Pattern.find_of_isTaking {pattern : Pattern} (taking : ∀ step ∈ pattern.program, step.isTaking = true)
    (text : Text) :
    (pattern.find text = .matched ↔ SpelledBy Step.Takes pattern.program text) ∧ pattern.find text ≠ .crossed :=
  Pattern.find_of_decides (matchSteps_decides taking)

theorem stepsOf_eq_flatMap (flags : Flags) (items : List Item) :
    stepsOf flags items = items.flatMap (stepsOfItem flags) := by
  induction items with
  | nil => rfl
  | cons item items ih => rw [stepsOf, ih, List.flatMap_cons]

end FixedExtract.Regex
