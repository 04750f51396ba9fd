import FixedExtract.Regex.Token
/-!
# Reading a pattern

Alternatives are sequences of items, and groups hold alternatives. What is known on the way is kept in a
context: the flags of the whole pattern, the groups opened so far with the widths of the closed ones, and
where the outermost lookbehind began, since nothing may refer into the lookbehind it stands in.

The fuel bounds the depth of the recursion, and three times the number of tokens is always enough: an opening
parenthesis takes three steps and a bar two, every other token one.
-/

namespace FixedExtract.Regex

/-- What is known of the pattern so far. -/
structure Context where
  flags : Flags
  opened : Nat
  widths : List (Nat × Width)
  names : List (Text × Nat)
  behind : Option Nat
  conditions : List Nat
  looksFixed : Bool
  farthest : Nat
  deriving DecidableEq, Repr

namespace Context

def start : Context := ⟨.none, 0, [], [], none, [], true, 0⟩

def groupWidth (c : Context) (index : Nat) : Width := (c.widths.lookup index).getD .zero

def isClosed (c : Context) (index : Nat) : Bool := (c.widths.lookup index).isSome

/-- May a group be referred to from the lookbehind around, if there is one? -/
def allows (c : Context) (index : Nat) : Bool :=
  match c.behind with
  | some groups => c.isClosed index && index < groups
  | none => true

/-- The item that refers to a group. -/
def reference (c : Context) (index : Nat) : Except Fault Item :=
  if c.isClosed index && c.allows index then .ok (.backReference index) else .error .malformed

/-- Opens a group. -/
def openGroup (c : Context) (name : Option Text) : Except Fault Context :=
  let index := c.opened + 1
  match name with
  | none => .ok { c with opened := index }
  | some name =>
    if (c.names.lookup name).isSome then .error .malformed
    else .ok { c with opened := index, names := (name, index) :: c.names }

/-- Closes a group. -/
def close (c : Context) (index : Nat) (body : List Item) : Context :=
  { c with widths := (index, width c.groupWidth body) :: c.widths }

/-- The group that a condition asks for. A group asked for by number may still follow. -/
def condition (c : Context) (name : Text) : Except Fault (Nat × Context) :=
  if Text.isIdentifier name then
    match c.names.lookup name with
    | some index => if c.allows index then .ok (index, c) else .error .malformed
    | none => .error .malformed
  else
    match Text.readInteger 10 name with
    | .ok (.ofNat (index + 1)) =>
      if c.allows (index + 1) then
        .ok (index + 1, { c with conditions := (index + 1) :: c.conditions })
      else .error .malformed
    | _ => .error .malformed

/-- The item for a look around. A look behind must know how far to go back. -/
def look (c : Context) (ahead negated : Bool) (body : List Item) : Item × Context :=
  let reach := width c.groupWidth body
  (.look ahead negated (if ahead then 0 else reach.least) body,
    if ahead then c
    else { c with
      looksFixed := c.looksFixed && reach.least = reach.most
      farthest := max c.farthest reach.least })

end Context

/-- Where a sequence stands: first of all, at the top behind a bar, or in a group. -/
inductive Place where
  | start
  | top
  | inside
  deriving DecidableEq, Repr

/-- The place behind a bar. -/
def Place.later : Place → Place
  | .start => .top
  | place => place

/-! ## Simplification -/

/-- Is the item in front the same in all alternatives? Items that hold others are never taken for the same. -/
def isSharedItem (item : Item) (alternatives : List (List Item)) : Bool :=
  alternatives.all fun alternative => (alternative.head?.map item.sameAs).getD false

/-- The items in front of the first alternative that stand in front of all others too, and what is left of the
alternatives behind them. -/
def factorOut : (first : List Item) → (others : List (List Item)) → List Item × List (List Item)
  | [], others => ([], [] :: others)
  | item :: first, others =>
    if isSharedItem item others then
      let (shared, rest) := factorOut first (others.map List.tail)
      (item :: shared, rest)
    else ([], (item :: first) :: others)

/-- What a set that replaces an alternative lists, if there can be one. -/
def asSetItems? : List Item → Option (List SetItem)
  | [.literal code] => some [.literal code]
  | [.set false items] => some items
  | _ => none

/-- The items that alternatives amount to: what they share comes first, and alternatives of one character become
a set. -/
def ofAlternatives : List (List Item) → List Item
  | [] => []
  | [items] => items
  | first :: others =>
    let (shared, alternatives) := factorOut first others
    match alternatives.mapM asSetItems? with
    | some items => shared ++ [.set false (distinctItems items.flatten)]
    | none => shared ++ [.branch alternatives]

/-- The items of a sequence, with those of groups that only hold items together in the place of the groups. -/
def unwrapGroups (items : List Item) : List Item :=
  items.flatMap fun item =>
    match item with
    | .group none on off body => if on = .none && off = .none then body else [item]
    | item => [item]

/-! ## Reading -/

/-- Anchors and repetitions cannot be repeated. -/
def isRepeatable : Item → Bool
  | .anchor _ => false
  | .repeated .. => false
  | _ => true

/-- The white space that a verbose pattern ignores. -/
def isLayoutSpace (c : Char) : Bool := c = ' ' || (Nat.ble 9 c.toNat && Nat.ble c.toNat 13)

/-- A character that stands for itself or for any. -/
def plainItem (c : Char) : Item :=
  if c = '.' then .any
  else if c = '^' then .anchor .lineStart
  else if c = '$' then .anchor .lineEnd
  else .literal c.toNat

mutual

/-- Reads alternatives up to a closing parenthesis or the end. -/
def readAlternatives : (fuel : Nat) → Place → (verbose : Bool) → Context → List Token →
    Except Fault (List (List Item) × Context × List Token)
  | 0, _, _, _, _ => .error .malformed
  | fuel + 1, place, verbose, c, ts => do
    let (items, c, ts) ← readSequence fuel place verbose [] c ts
    match ts with
    | .plain '|' :: rest =>
      let verbose := if place = .inside then verbose else c.flags.verbose
      let (more, c, rest) ← readAlternatives fuel place.later verbose c rest
      .ok (items :: more, c, rest)
    | rest => .ok ([items], c, rest)

/-- Reads a sequence up to a bar, a closing parenthesis or the end; `done` holds the items read so far, the
last one first. -/
def readSequence : (fuel : Nat) → Place → (verbose : Bool) → (done : List Item) → Context →
    List Token → Except Fault (List Item × Context × List Token)
  | 0, _, _, _, _, _ => .error .malformed
  | fuel + 1, place, verbose, done, c, ts =>
    match ts with
    | [] => .ok (unwrapGroups done.reverse, c, [])
    | .broken :: _ => .error .malformed
    | .escaped ch :: rest => do
      match ← readEscape ch rest with
      | (.item item, rest) => readSequence fuel place verbose (item :: done) c rest
      | (.reference index, rest) =>
        let item ← c.reference index
        readSequence fuel place verbose (item :: done) c rest
    | .plain ch :: rest =>
      if ch = '|' ∨ ch = ')' then .ok (unwrapGroups done.reverse, c, .plain ch :: rest)
      else if verbose && isLayoutSpace ch then readSequence fuel place verbose done c rest
      else if verbose && ch = '#' then readSequence fuel place verbose done c (skipLine rest)
      else if ch = '[' then do
        let (item, rest) ← readSet rest
        readSequence fuel place verbose (item :: done) c rest
      else if ch = '(' then do
        let (opening, rest) ← readOpening rest
        match opening with
        | .remark => readSequence fuel place verbose done c rest
        | .flags on =>
          if place = .start && done.isEmpty then
            let flags := c.flags.union on
            readSequence fuel place flags.verbose done { c with flags := flags } rest
          else .error .malformed
        | opening => do
          let (item, c, rest) ← readGroup fuel verbose opening c rest
          readSequence fuel place verbose (item :: done) c rest
      else do
        match ← readRepetition ch rest, done with
        | none, done => readSequence fuel place verbose (plainItem ch :: done) c rest
        | some _, [] => .error .malformed
        | some ((least, most), rest), item :: before =>
          if isRepeatable item then
            let (mode, rest) := readMode rest
            readSequence fuel place verbose (.repeated mode least most (unwrapGroups [item]) :: before) c rest
          else .error .malformed

/-- Reads what an opening parenthesis has opened, with its closing parenthesis. -/
def readGroup : (fuel : Nat) → (verbose : Bool) → Opening → Context → List Token →
    Except Fault (Item × Context × List Token)
  | 0, _, _, _, _ => .error .malformed
  | fuel + 1, verbose, opening, c, ts =>
    match opening with
    | .capture name => do
      let c ← c.openGroup name
      let index := c.opened
      let (alternatives, c, rest) ← readAlternatives fuel .inside verbose c ts
      let rest ← closeGroup rest
      let body := ofAlternatives alternatives
      .ok (.group (some index) .none .none body, c.close index body, rest)
    | .plain on off => do
      let verbose := (verbose || on.verbose) && !off.verbose
      let (alternatives, c, rest) ← readAlternatives fuel .inside verbose c ts
      let rest ← closeGroup rest
      .ok (.group none on off (ofAlternatives alternatives), c, rest)
    | .atomic => do
      let (alternatives, c, rest) ← readAlternatives fuel .inside verbose c ts
      let rest ← closeGroup rest
      .ok (.atomic (ofAlternatives alternatives), c, rest)
    | .look ahead negated => do
      let around := c.behind
      let behind := if ahead then around else around.or (some (c.opened + 1))
      let (alternatives, c, rest) ←
        readAlternatives fuel .inside verbose { c with behind := behind } ts
      let rest ← closeGroup rest
      let (item, c) := c.look ahead negated (ofAlternatives alternatives)
      .ok (item, { c with behind := around }, rest)
    | .condition name => do
      let (index, c) ← c.condition name
      let (yes, c, rest) ← readSequence fuel .inside verbose [] c ts
      match rest with
      | .plain '|' :: rest => do
        let (no, c, rest) ← readSequence fuel .inside verbose [] c rest
        let rest ← closeGroup rest
        .ok (.conditional index yes no, c, rest)
      | rest => do
        let rest ← closeGroup rest
        .ok (.conditional index yes [], c, rest)
    | .reference name =>
      match c.names.lookup name with
      | some index => do
        let item ← c.reference index
        .ok (item, c, ts)
      | none => .error .malformed
    | .flags _ => .error .malformed
    | .remark => .error .malformed

end

/-- Reads a pattern. Patterns know all characters unless a flag says otherwise. -/
def Pattern.read (text : Text) : Except Fault Pattern := do
  let ts := tokensOf text
  let (alternatives, c, rest) ← readAlternatives (3 * ts.length + 4) .start false .start ts
  let items := ofAlternatives alternatives
  if c.flags.ascii && c.flags.unicode then .error (.refused .incompatibleFlags)
  else if !rest.isEmpty || !c.looksFixed || c.conditions.any (· > c.opened) ||
      (c.flags.template && repeats items) then .error .malformed
  else if c.farthest ≥ Nat.pow 2 31 then .error (.refused .farBehind)
  else .ok ⟨{ c.flags with unicode := !c.flags.ascii }, items⟩

end FixedExtract.Regex
