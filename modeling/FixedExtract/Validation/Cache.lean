import FixedExtract.Regex.Matcher
import FixedExtract.Regex.Parser
import FixedExtract.Rule.Basic
/-!
# Cached patterns

The pattern of a rule is read once and kept under the identifier of the rule; so is the fact that it is
malformed. A pattern that is refused is kept in neither way and is read again the next time.
-/

namespace FixedExtract

/-- A pattern as it is written, and as it was read. -/
structure CachedPattern where
  source : Text
  pattern : Regex.Pattern
  deriving Repr

structure PatternCache where
  compiled : List (Text × CachedPattern)
  malformed : List Text
  deriving Repr

namespace PatternCache

def empty : PatternCache := ⟨[], []⟩

/-- How many patterns are kept. -/
def size (cache : PatternCache) : Nat := cache.compiled.length

def find? (cache : PatternCache) (id : Text) : Option CachedPattern := cache.compiled.lookup id

/-- Is anything kept under the identifier? -/
def knows (cache : PatternCache) (id : Text) : Bool :=
  (cache.find? id).isSome || cache.malformed.elem id

/-- Keeps a pattern in the place of an earlier one of the same identifier, or at the end. -/
def put (id : Text) (cached : CachedPattern) :
    List (Text × CachedPattern) → List (Text × CachedPattern)
  | [] => [(id, cached)]
  | (name, other) :: rest =>
    if name = id then (name, cached) :: rest else (name, other) :: put id cached rest

/-- Reads a pattern and keeps what came of it. -/
def compile (cache : PatternCache) (id source : Text) : Except Regex.Refusal PatternCache :=
  match Regex.Pattern.read source with
  | .ok pattern => .ok { cache with compiled := put id ⟨source, pattern⟩ cache.compiled }
  | .error .malformed =>
    .ok (if cache.malformed.elem id then cache
      else { cache with malformed := cache.malformed ++ [id] })
  | .error (.refused refusal) => .error refusal

/-- Reads the patterns of all rules that match values against one, until one is refused. -/
def prepare (cache : PatternCache) : List Rule → Option Regex.Refusal × PatternCache
  | [] => (none, cache)
  | rule :: rest =>
    match rule.pattern?.filter fun _ => rule.kind.hasPattern with
    | none => prepare cache rest
    | some source =>
      match cache.compile rule.id source with
      | .ok more => prepare more rest
      | .error refusal => (some refusal, cache)

/-- The pattern of a rule; none when it has none, or a malformed one. -/
def fetch (cache : PatternCache) (rule : Rule) :
    Except Regex.Refusal (Option CachedPattern) × PatternCache :=
  match rule.pattern? with
  | none => (.ok none, cache)
  | some source =>
    if cache.knows rule.id then (.ok (cache.find? rule.id), cache)
    else
      match cache.compile rule.id source with
      | .ok more => (.ok (more.find? rule.id), more)
      | .error refusal => (.error refusal, cache)

end PatternCache
end FixedExtract
