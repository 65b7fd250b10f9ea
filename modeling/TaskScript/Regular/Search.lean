import TaskScript.Regular.Basic

/-!
# Search — where regular expressions match

Of all matches the one that starts first is taken, and of those the longest.  Its parts are as long
as possible from left to right.

- `Regular.Subject` : a text in which matches are looked for
- `Regular.Match`   : a match with its groups
- `Regular.steps`   : the ways in which a match can go on, the preferred ones first
- `Regular.search?` : the first match from a position on

A way is dropped if a preferred one leads to the same position, unless the expression looks back, so
that the number of ways is bounded by the length of the text.
-/

namespace TaskScript
namespace Regular

/-- A text in which matches are looked for. -/
structure Subject where
  text : Array Char
  /-- Whether lines start and end within the text. -/
  hasLines : Bool
  /-- Whether the case of letters matters to texts that are looked for again. -/
  folds : Bool

/-- A match as far as it goes: its end, and where groups start and end, the latest ones first. -/
structure Way where
  position : Nat
  groups : List (Nat × Nat × Nat)
  deriving DecidableEq, Repr

/-- A match with its groups. -/
structure Match where
  start : Nat
  stop : Nat
  groups : List (Nat × Nat × Nat)
  deriving DecidableEq, Repr

namespace Subject

/-- Whether a character of a word stands at a position. -/
def isWord (s : Subject) (position : Nat) : Bool := (s.text[position]?).any Set.word.holds

/-- Whether a character of a word stands before a position. -/
def isAfterWord (s : Subject) (position : Nat) : Bool := position != 0 && s.isWord (position - 1)

/-- Whether a position is a place of a kind. -/
def isAt (s : Subject) (position : Nat) : Place → Bool
  | .start => position == 0
  | .finish => position == s.text.size
  | .lineStart => position == 0 || (s.hasLines && s.text[position - 1]? == some '\n')
  | .lineEnd => position == s.text.size || (s.hasLines && s.text[position]? == some '\n')
  | .wordStart => !s.isAfterWord position && s.isWord position
  | .wordEnd => s.isAfterWord position && !s.isWord position
  | .wordEdge => s.isAfterWord position != s.isWord position
  | .noWordEdge => s.isAfterWord position == s.isWord position

/-- The characters between two positions. -/
def between (s : Subject) (start stop : Nat) : List Char := (s.text.extract start stop).toList

/-- How many characters of a set stand from a position on, at most so many. -/
def run (s : Subject) (set : Set) : Nat → Nat → Nat
  | 0, _ => 0
  | most + 1, position =>
    match s.text[position]? with
    | some c => if set.holds c then s.run set most (position + 1) + 1 else 0
    | none => 0

end Subject

namespace Way

/-- Whether a way is as good as another one for what follows. -/
def isLike (looksBack : Bool) (a b : Way) : Bool :=
  a.position == b.position && (!looksBack || a.groups == b.groups)

end Way

/-- Ways without those that are as good as earlier ones. -/
def distinct (looksBack : Bool) (ways : List Way) : List Way :=
  (ways.foldl (fun kept way =>
    if kept.any (way.isLike looksBack) then kept else way :: kept) []).reverse

/-- The longest ways first. -/
def longestFirst (looksBack : Bool) (ways : List Way) : List Way :=
  match ways with
  | [] | [_] => ways
  | _ => distinct looksBack (ways.mergeSort fun a b => decide (b.position ≤ a.position))

/-- All ways of taking a step again and again from a way on, each time going further. -/
def closure (looksBack : Bool) (step : Way → List Way) : Nat → Way → List Way → List Way
  | 0, _, found => found
  | fuel + 1, way, found =>
    if found.any (way.isLike looksBack) then found
    else
      (step way).foldl (fun found next =>
        if way.position < next.position then closure looksBack step fuel next found else found)
        (way :: found)

/-- All ways of taking a step at most so many times, each time going further. -/
def upTo (looksBack : Bool) (step : Way → List Way) : Nat → Way → List Way
  | 0, way => [way]
  | count + 1, way =>
    let further := (step way).filter fun next => decide (way.position < next.position)
    distinct looksBack (further.flatMap (upTo looksBack step count) ++ [way])

/-- All ways of taking a step so many times. -/
def times (looksBack : Bool) (step : Way → List Way) : Nat → List Way → List Way
  | 0, ways => ways
  | count + 1, ways => times looksBack step count (distinct looksBack (ways.flatMap step))

/-- Positions from the farthest one down, so many and one. -/
def downFrom (way : Way) (farthest count : Nat) : List Way :=
  (List.range (count + 1)).map fun n => { way with position := farthest - n }

/-- The ways in which a match can go on with an expression, the preferred ones first. -/
def steps (s : Subject) (looksBack : Bool) : Regular → Way → List Way
  | empty, way => [way]
  | one set, way =>
    match s.text[way.position]? with
    | some c => if set.holds c then [{ way with position := way.position + 1 }] else []
    | none => []
  | .at place, way => if s.isAt way.position place then [way] else []
  | group number inner, way =>
    (longestFirst looksBack (steps s looksBack inner way)).map fun next =>
      { next with groups := (number, way.position, next.position) :: next.groups }
  | sequence first second, way =>
    match steps s looksBack first way with
    | [] => []
    | [next] => steps s looksBack second next
    | ways => distinct looksBack (ways.flatMap (steps s looksBack second))
  | either first second, way =>
    longestFirst looksBack (steps s looksBack first way ++ steps s looksBack second way)
  | repeated least most (one set), way =>
    let length := s.run set (most.getD s.text.size) way.position
    if length < least then [] else downFrom way (way.position + length) (length - least)
  | repeated least most inner, way =>
    let step := steps s looksBack inner
    let begun := times looksBack step least [way]
    let ways := match most with
      | some most => begun.flatMap (upTo looksBack step (most - least))
      | none => begun.flatMap fun way => (closure looksBack step (s.text.size + 1) way []).reverse
    longestFirst looksBack ways
  | again number, way =>
    match way.groups.lookup number with
    | none => []
    | some (start, stop) =>
      let wanted := s.between start stop
      let there := s.between way.position (way.position + wanted.length)
      let isSame := if s.folds then wanted.map Char.toLower == there.map Char.toLower
        else wanted == there
      if isSame then [{ way with position := way.position + wanted.length }] else []

/-- The match that starts at a position. -/
def matchAt? (r : Regular) (s : Subject) (start : Nat) : Option Match :=
  let ways := steps s r.looksBack r ⟨start, []⟩
  let best? := ways.foldl (fun best? way =>
    match best? with
    | some (best : Way) => if best.position < way.position then some way else some best
    | none => some way) none
  best?.map fun best => ⟨start, best.position, best.groups⟩

/-- The first match that starts at one of so many positions. -/
def searchFrom? (r : Regular) (s : Subject) : Nat → Nat → Option Match
  | 0, _ => none
  | count + 1, start =>
    match r.matchAt? s start with
    | some found => some found
    | none => searchFrom? r s count (start + 1)

/-- The first match from a position on. -/
def search? (r : Regular) (s : Subject) (start : Nat) : Option Match :=
  r.searchFrom? s (s.text.size + 1 - start) start

namespace Match

/-- Where a group starts and ends; the whole match has the number 0. -/
def group? (found : Match) (number : Nat) : Option (Nat × Nat) :=
  if number = 0 then some (found.start, found.stop) else found.groups.lookup number

end Match
end Regular
end TaskScript
