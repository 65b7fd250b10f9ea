import TaskScript.Editor.Script
import TaskScript.Regular.Search

/-!
# Replacement — what a substitution makes of a line

- `Editor.Casings`            : how letters are changed while pieces are put together
- `Editor.Substitution.changed?` : the line after a substitution, if there is something to replace
-/

namespace TaskScript
namespace Editor

/-- How letters are changed: from now on, and the next one only. -/
structure Casings where
  lasting : Casing
  next? : Option Casing
  deriving DecidableEq, Repr

namespace Casings

/-- Letters as they are. -/
def start : Casings := ⟨.plain, none⟩

/-- A character as it is changed. -/
def change (casing : Casing) (c : Char) : Char :=
  match casing with
  | .upper | .nextUpper => c.toUpper
  | .lower | .nextLower => c.toLower
  | .plain => c

/-- Characters as they are changed, and how letters are changed after them. -/
def apply (s : Casings) (chars : List Char) : List Char × Casings :=
  match chars with
  | [] => ([], s)
  | c :: rest =>
    (change (s.next?.getD s.lasting) c :: rest.map (change s.lasting), { s with next? := none })

/-- How letters are changed once this is asked for. -/
def switch (s : Casings) (casing : Casing) : Casings :=
  match casing with
  | .upper | .lower | .plain => { s with lasting := casing }
  | .nextUpper | .nextLower => { s with next? := some casing }

end Casings

/-- What stands in the place of a match. -/
def replacement (subject : Regular.Subject) (found : Regular.Match) (pieces : List Piece) :
    List Char :=
  let all := pieces.foldl (fun (reversed, casings) piece =>
    match piece with
    | .casing c => (reversed, casings.switch c)
    | .text chars =>
      let (changed, casings) := casings.apply chars
      (changed.reverse ++ reversed, casings)
    | .group number =>
      match found.group? number with
      | none => (reversed, casings)
      | some (start, stop) =>
        let (changed, casings) := casings.apply (subject.between start stop)
        (changed.reverse ++ reversed, casings)) (([] : List Char), Casings.start)
  all.1.reverse

namespace Substitution

/-- What becomes of a text from a position on, and whether something is replaced there.  `count`
tells how many matches there have been, and `stop?` where the last one that was not empty ended. -/
def go (s : Substitution) (r : Regular) (subject : Regular.Subject) :
    Nat → Nat → Nat → Option Nat → List Char × Bool
  | 0, position, _, _ => (subject.between position subject.text.size, false)
  | steps + 1, position, count, stop? =>
    let rest := subject.between position subject.text.size
    if subject.text.size < position then ([], false)
    else
      match r.search? subject position with
      | none => (rest, false)
      | some found =>
        let before := subject.between position found.start
        let isEmpty := found.start = found.stop
        let skipped := if isEmpty then subject.between found.stop (found.stop + 1) else []
        let next := if isEmpty then found.stop + 1 else found.stop
        if isEmpty && stop? == some found.start then
          let (more, any) := go s r subject steps next count none
          (before ++ skipped ++ more, any)
        else
          let stop? := if isEmpty then none else some found.stop
          if count + 1 < s.number then
            let (more, any) := go s r subject steps next (count + 1) stop?
            (before ++ subject.between found.start found.stop ++ skipped ++ more, any)
          else
            let changed := replacement subject found s.pieces
            let (more, _) := if s.isGlobal then go s r subject steps next (count + 1) stop?
              else (subject.between next subject.text.size, false)
            (before ++ changed ++ skipped ++ more, true)

/-- The line after a substitution, if there is something to replace. -/
def changed? (s : Substitution) (r : Regular) (line : List Char) : Option (List Char) :=
  let subject : Regular.Subject := ⟨line.toArray, s.pattern.hasLines, s.pattern.folds⟩
  let (changed, any) := s.go r subject (line.length + 2) 0 0 none
  if any then some changed else none

end Substitution
end Editor
end TaskScript
