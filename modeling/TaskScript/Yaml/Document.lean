import TaskScript.Yaml.Scalar
import TaskScript.Yaml.Tree

/-!
# Document — trees as block documents

Lists inside records are not indented further than the record; everything else goes two columns
deeper with each level.

- `Tree.render` : a tree as a document
-/

namespace TaskScript
namespace Yaml
namespace Tree

/-- A written scalar with the line break that follows it, unless it ends in one. -/
def closeLine (written : List Char) : List Char :=
  match written.getLast? with
  | some c => if isBreak c then written else written ++ ['\n']
  | none => ['\n']

mutual

/-- What follows the colon of a field in a record that starts in column `column`. -/
def afterColon (column : Nat) : Tree → List Char
  | text content => ' ' :: closeLine (scalarText (column + 2) content.toList)
  | number value => ' ' :: (toString value).toList ++ ['\n']
  | list [] => " []\n".toList
  | list items => '\n' :: itemLines column items
  | record [] => " \x7b\x7d\n".toList
  | record fields => '\n' :: fieldLines (column + 2) fields

/-- What follows the hyphen of an item in a list that starts in column `column`. -/
def afterHyphen (column : Nat) : Tree → List Char
  | text content => closeLine (scalarText (column + 2) content.toList)
  | number value => (toString value).toList ++ ['\n']
  | list [] => "[]\n".toList
  | list items => (itemLines (column + 2) items).drop (column + 2)
  | record [] => "\x7b\x7d\n".toList
  | record fields => (fieldLines (column + 2) fields).drop (column + 2)

/-- The items of a list that starts in column `column`. -/
def itemLines (column : Nat) : List Tree → List Char
  | [] => []
  | item :: rest => spaces column ++ '-' :: ' ' :: afterHyphen column item ++ itemLines column rest

/-- The fields of a record that starts in column `column`. -/
def fieldLines (column : Nat) : List (String × Tree) → List Char
  | [] => []
  | (key, value) :: rest =>
    spaces column ++ key.toList ++ ':' :: afterColon column value ++ fieldLines column rest

end

/-- A value as a document. -/
def render : Tree → String
  | record (field :: rest) => String.ofList (fieldLines 0 (field :: rest))
  | list (item :: rest) => String.ofList (itemLines 0 (item :: rest))
  | tree => String.ofList ((afterColon 0 tree).drop 1)

end Tree
end Yaml
end TaskScript
