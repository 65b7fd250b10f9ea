/-!
# Tree — records, lists, texts and numbers

- `Tree`         : the values that are written as documents
- `Tree.Legible` : those in which keys are words and numbers fit into a machine word
-/

namespace TaskScript
namespace Yaml

/-- A value to be written. -/
inductive Tree
  | text (content : String)
  | number (value : Nat)
  | list (items : List Tree)
  | record (fields : List (String × Tree))

/-- Trees whose keys are words and whose numbers fit into a machine word. -/
inductive Tree.Legible : Tree → Prop
  | text (content : String) : Legible (.text content)
  | number {value : Nat} (fits : value < UInt64.size) : Legible (.number value)
  | list {items : List Tree} (legible : ∀ item ∈ items, Legible item) : Legible (.list items)
  | record {fields : List (String × Tree)}
      (words : ∀ field ∈ fields, field.1.toList.all Char.isAlpha = true)
      (legible : ∀ field ∈ fields, Legible field.2) : Legible (.record fields)

end Yaml
end TaskScript
