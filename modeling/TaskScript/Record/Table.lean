import Std.Data.HashMap
import TaskScript.Record.Value

/-!
# Table — values under texts and numbers

- `Record.Key`      : a whole number or a text
- `Record.Table`    : values under keys
- `Table.find`      : the value under a key
- `Table.erase`     : a table without a key
- `Table.keys`      : all keys, in the order in which they are visited

The order is that of buckets.  A key goes to the bucket of its hash number, in front of those that
are already there, and to the front again whenever it is found by its text.  As long as keys have
only been found by numbers their buckets are those of the numbers.
-/

namespace TaskScript
namespace Record

/-- A whole number or a text that stands for a value. -/
inductive Key
  | number (n : Int)
  | text (text : String)
  deriving DecidableEq, Repr

/-- Values under keys. -/
structure Table where
  values : Std.HashMap String Value
  /-- How many buckets there are. -/
  width : Nat
  /-- Keys by their hash numbers, if keys have been found by texts. -/
  texts? : Option (Array (List String))
  /-- Keys by the numbers by which they have been found. -/
  numbers : Array (List Int)
  /-- Whether the keys are the numbers from 1 on and have not been looked for otherwise. -/
  isSequence : Bool

instance : Inhabited Table := ⟨⟨{}, 64, none, Array.replicate 64 [], false⟩⟩

namespace Table

/-- Nothing is there. -/
def empty : Table := default

/-- How many keys there are. -/
def size (t : Table) : Nat := t.values.size

/-- The hash number of a text. -/
def hashOf (text : String) : Nat :=
  (text.foldl (fun h c => (h ^^^ c.toNat.toUInt32) * 16777619) (2166136261 : UInt32)).toNat

/-- The bucket of a number. -/
def numberBucket (width : Nat) (n : Int) : Nat := (n % (width : Int)).toNat

/-- The bucket of a text. -/
def textBucket (width : Nat) (text : String) : Nat := hashOf text % width

/-- How many keys there can be for each bucket. -/
def crowd : Nat := 12

/-- Buckets, some of whose keys go to new ones. -/
def spread {α : Type} (bucket : α → Nat) (buckets : Array (List α)) : Array (List α) :=
  buckets.mapIdx (fun i keys => keys.filter fun key => bucket key == i) ++
    buckets.mapIdx fun i keys => keys.filter fun key => bucket key != i

/-- The same with twice as many buckets if there are too many keys. -/
def grown (t : Table) : Table :=
  if t.size ≤ t.width * crowd then t
  else
    let width := 2 * t.width
    { t with
      width
      texts? := t.texts?.map (spread (textBucket width))
      numbers := spread (numberBucket width) t.numbers }

/-- Keys with one of them at the front. -/
def toFront {α : Type} [BEq α] (key : α) (keys : List α) : List α := key :: keys.erase key

/-- The same with all keys in the buckets of their hash numbers. -/
def withTexts (t : Table) : Table :=
  match t.texts? with
  | some _ => t
  | none =>
    let texts := t.numbers.foldl (fun texts keys => keys.foldl (fun texts (key : Int) =>
      let text := toString key
      texts.modify (textBucket t.width text) (text :: ·)) texts) (Array.replicate t.width [])
    { t with texts? := some texts, isSequence := false }

/-- The same after a key has been found by its text, or added. -/
def foundByText (t : Table) (key : String) : Table :=
  let t := t.withTexts
  { t with texts? := t.texts?.map fun texts => texts.modify (textBucket t.width key) (toFront key) }

/-- The same after a key has been found by its number, or added. -/
def foundByNumber (t : Table) (key : Int) : Table :=
  let bucket := numberBucket t.width key
  let isThere := ((t.numbers[bucket]?).getD []).contains key
  let t := if isThere || t.texts?.isNone then t else t.foundByText (toString key)
  { t with numbers := t.numbers.modify bucket (toFront key) }

/-- The text of a key. -/
def textOf : Key → String
  | .number n => toString n
  | .text text => text

/-- Whether a key is one of a sequence. -/
def isInSequence (t : Table) : Key → Bool
  | .number n => t.isSequence && 0 < n && n ≤ (t.size : Int)
  | .text _ => false

/-- The same after a key has been found. -/
def found (t : Table) (key : Key) : Table :=
  if t.isInSequence key then t
  else
    match key with
    | .number n => { t with isSequence := false }.foundByNumber n
    | .text text => t.foundByText text

/-- The value under a key, which is added unless it is there. -/
def find (t : Table) (key : Key) : Value × Table :=
  let text := textOf key
  match t.values[text]? with
  | some value => (value, t.found key)
  | none => (.blank, { t with values := t.values.insert text .blank }.grown.found key)

/-- Whether a key is there. -/
def has (t : Table) (key : Key) : Bool × Table :=
  if t.size = 0 then (false, t)
  else if t.values.contains (textOf key) then (true, t.found key)
  else
    match key with
    | .number _ => (false, t)
    | .text _ => (false, t.withTexts)

/-- Put a value under a key. -/
def insert (t : Table) (key : Key) (value : Value) : Table :=
  let (_, t) := t.find key
  { t with values := t.values.insert (textOf key) value }

/-- The same without a key. -/
def erase (t : Table) (key : Key) : Table :=
  let text := textOf key
  if !t.values.contains text then t
  else
    let t := t.found key
    let values := t.values.erase text
    if values.isEmpty then empty
    else
      let numbers := match Numeral.whole? (some 10) text with
        | some n =>
          if toString n == text then t.numbers.modify (numberBucket t.width n) (·.erase n)
          else t.numbers
        | none => t.numbers
      { t with
        values, numbers, isSequence := false
        texts? := t.texts?.map fun texts => texts.modify (textBucket t.width text) (·.erase text) }

/-- Values under the numbers from 1 on. -/
def ofList (values : List Value) : Table :=
  let t := values.foldl (fun ((t, n) : Table × Nat) value =>
    (t.insert (.number n) value, n + 1)) (empty, 1)
  { t.1 with isSequence := true }

/-- All keys, in the order in which they are visited. -/
def keys (t : Table) : List String × Table :=
  let t := t.withTexts
  (((t.texts?).getD #[]).toList.flatten, t)

end Table
end Record
end TaskScript
