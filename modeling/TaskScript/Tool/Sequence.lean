import TaskScript.Tool.Input

/-!
# Sequence — numbers in a row

`seq` prints the whole numbers from one to another one.
-/

namespace TaskScript

open Shell (Machine)

namespace Tool
namespace Sequence

/-- The whole numbers from one to another one by steps. -/
def row (first step last : Int) : List Int :=
  let gap := if step < 0 then first - last else last - first
  if gap < 0 then []
  else (List.range (gap.toNat / step.natAbs + 1)).map fun (n : Nat) => first + step * n

/-- A number with zeros in front of it. -/
def write (width : Nat) (n : Int) : String :=
  let sign := if n < 0 then "-" else ""
  sign ++ Numeral.padded (width - sign.length) '0' (toString n.natAbs)

end Sequence

/-- Print numbers from one to another one.  Numbers below zero are no options. -/
def seq : Tool := fun args m =>
  let isNumber (arg : String) : Bool := match arg.toList with
    | '-' :: c :: _ => c.isDigit
    | _ => false
  let args := match args.findIdx? isNumber with
    | some place => args.take place ++ "--" :: args.drop place
    | none => args
  byOptionsAt 1 true [.flag 'w' "equal-width", .valued 's' "separator"] (fun o m =>
    let numbers := o.operands.map fun text => (text, Numeral.whole? none text)
    match numbers, numbers.find? fun number => number.2.isNone with
    | [], _ => misuse "missing operand" m
    | _ :: _ :: _ :: extra :: _, _ => misuse ("extra operand " ++ Quoting.plain extra.1) m
    | _, some wrong => misuse ("invalid floating point argument: " ++ Quoting.plain wrong.1) m
    | _, none =>
      let (first, step, last) := match numbers.filterMap Prod.snd with
        | [last] => (1, 1, last)
        | [first, last] => (first, 1, last)
        | first :: step :: last :: _ => (first, step, last)
        | [] => (1, 1, 1)
      if step = 0 then
        misuse ("invalid Zero increment value: " ++ Quoting.plain (o.operands[1]?.getD "")) m
      else
        let width := if o.has "w" then max (toString first).length (toString last).length else 0
        let texts := (Sequence.row first step last).map (Sequence.write width)
        if texts.isEmpty then m
        else m.printLine (((o.value? "s").getD "\n").intercalate texts)) args m

end Tool
end TaskScript
