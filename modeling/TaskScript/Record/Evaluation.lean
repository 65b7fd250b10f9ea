import TaskScript.Record.Builtin

/-!
# Evaluation — programs that work on records

- `Evaluation.value`   : the value of an expression
- `Evaluation.perform` : what a statement does
- `Evaluation.run`     : a whole program

Routines may call each other to a depth, which is counted down together with the depth of
expressions and statements.
-/

namespace TaskScript
namespace Record

/-- A place whose indices and numbers are known. -/
inductive Slot
  | name (name : String)
  | element (table : Nat) (key : Key)
  | field (number : Nat)

namespace Evaluation

/-- How often a loop is repeated at most. -/
def patience : Nat := 100000000

/-! ## Places -/

/-- The key that values stand for. -/
def keyOf (values : List Value) : Evaluation Key := do
  match values with
  | [.number x] =>
    match Value.integer? x with
    | some n =>
      if n.natAbs ≤ 2147483647 then return .number n else return .text (toString n)
    | none => return .text (← textOf (.number x))
  | [v] => return .text (← textOf v)
  | _ =>
    let texts ← values.mapM textOf
    return .text ((← globalText "SUBSEP").intercalate texts)

/-- The number of a field that a value stands for. -/
def fieldNumber (v : Value) : Evaluation Nat := do
  match Format.whole? v.toNumber with
  | some n =>
    if n < 0 then throw (.fault ("negative field index $" ++ toString n))
    else return n.toNat
  | none => return 0

/-- The value of a field. -/
def field (number : Nat) : Evaluation Value := do
  let s ← get
  if number = 0 then return s.record else return (s.fields[number - 1]?).getD .blank

/-- Put a value into a field. -/
def setField (number : Nat) (v : Value) : Evaluation Unit := do
  if number = 0 then setRecord (← textOf v)
  else
    let s ← get
    let missing := Array.replicate (number - s.fields.size) (Value.text "")
    set { s with fields := (s.fields ++ missing).setIfInBounds (number - 1) v }
    joinFields

/-- The value under a name. -/
def named (name : String) : Evaluation Value := do
  if name == "NF" then
    let s ← get
    if (s.locals.lookup name).isNone then return .ofNat s.fields.size
  match ← cell name with
  | .value v => return v
  | .unset _ => return .blank
  | .table _ => throw (.refusal ("illegal reference to array " ++ name))

/-- The value in a place. -/
def readSlot : Slot → Evaluation Value
  | .name name => named name
  | .element table key => lookIn table (·.find key)
  | .field number => field number

/-- Put a value into a place. -/
def writeSlot (slot : Slot) (v : Value) : Evaluation Unit :=
  match slot with
  | .name name => setName name v
  | .element table key => changeTable table (·.insert key v)
  | .field number => setField number v

/-! ## Calculations -/

/-- The remainder of a division toward zero. -/
def remainder (x y : Float) : Float :=
  match Binary.ofFloat x, Binary.ofFloat y with
  | .finite negative m e, .finite _ n f =>
    if n = 0 then 0 / 0
    else
      let low := min e f
      let a := m * Nat.pow 2 (e - low).toNat
      let b := n * Nat.pow 2 (f - low).toNat
      (Binary.ofRatio .double negative ((Binary.ratio (a % b) low).1)
        ((Binary.ratio (a % b) low).2)).toFloat
  | .finite .., .infinite _ => x
  | _, _ => 0 / 0

/-- What a calculation gives. -/
def calculate (operation : Operation) (x y : Float) : Float :=
  match operation with
  | .add => x + y
  | .subtract => x - y
  | .multiply => x * y
  | .divide => x / y
  | .remainder => remainder x y
  | .power => Float.pow x y

/-- Whether two values compare in a way. -/
def isRelated (relation : Relation) (order : Ordering) : Bool :=
  match relation with
  | .less => order == .lt
  | .lessOrSame => order != .gt
  | .same => order == .eq
  | .different => order != .eq
  | .greater => order == .gt
  | .greaterOrSame => order != .lt

/-- Find an expression in a text: where it starts, from 1 on, and its length. -/
def find (regular : Regular) (text : String) : Evaluation Value := do
  match regular.search? (Pattern.subject text.toList) 0 with
  | some found =>
    setGlobal "RSTART" (.ofNat (found.start + 1))
    setGlobal "RLENGTH" (.ofNat (found.stop - found.start))
    return .ofNat (found.start + 1)
  | none =>
    setGlobal "RSTART" (.ofNat 0)
    setGlobal "RLENGTH" (.number (-1))
    return .ofNat 0

/-- Split a text into a table, and give the number of parts. -/
def splitInto (text : String) (table : Nat) (separator : Separator) : Evaluation Value := do
  let parts := separator.split text.toList
  changeTable table fun _ => Table.ofList (parts.map fun part => .input (String.ofList part))
  return .ofNat parts.length

/-- Note the next record of what is read, and give whether there was one. -/
def noteRecord (found? : Option (Option String)) (counts : Bool) (slot? : Option Slot) :
    Evaluation Value := do
  match found? with
  | none => return .number (-1)
  | some none => return .ofNat 0
  | some (some text) =>
    if counts then countUp "NR"
    match slot? with
    | some slot => writeSlot slot (.input text)
    | none => setRecord text
    return .ofNat 1

/-- Catch the end of a repetition: whether it goes on. -/
def repeated (body : Evaluation Unit) : Evaluation Bool := ofRun fun s =>
  match body.run.run s with
  | (.ok _, s) => (.ok true, s)
  | (.error .leave, s) => (.ok false, s)
  | (.error .again, s) => (.ok true, s)
  | (.error other, s) => (.error other, s)

/-- Catch what a routine gives back. -/
def returned (body : Evaluation Unit) : Evaluation Value := ofRun fun s =>
  match body.run.run s with
  | (.ok _, s) => (.ok .blank, s)
  | (.error (.giveBack v), s) => (.ok v, s)
  | (.error other, s) => (.error other, s)

/-! ## Expressions -/

mutual

/-- The value of an expression. -/
def value : Nat → Expr → Evaluation Value
  | 0, _ => throw (.fault "function call nesting too deep")
  | depth + 1, e => do
    match e with
    | .number x => return .number x
    | .text s => return .text s
    | .pattern _ regular =>
      let text ← textOf (← get).record
      return .ofBool (regular.search? (Pattern.subject text.toList) 0).isSome
    | .place place => readSlot (← slot depth place)
    | .assign place none e =>
      let slot ← slot depth place
      let v ← value depth e
      writeSlot slot v
      return v
    | .assign place (some operation) e =>
      let slot ← slot depth place
      let more ← value depth e
      let before ← readSlot slot
      let v := .number (calculate operation before.toNumber more.toNumber)
      writeSlot slot v
      return v
    | .count place isUp isBefore =>
      let slot ← slot depth place
      let before := (← readSlot slot).toNumber
      let after := if isUp then before + 1 else before - 1
      writeSlot slot (.number after)
      return .number (if isBefore then after else before)
    | .negated e => return .number (-(← value depth e).toNumber)
    | .plain e => return .number (← value depth e).toNumber
    | .opposite e => return .ofBool !(← value depth e).isTrue
    | .calculated operation a b =>
      let x ← value depth a
      let y ← value depth b
      return .number (calculate operation x.toNumber y.toNumber)
    | .compared relation a b =>
      let x ← value depth a
      let y ← value depth b
      return .ofBool (isRelated relation (x.compare (← convertFormat) y))
    | .joined a b =>
      let first ← textOf (← value depth a)
      let second ← textOf (← value depth b)
      return .text (first ++ second)
    | .both a b =>
      if (← value depth a).isTrue then return .ofBool (← value depth b).isTrue
      else return .ofBool false
    | .either a b =>
      if (← value depth a).isTrue then return .ofBool true
      else return .ofBool (← value depth b).isTrue
    | .choice test a b =>
      if (← value depth test).isTrue then value depth a else value depth b
    | .fits text pattern =>
      let text ← textOf (← value depth text)
      let regular ← regularOf depth pattern
      return .ofBool (regular.search? (Pattern.subject text.toList) 0).isSome
    | .within index table =>
      let key ← keyOf (← values depth index)
      return .ofBool (← lookIn (← tableOf table) (·.has key))
    | .call name args => call depth name args
    | .builtin name args => builtin depth name args
    | .read source place? => read depth source place?

/-- The values of some expressions. -/
def values : Nat → List Expr → Evaluation (List Value)
  | 0, _ => throw (.fault "function call nesting too deep")
  | _ + 1, [] => return []
  | depth + 1, e :: rest => do
    let first ← value depth e
    return first :: (← values depth rest)

/-- The regular expression that an expression gives. -/
def regularOf : Nat → Expr → Evaluation Regular
  | 0, _ => throw (.fault "function call nesting too deep")
  | depth + 1, e => do
    match e with
    | .pattern _ regular => return regular
    | _ => regular (← textOf (← value depth e))

/-- A place with its indices and numbers. -/
def slot : Nat → Place → Evaluation Slot
  | 0, _ => throw (.fault "function call nesting too deep")
  | depth + 1, place => do
    match place with
    | .variable name => return .name name
    | .element table index =>
      let key ← keyOf (← values depth index)
      return .element (← tableOf table) key
    | .field e => return .field (← fieldNumber (← value depth e))

/-- What an argument hands on: a name that stands for nothing yet may become a table. -/
def argument : Nat → Expr → Evaluation Cell
  | 0, _ => throw (.fault "function call nesting too deep")
  | depth + 1, e => do
    match e with
    | .place (.variable name) =>
      if name == "NF" then return .value (← named name)
      match ← cell name with
      | .table number => return .table number
      | .unset (some number) => return .unset (some number)
      | .unset none =>
        let number ← newTable
        setCell name (.unset (some number))
        return .unset (some number)
      | .value v => return .value v
    | _ => return .value (← value depth e)

/-- What some arguments hand on. -/
def cells : Nat → List Expr → Evaluation (List Cell)
  | 0, _ => throw (.fault "function call nesting too deep")
  | _ + 1, [] => return []
  | depth + 1, e :: rest => do
    let first ← argument depth e
    return first :: (← cells depth rest)

/-- What a routine of the program gives back. -/
def call : Nat → String → List Expr → Evaluation Value
  | 0, _, _ => throw (.fault "function call nesting too deep")
  | depth + 1, name, args => do
    let cells ← cells depth args
    match (← get).routines.get? name with
    | none => return .blank
    | some routine =>
      let before := (← get).locals
      let missing := List.replicate (routine.params.length - cells.length) (Cell.unset none)
      modify fun s => { s with locals := routine.params.zip (cells ++ missing) }
      let v ← returned (perform depth routine.body)
      modify fun s => { s with locals := before }
      return v

/-- What a routine gives that every program has. -/
def builtin : Nat → String → List Expr → Evaluation Value
  | 0, _, _ => throw (.fault "function call nesting too deep")
  | depth + 1, name, args => do
    match name, args with
    | "length", [.place (.variable table)] =>
      match ← cell table with
      | .table number => return .ofNat (((← get).tables[number]?).getD .empty).size
      | _ => Builtin.ofValues name [← named table]
    | "split", text :: .place (.variable table) :: others =>
      let text ← textOf (← value depth text)
      let separator ← match others with
        | [] => fieldSeparator
        | .pattern _ regular :: _ => pure (.pattern regular)
        | other :: _ => separator (← textOf (← value depth other))
      splitInto text (← tableOf table) separator
    | "match", [text, pattern] =>
      let text ← textOf (← value depth text)
      find (← regularOf depth pattern) text
    | "sub", pattern :: new :: target => replace depth false pattern new target.head?
    | "gsub", pattern :: new :: target => replace depth true pattern new target.head?
    | _, _ => Builtin.ofValues name (← values depth args)

/-- Replace matches in a place, which is the record unless another one is given. -/
def replace : Nat → Bool → Expr → Expr → Option Expr → Evaluation Value
  | 0, _, _, _, _ => throw (.fault "function call nesting too deep")
  | depth + 1, isGlobal, pattern, new, target? => do
    let regular ← regularOf depth pattern
    let new ← textOf (← value depth new)
    match target?.getD (.place (.field (.number 0))) with
    | .place place =>
      let slot ← slot depth place
      let text ← textOf (← readSlot slot)
      let (found, count) := Builtin.substituted regular new.toList text.toList isGlobal
      if count != 0 then writeSlot slot (.text (String.ofList found))
      return .ofNat count
    | other =>
      let text ← textOf (← value depth other)
      return .ofNat (Builtin.substituted regular new.toList text.toList isGlobal).2

/-- Read the next record from somewhere, and give whether there was one. -/
def read : Nat → Source → Option Place → Evaluation Value
  | 0, _, _ => throw (.fault "function call nesting too deep")
  | depth + 1, source, place? => do
    match source with
    | .inputs =>
      match place? with
      | none => return .ofBool (← readRecord)
      | some place =>
        let slot ← slot depth place
        match ← nextRecord (← inputsLeft) with
        | none => return .ofNat 0
        | some record =>
          countUp "NR"
          countUp "FNR"
          writeSlot slot (.input (String.ofList record))
          return .ofNat 1
    | .file e =>
      let slot? ← slots depth place?
      let name ← textOf (← value depth e)
      noteRecord (← readFrom false name) false slot?
    | .command e =>
      let name ← textOf (← value depth e)
      let slot? ← slots depth place?
      noteRecord (← readFrom true name) true slot?

/-- A place that may be given with its indices and numbers. -/
def slots : Nat → Option Place → Evaluation (Option Slot)
  | 0, _ => throw (.fault "function call nesting too deep")
  | _ + 1, none => return none
  | depth + 1, some place => return some (← slot depth place)

/-- What a statement does. -/
def perform : Nat → Statement → Evaluation Unit
  | 0, _ => throw (.fault "function call nesting too deep")
  | depth + 1, statement => do
    match statement with
    | .nothing => pure ()
    | .expression e => discard (value depth e)
    | .print isFormatted args goal? => print depth isFormatted args goal?
    | .block statements => performAll depth statements
    | .choice test first second? =>
      if (← value depth test).isTrue then perform depth first
      else
        match second? with
        | some second => perform depth second
        | none => pure ()
    | .loop test? isFirst step? body =>
      let goesOn : Evaluation Bool := do
        match test? with
        | some test => return (← value depth test).isTrue
        | none => return true
      let turn : Evaluation Bool := do
        if ← repeated (perform depth body) then
          match step? with
          | some step => discard (value depth step)
          | none => pure ()
          return true
        else return false
      if isFirst then
        ofRun (iterate (do if ← turn then goesOn else return false) patience)
      else ofRun (iterate (do if ← goesOn then turn else return false) patience)
    | .each name table body =>
      let keys ← lookIn (← tableOf table) Table.keys
      ofRun (forAll (fun key => do
        setName name (.text key)
        repeated (perform depth body)) keys)
    | .leave => throw .leave
    | .again => throw .again
    | .next => throw .next
    | .nextFile => throw .nextFile
    | .quit status? =>
      match status? with
      | some e =>
        let v ← value depth e
        modify fun s => { s with status := (((Format.whole? v.toNumber).getD 0) % 256).toNat }
      | none => pure ()
      throw .quit
    | .giveBack value? =>
      match value? with
      | some e => throw (.giveBack (← value depth e))
      | none => throw (.giveBack .blank)
    | .erase table index? =>
      let number ← tableOf table
      match index? with
      | some index =>
        let key ← keyOf (← values depth index)
        changeTable number (·.erase key)
      | none => changeTable number fun _ => .empty

/-- What some statements do, one after the other. -/
def performAll : Nat → List Statement → Evaluation Unit
  | 0, _ => throw (.fault "function call nesting too deep")
  | _ + 1, [] => return ()
  | depth + 1, first :: rest => do
    perform depth first
    performAll depth rest

/-- Print values. -/
def print : Nat → Bool → List Expr → Option (Direction × Expr) → Evaluation Unit
  | 0, _, _, _ => throw (.fault "function call nesting too deep")
  | depth + 1, isFormatted, args, goal? => do
    let values ← values depth args
    let (text, fault?) ←
      if isFormatted then
        let format ← textOf (values.headD .blank)
        let (text, fault?) := Format.print (← convertFormat) format values.tail
        pure (text, fault?.map (·.message "printf" format))
      else
        let outputFormat ← globalText "OFMT"
        let record ← textOf (← get).record
        let texts := if args.isEmpty then [record] else values.map (·.toText outputFormat)
        pure ((← globalText "OFS").intercalate texts ++ (← globalText "ORS"), none)
    match goal? with
    | none => modify fun s => { s with waiting := text :: s.waiting }
    | some (direction, e) => write direction (← textOf (← value depth e)) text
    match fault? with
    | some message => throw (.fault message)
    | none => pure ()

end

/-! ## Programs -/

/-- How deep expressions, statements and routines can be nested. -/
def depths : Nat := 60000

/-- Whether a rule is meant for the record; the range of a rule has a number. -/
def isMeant (number : Nat) : Occasion → Evaluation Bool
  | .start | .finish => return false
  | .always => return true
  | .records test => return (← value depths test).isTrue
  | .range first last => do
    let isWithin := ((← get).ranges[number]?).getD false
    if isWithin || (← value depths first).isTrue then
      let ends := (← value depths last).isTrue
      modify fun s => { s with ranges := s.ranges.setIfInBounds number !ends }
      return true
    else return false

/-- Carry out the rules that are meant for the record. -/
def performRules (rules : List (Rule × Nat)) : Evaluation Unit :=
  rules.forM fun (rule, number) => do
    if ← isMeant number rule.occasion then perform depths rule.body

/-- Carry out the rules for a record; those that are left may be passed over. -/
def turn (rules : List (Rule × Nat)) : Evaluation Bool := do
  if ← readRecord then
    ofRun fun s =>
      match (performRules rules).run.run s with
      | (.ok _, s) | (.error .next, s) => (.ok true, s)
      | (.error .nextFile, s) => (.ok true, { s with rest? := none })
      | (.error other, s) => (.error other, s)
  else return false

/-- Carry out the rules of an occasion. -/
def performOn (rules : List Rule) (isChosen : Occasion → Bool) : Evaluation Unit :=
  rules.forM fun rule => if isChosen rule.occasion then perform depths rule.body else pure ()

/-- Whether rules are carried out at the start. -/
def isStart : Occasion → Bool
  | .start => true
  | _ => false

/-- Whether rules are carried out at the end. -/
def isFinish : Occasion → Bool
  | .finish => true
  | _ => false

/-- Carry out a program, but for what comes at its end. -/
def runRecords (p : Program) : Evaluation Unit := do
  performOn p.rules isStart
  let main := p.rules.zipIdx.filter fun (rule, _) =>
    !isStart rule.occasion && !isFinish rule.occasion
  if !main.isEmpty || p.rules.any fun rule => isFinish rule.occasion then
    ofRun (iterate (turn main) patience)

/-- Carry out a program. -/
def run (p : Program) : Evaluation Unit := do
  let body := runRecords p
  ofRun fun s =>
    match ExceptT.run body s with
    | (.error .quit, s) => (.ok (), s)
    | other => other
  performOn p.rules isFinish

end Evaluation
end Record
end TaskScript
