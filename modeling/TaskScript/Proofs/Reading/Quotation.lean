import TaskScript.Proofs.Reading.Rendering
import TaskScript.Proofs.Reference.Environment
import TaskScript.Proofs.Run.Entry

/-!
# Quotation — references to the environment between quotes

A quoted argument ends at the next quote, and a reference to the environment has quotes of its own.
So a line that puts one between quotes is read as a quoted text with a tail: the two are joined by a
space, which the reference allows, and the quote that was meant to end the argument becomes the last
character of it.

- `Line.command?_of_quotedCall` : the reference ends the quoted text, and its name begins the tail
- `Reading.stray_quote`         : the line is read, and the last quote is left over
-/

namespace TaskScript

/-! ## A reference to the environment between quotes -/

/-- A text without quotes, parentheses, marks of references and line feeds. -/
def IsUnmarked (text : String) : Prop :=
  ∀ c ∈ text.toList, c ∉ ['"', '(', ')', '?', '$', '\n']

instance (text : String) : Decidable (IsUnmarked text) :=
  List.decidableBAll _ _

theorem IsUnmarked.not_mem {text : String} (plain : IsUnmarked text) {c : Char}
    (mark : c ∈ ['"', '(', ')', '?', '$', '\n']) : c ∉ text.toList :=
  fun mem => plain c mem mark

namespace Line

variable {before name after : String}

/-- The line that prints a text with a reference to the environment in it. -/
def quotedCall (before name after : String) : String :=
  "    ech \"" ++ before ++ "$env(\"" ++ name ++ "\")" ++ after ++ "\""

/-- The argument that is read from this line: a space in place of the first quote of the reference,
and the last quote of the line. -/
def tornCall (before name after : String) : String :=
  before ++ "$env( " ++ name ++ "\")" ++ after ++ "\""

theorem toList_tornCall : (tornCall before name after).toList =
    before.toList ++ (Reference.environmentCall ++
      ([' '] ++ (name.toList ++ '"' :: ')' :: (after.toList ++ ['"'])))) := by
  simp [tornCall, Reference.environmentCall]

/-- The reference to the environment ends the quoted text, and what follows is a tail of it. -/
theorem command?_of_quotedCall (isName : IsName name) (plain : IsUnmarked before)
    (plain' : IsUnmarked after) :
    command? (quotedCall before name after).toList =
      some ("ech", [tornCall before name after]) := by
  have noQuote : '"' ∉ (before ++ "$env(").toList := by
    have inBefore : '"' ∉ before.toList := plain.not_mem (by decide)
    simp [inBefore]
  have tail : (name ++ "\")" ++ after ++ "\"").toList =
      name.toList ++ '"' :: ')' :: (after.toList ++ ['"']) := by
    simp
  have stops : ∀ c ∈ (name ++ "\")" ++ after ++ "\"").toList.head?, CharClass.isBlank c = false := by
    rw [tail]
    exact fun c mem => CharClass.isBlank_of_isWord (Reference.isWord_of_mem_head? isName mem)
  -- the quoted text ends before the name, with which the tail begins at once
  have fits : (Remainder.tailed (before ++ "$env(") (name ++ "\")" ++ after ++ "\"")).Fits
      ('"' :: ((before ++ "$env(").toList ++ '"' :: (name ++ "\")" ++ after ++ "\"").toList)) := by
    rcases List.exists_cons_of_ne_nil isName.1 with ⟨first, more, isFirst⟩
    have begins : first ∈ (name ++ "\")" ++ after ++ "\"").toList.head? := by
      simp [isFirst]
    exact Remainder.fits_tailed noQuote begins (stops first begins)
  have oneLine : '\n' ∉ '"' :: ((before ++ "$env(").toList ++ '"' ::
      (name ++ "\")" ++ after ++ "\"").toList) := by
    have inName : '\n' ∉ name.toList := isName.not_mem (by decide)
    have inBefore : '\n' ∉ before.toList := plain.not_mem (by decide)
    have inAfter : '\n' ∉ after.toList := plain'.not_mem (by decide)
    simp [inName, inBefore, inAfter]
  have opens : Opens (quotedCall before name after).toList "ech" ('"' ::
      ((before ++ "$env(").toList ++ '"' :: (name ++ "\")" ++ after ++ "\"").toList)) :=
    ⟨"    ".toList, [' '], by decide, by decide, by decide, by simp [quotedCall]⟩
  have trimmed : Text.trim (name ++ "\")" ++ after ++ "\"").toList =
      (name ++ "\")" ++ after ++ "\"").toList :=
    Text.trim_eq_self stops ⟨'"', by simp [List.getLast?_append, List.getLast?_cons], by decide⟩
  have torn : (Remainder.tailed (before ++ "$env(") (name ++ "\")" ++ after ++ "\"")).args =
      [tornCall before name after] := by
    rw [Remainder.args, trimmed, String.ofList_toList, List.cons.injEq]
    refine ⟨?_, rfl⟩
    apply String.toList_injective
    simp [tornCall]
  rw [command?_of_fits opens (stops_cons (by decide)) oneLine fits, torn]

end Line

namespace Reading

variable {reading : Reading} {earlier : List Task} {last : Task} {before name after : String}

/-- In a task, the line is read as a command with one argument.  The references in it are resolved,
but the quote at the end of the line has become part of the argument, and stays there. -/
theorem stray_quote (number : Nat) (opened : reading.script.tasks = earlier ++ [last])
    (isName : IsName name) (plain : IsUnmarked before) (plain' : IsUnmarked after) :
    reading.feed number (Line.quotedCall before name after).toList =
        { reading with script := { reading.script with
          tasks := earlier ++ [{ last with commands := last.commands ++
            [⟨"ech", [Line.tornCall before name after], number⟩] }] } } ∧
      ∀ (r : Runner) (task value : String), r.settings.environment name = some value →
        r.resolve task (Line.tornCall before name after) = before ++ value ++ after ++ "\"" := by
  constructor
  · have inTask : reading.inTask = true := by
      simp [Reading.inTask, opened]
    have written : (Line.quotedCall before name after).toList =
        "    ".toList ++ ("ech".toList ++ ' ' :: '"' :: ((before.toList ++
          (Reference.environmentCall ++ '"' :: (name.toList ++ '"' :: ')' :: after.toList))) ++
            ['"'])) := by
      simp [Line.quotedCall, Reference.environmentCall]
    have found := Line.command?_of_quotedCall isName plain plain'
    rw [written] at found
    have is := Line.classify_of_quote (by decide) (by decide) (by decide) found
    rw [← written] at is
    rw [feed, inTask, is, record, opened, addToLast_concat]
  · intro r task value isValue
    have inner : '$' ∉ before.toList ∧ '?' ∉ before.toList :=
      ⟨plain.not_mem (by decide), plain.not_mem (by decide)⟩
    -- the quote that is left over is plain text to all passes
    have outer : '$' ∉ after.toList ++ ['"'] ∧ '?' ∉ after.toList ++ ['"'] := by
      simp [plain'.not_mem (c := '$') (by decide), plain'.not_mem (c := '?') (by decide)]
    have space : Blanks [' '] := by decide
    have resolved := Reference.resolve_environment (r.scope task) isName space inner outer
    have value_ : (r.scope task).environment name = some value := isValue
    rw [← Line.toList_tornCall, String.ofList_toList, value_, Option.getD_some] at resolved
    rw [Runner.resolve, resolved]
    apply String.toList_injective
    simp

/-- A run in whose environment the user has a name. -/
def signedRun : Runner :=
  let environment name := if name = "USER" then some "me" else none
  { Runner.fresh ⟨[], []⟩ with settings := { Runner.plain with environment } }

/-- What a build is told to print about itself. -/
theorem stray_quote_of_build :
    (Reading.feed ⟨⟨[], [⟨"t", [], 1⟩]⟩, []⟩ 2
        (Line.quotedCall "built with " "USER" "").toList).script.tasks =
      [⟨"t", [⟨"ech", ["built with $env( USER\")\""], 2⟩], 1⟩] ∧
    signedRun.resolve "t" "built with $env( USER\")\"" = "built with me\"" := by
  have opened : (⟨⟨[], [⟨"t", [], 1⟩]⟩, []⟩ : Reading).script.tasks = [] ++ [⟨"t", [], 1⟩] := rfl
  have isName : IsName "USER" := by decide
  have plain : IsUnmarked "built with " := by decide
  have plain' : IsUnmarked "" := by decide
  have built := stray_quote 2 opened isName plain plain'
  exact ⟨congrArg (fun reading => reading.script.tasks) built.1, built.2 signedRun "t" "me" rfl⟩

/-- Not every such line is a command with one argument that is resolved to the text with the value
in place of the reference. -/
theorem lost_quotes :
    ¬ ∀ (reading : Reading) (earlier : List Task) (last : Task) (number : Nat)
        (before name after : String), reading.script.tasks = earlier ++ [last] →
      IsName name → (∀ c ∈ name.toList, c.toNat < 0x80) → IsUnmarked before → IsUnmarked after →
      (∀ c ∈ before.toList.head?, CharClass.isBlank c = false) →
      (∀ c ∈ after.toList.getLast?, CharClass.isBlank c = false) →
      ∃ argument,
        (reading.feed number (Line.quotedCall before name after).toList).script.tasks =
          earlier ++ [{ last with
            commands := last.commands ++ [⟨"ech", [argument], number⟩] }] ∧
        ∀ (r : Runner) (task value : String), r.settings.environment name = some value →
          r.resolve task argument = before ++ value ++ after := by
  intro always
  obtain ⟨argument, read, resolved⟩ := always ⟨⟨[], [⟨"t", [], 1⟩]⟩, []⟩ [] ⟨"t", [], 1⟩ 2
    "built with " "USER" "" rfl (by decide) (by simp) (by decide) (by decide) (by simp; decide)
    (by simp)
  have torn : (Reading.feed ⟨⟨[], [⟨"t", [], 1⟩]⟩, []⟩ 2
      (Line.quotedCall "built with " "USER" "").toList).script.tasks =
        [⟨"t", [⟨"ech", ["built with $env( USER\")\""], 2⟩], 1⟩] := by
    decide +kernel
  obtain rfl : argument = "built with $env( USER\")\"" := by
    have same := torn.symm.trans read
    simpa using same.symm
  have printed : signedRun.resolve "t" "built with $env( USER\")\"" = "built with me\"" := by
    decide +kernel
  have clean := resolved signedRun "t" "me" rfl
  rw [printed] at clean
  exact absurd clean (by decide)

end Reading
end TaskScript
