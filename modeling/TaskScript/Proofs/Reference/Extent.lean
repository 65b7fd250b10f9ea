import TaskScript.Invocation
import TaskScript.Proofs.Reference.Environment
import TaskScript.Proofs.Run.Entry

/-!
# Extent — how far a reference goes

A reference to an argument goes as far as the word behind its mark.  An argument may be given under a
key of any form, but one whose key is no word is out of reach: no text refers to it.

- `Invocation.ofTokens_concat_flag`     : a key at the end of a command line
- `Reference.firstWord`, `Reference.afterWord` : where a reference to a key ends
- `Reference.resolve_key`               : what a mark and a key are resolved to
- `Reference.resolve_congr_named`       : resolution depends on the arguments whose keys are words
- `Runner.keys_in_reach`                : keys of a command line that are words, and other keys
-/

namespace TaskScript

/-! ## Keys of a command line -/

namespace Invocation

variable {invocation : Invocation} {token : String} {flag : List Char} {rest : List String}

/-- A token without hyphens in front is a call. -/
theorem read_of_call (noFlag : flag? token = none) :
    invocation.read (token :: rest) = (invocation.addCall (TaskCall.ofToken token)).read rest := by
  rw [read.eq_2, noFlag]

/-- A token with a key and a value says both. -/
theorem read_of_pair {key value : List Char} (isKey : flag? token = some flag)
    (pair : Text.splitOnce? '=' flag = some (key, value)) :
    invocation.read (token :: rest) =
      (invocation.addNamed key (String.ofList value)).read rest := by
  rw [read.eq_2, isKey]
  dsimp only
  rw [pair]

/-- A key at the very end has no value. -/
theorem read_of_last (isKey : flag? token = some flag) (whole : Text.splitOnce? '=' flag = none) :
    invocation.read [token] = invocation.addNamed flag "true" := by
  rw [read.eq_2, isKey]
  dsimp only
  rw [whole]

/-- A key by itself takes the next token for its value, unless this one is a key as well. -/
theorem read_of_key {next : String} (isKey : flag? token = some flag)
    (whole : Text.splitOnce? '=' flag = none) :
    invocation.read (token :: next :: rest) =
      if isFlag next then (invocation.addNamed flag "true").read (next :: rest)
      else (invocation.addNamed flag next).read rest := by
  rw [read.eq_2, isKey]
  dsimp only
  rw [whole]

/-- A key by itself at the end of a command line is given the value `true`, whatever stands before
it. -/
theorem ofTokens_concat_flag (tokens : List String) {key : String} (noEquals : '=' ∉ key.toList) :
    ofTokens (tokens ++ ["--" ++ key]) = (ofTokens tokens).addNamed key.toList "true" := by
  have isKey : flag? ("--" ++ key) = some key.toList := by simp [flag?]
  have lastIsFlag : isFlag ("--" ++ key) = true := by rw [isFlag, isKey, Option.isSome_some]
  have whole : Text.splitOnce? '=' key.toList = none := Text.splitOnce?_eq_none_iff.2 noEquals
  unfold ofTokens
  induction empty, tokens using read.induct with
  | case1 invocation =>
    rw [List.nil_append, read_of_last isKey whole, read.eq_1]
  | case2 invocation token rest noFlag ih =>
    rw [List.cons_append, read_of_call noFlag, read_of_call noFlag, ih]
  | case3 invocation token rest flag here first value pair ih =>
    rw [List.cons_append, read_of_pair here pair, read_of_pair here pair, ih]
  | case4 invocation token flag here single =>
    -- the key at the end is no value for the key before it
    rw [List.cons_append, List.nil_append, read_of_key here single, if_pos lastIsFlag,
      read_of_last isKey whole, read_of_last here single]
  | case5 invocation token flag here single next more nextFlag ih =>
    rw [List.cons_append] at ih ⊢
    rw [List.cons_append, read_of_key here single, read_of_key here single, if_pos nextFlag,
      if_pos nextFlag, ih]
  | case6 invocation token flag here single next more nextFlag ih =>
    rw [List.cons_append, List.cons_append, read_of_key here single, read_of_key here single,
      if_neg nextFlag, if_neg nextFlag, ih]

end Invocation

/-! ## Rules with the same pattern -/

/-- Rules for the same pattern are the same if they write the same for all pieces that it may take. -/
theorem Rule.ofPattern_congr {steps : List Pattern.Step} {write write' : List (List Char) → List Char}
    (same : ∀ pieces rest, Pattern.TakeAll steps pieces rest → write pieces = write' pieces) :
    ofPattern steps write = ofPattern steps write' := by
  funext text
  cases found : Pattern.match? steps text with
  | none => simp [ofPattern, found]
  | some result =>
    obtain ⟨pieces, rest⟩ := result
    have written := same pieces rest (Pattern.takeAll_of_match? found)
    simp [ofPattern, found, written]

namespace Reference

open Pattern

variable {key : String} {args args' : Bindings String}

/-! ## Words -/

/-- The word at the beginning of a key, which may be empty. -/
def firstWord (key : String) : String :=
  String.ofList (key.toList.takeWhile CharClass.isWord)

/-- What stands in a key behind its first word. -/
def afterWord (key : String) : String :=
  String.ofList (key.toList.dropWhile CharClass.isWord)

theorem firstWord_append_afterWord (key : String) : firstWord key ++ afterWord key = key := by
  rw [← String.toList_inj]
  simp [firstWord, afterWord]

theorem toList_key (key : String) :
    key.toList = (firstWord key).toList ++ (afterWord key).toList := by
  rw [← String.toList_append, firstWord_append_afterWord]

theorem isWord_of_mem_firstWord {c : Char} (mem : c ∈ (firstWord key).toList) :
    CharClass.isWord c = true := by
  rw [firstWord, String.toList_ofList] at mem
  exact List.all_eq_true.1 List.all_takeWhile c mem

/-- A first word that is no name is empty. -/
theorem firstWord_eq_empty (noName : ¬ IsName (firstWord key)) : firstWord key = "" := by
  rw [← String.toList_eq_nil_iff]
  refine Classical.not_not.1 fun some_ => ?_
  exact noName ⟨some_, fun c mem => isWord_of_mem_firstWord mem⟩

/-- The first word is not gone on with. -/
theorem stops_afterWord (key : String) :
    ∀ c ∈ (afterWord key).toList.head?, CharClass.isWord c = false := by
  intro c mem
  rw [afterWord, String.toList_ofList] at mem
  have stop := List.head?_dropWhile_not CharClass.isWord key.toList
  rw [Option.mem_def.1 mem] at stop
  simpa using stop

/-- A word is its own first word. -/
theorem firstWord_of_isName (isName : IsName key) : firstWord key = key := by
  have all := takeWhile_append_of_stop isName.2 stops_nil
  rw [List.append_nil] at all
  rw [firstWord, all, String.ofList_toList]

theorem afterWord_of_isName (isName : IsName key) : afterWord key = "" := by
  have parts := firstWord_append_afterWord key
  rw [firstWord_of_isName isName] at parts
  exact String.append_eq_left_iff.1 parts

/-! ## The passes for arguments -/

/-- What comes to stand for a mark and a word. -/
def wordValue (args : Bindings String) (word : String) : String :=
  if IsName word then (args.get? word).getD ("?" ++ word) else "?" ++ word

/-- The first pass leaves a mark and a key alone. -/
theorem apply_positional_key (positionals : List String) (noMark : '?' ∉ key.toList)
    (noDigit : ∀ c ∈ key.toList.head?, c.isDigit = false) :
    (positional positionals).apply ('?' :: key.toList) = '?' :: key.toList := by
  have stops := stops_afterWord key
  rw [toList_key key] at noMark noDigit ⊢
  rw [List.mem_append, not_or] at noMark
  have behind : (positional positionals).apply (afterWord key).toList = (afterWord key).toList :=
    Rule.apply_of_not_mem noMark.2
  by_cases isName : IsName (firstWord key)
  · have noDigit' : ∀ c ∈ (firstWord key).toList.head?, c.isDigit = false := by
      intro c mem
      refine noDigit c ?_
      rw [List.head?_append, Option.mem_def.1 mem]
      rfl
    have skipped := apply_positional_of_name positionals isName noDigit' stops
    rw [skipped, behind, List.cons_append]
  · have silent : positional positionals ('?' :: (afterWord key).toList) = none :=
      positional_eq_none (stops_digit stops)
    rw [firstWord_eq_empty isName, String.toList_empty, List.nil_append,
      Rule.apply_cons_of_none silent, behind]

/-- The second pass reads the first word of a key. -/
theorem apply_named_key (args : Bindings String) (noMark : '?' ∉ key.toList) :
    (named args).apply ('?' :: key.toList) =
      (wordValue args (firstWord key) ++ afterWord key).toList := by
  have stops := stops_afterWord key
  rw [toList_key key] at noMark ⊢
  rw [List.mem_append, not_or] at noMark
  have behind : (named args).apply (afterWord key).toList = (afterWord key).toList :=
    Rule.apply_of_not_mem noMark.2
  rw [wordValue, String.toList_append]
  by_cases isName : IsName (firstWord key)
  · rw [apply_named args isName stops, behind, if_pos isName]
    cases args.get? (firstWord key) <;> simp
  · rw [if_neg isName, firstWord_eq_empty isName, String.toList_empty, List.nil_append,
      Rule.apply_cons_of_none (named_eq_none stops), behind]
    rfl

/-! ## All passes -/

/-- A mark and a key are resolved to what the first word of the key stands for and to what follows this
word, even if an argument has been given under the key as a whole. -/
theorem resolve_key (scope : Scope) (literal : IsLiteral key)
    (noDigit : ∀ c ∈ key.toList.head?, c.isDigit = false)
    (plain : '$' ∉ (wordValue scope.named (firstWord key)).toList) :
    resolve scope ("?" ++ key) = wordValue scope.named (firstWord key) ++ afterWord key := by
  have noDollar : '$' ∉ (wordValue scope.named (firstWord key) ++ afterWord key).toList := by
    have inKey : '$' ∉ (firstWord key ++ afterWord key).toList := by
      rw [firstWord_append_afterWord]
      exact literal.1
    rw [String.toList_append, List.mem_append, not_or] at inKey ⊢
    exact ⟨plain, inKey.2⟩
  -- the other passes wait for a mark that is not there
  have byVariables : ∀ value? : String → Option String,
      (dollarNames value?).apply (wordValue scope.named (firstWord key) ++ afterWord key).toList =
        (wordValue scope.named (firstWord key) ++ afterWord key).toList :=
    fun value? => Rule.apply_of_not_mem noDollar
  have last := apply_environment_append scope.environment noDollar []
  rw [Rule.apply_nil, List.append_nil] at last
  have written : "?" ++ key = String.ofList ('?' :: key.toList) := by
    rw [← String.toList_inj]
    simp
  rw [written, resolve_ofList, apply_positional_key _ literal.2 noDigit,
    apply_named_key _ literal.2, byVariables, byVariables, last, String.ofList_toList]

/-- The second pass looks up words only. -/
theorem named_congr (agree : ∀ name, IsName name → args.get? name = args'.get? name) :
    named args = named args' := by
  refine Rule.ofPattern_congr fun pieces rest takes => ?_
  obtain ⟨mark, more, rfl, -, takes⟩ := takeAll_cons_iff.1 takes
  obtain ⟨word, others, rfl, isWord, takes⟩ := takeAll_cons_iff.1 takes
  obtain rfl := takeAll_nil_iff.1 takes
  -- what is looked up has been matched as a word
  have isName : IsName (String.ofList word) := by
    rw [IsName, String.toList_ofList]
    exact takes_oneOrMore.1 isWord
  simp only [agree _ isName]

/-- So does resolution as a whole. -/
theorem resolve_congr_named (scope : Scope)
    (agree : ∀ name, IsName name → args.get? name = args'.get? name) (text : String) :
    resolve { scope with named := args } text = resolve { scope with named := args' } text := by
  simp only [resolve, rules, named_congr agree]

end Reference

/-! ## Arguments of a command line -/

namespace Runner

open Reference

variable {key value : String}

/-- A key that is no word, and whose first word is no key, is left as it is written, although an argument
has been given under it. -/
theorem resolve_of_key_out_of_reach (r : Runner) (tokens : List String) (task : String)
    (literal : IsLiteral key) (noDigit : ∀ c ∈ key.toList.head?, c.isDigit = false)
    (noEquals : '=' ∉ key.toList) (noName : ¬ IsName key)
    (absent : (Invocation.ofTokens tokens).named.get? (firstWord key) = none) :
    (r.setNamedArgs (Invocation.ofTokens (tokens ++ ["--" ++ key])).named).resolve task
      ("?" ++ key) = "?" ++ key := by
  have last := Invocation.ofTokens_concat_flag tokens noEquals
  have left : wordValue (Invocation.ofTokens (tokens ++ ["--" ++ key])).named (firstWord key) =
      "?" ++ firstWord key := by
    by_cases isName : IsName (firstWord key)
    · have apart : firstWord key ≠ key := fun same => noName (same ▸ isName)
      have unset : (Invocation.ofTokens (tokens ++ ["--" ++ key])).named.get? (firstWord key) =
          none := by
        rw [last, Invocation.addNamed, String.ofList_toList]
        exact (Bindings.get?_set _ _ _ _).trans ((if_neg apart).trans absent)
      rw [wordValue, if_pos isName, unset, Option.getD_none]
    · rw [wordValue, if_neg isName]
  have noDollar : '$' ∉ ("?" ++ firstWord key).toList := by
    intro mem
    rw [String.toList_append, List.mem_append] at mem
    rcases mem with mark | word
    · exact absurd mark (by decide)
    · exact absurd (isWord_of_mem_firstWord word) (by decide)
  have resolved := resolve_key
    ((r.setNamedArgs (Invocation.ofTokens (tokens ++ ["--" ++ key])).named).scope task) literal
    noDigit (left.symm ▸ noDollar)
  refine resolved.trans ?_
  calc wordValue (Invocation.ofTokens (tokens ++ ["--" ++ key])).named (firstWord key) ++ afterWord key
      = "?" ++ (firstWord key ++ afterWord key) := by rw [left, String.append_assoc]
    _ = "?" ++ key := by rw [firstWord_append_afterWord]

/-- Where an argument has been given under a key that is a word, a mark and the key are resolved to its
value.  Under any other key an argument is of no account for any text, and a mark and the key are read
no further than the first word. -/
theorem keys_in_reach (r : Runner) (tokens : List String) (task : String)
    (given : (Invocation.ofTokens tokens).named.get? key = some value)
    (noDigit : ∀ c ∈ key.toList.head?, c.isDigit = false) (plain : '$' ∉ value.toList) :
    (IsName key →
      (r.setNamedArgs (Invocation.ofTokens tokens).named).resolve task ("?" ++ key) = value) ∧
    (¬ IsName key →
      (∀ other text, (r.setNamedArgs ((Invocation.ofTokens tokens).named.set key other)).resolve task
          text = (r.setNamedArgs (Invocation.ofTokens tokens).named).resolve task text) ∧
      (IsLiteral key →
        '$' ∉ (wordValue (Invocation.ofTokens tokens).named (firstWord key)).toList →
          (r.setNamedArgs (Invocation.ofTokens tokens).named).resolve task ("?" ++ key) =
            wordValue (Invocation.ofTokens tokens).named (firstWord key) ++ afterWord key)) := by
  refine ⟨fun isName => ?_, fun noName => ⟨fun other text => ?_, fun literal plain' => ?_⟩⟩
  · -- nothing stands behind the first word, which is the key itself
    have literal : IsLiteral key := ⟨isName.not_mem (by decide), isName.not_mem (by decide)⟩
    have found : wordValue (Invocation.ofTokens tokens).named (firstWord key) = value := by
      rw [firstWord_of_isName isName, wordValue, if_pos isName, given, Option.getD_some]
    have resolved := resolve_key ((r.setNamedArgs (Invocation.ofTokens tokens).named).scope task)
      literal noDigit (found.symm ▸ plain)
    have empty_ := afterWord_of_isName isName
    exact resolved.trans (by rw [empty_, String.append_empty]; exact found)
  · -- the key is none of the words that are looked up
    refine resolve_congr_named (r.scope task) ?_ text
    intro name isName
    have apart : name ≠ key := fun same => noName (same ▸ isName)
    exact (Bindings.get?_set _ _ _ _).trans (if_neg apart)
  · exact resolve_key ((r.setNamedArgs (Invocation.ofTokens tokens).named).scope task) literal
      noDigit plain'

/-- A task, an argument under a word and one under two words with a hyphen. -/
def hyphenated : List String := ["build:x", "--mode", "fast", "--dry-run"]

theorem named_hyphenated :
    (Invocation.ofTokens hyphenated).named = ⟨[("mode", "fast"), ("dry-run", "true")]⟩ := by
  have noFlag : Invocation.flag? "build:x" = none := by decide
  have isMode : Invocation.flag? "--mode" = some "mode".toList := by decide
  have isDryRun : Invocation.flag? "--dry-run" = some "dry-run".toList := by decide
  have isValue : ¬ Invocation.isFlag "fast" = true := by decide
  rw [Invocation.ofTokens, hyphenated, Invocation.read_of_call noFlag,
    Invocation.read_of_key isMode (by decide), if_neg isValue,
    Invocation.read_of_last isDryRun (by decide)]
  rfl

theorem noDigit_mode : ∀ c ∈ "mode".toList.head?, c.isDigit = false := by
  have letters : "mode".toList = ['m', 'o', 'd', 'e'] := by decide
  rw [letters]
  exact stops_cons (by decide)

theorem noDigit_dryRun : ∀ c ∈ "dry-run".toList.head?, c.isDigit = false := by
  have letters : "dry-run".toList = ['d', 'r', 'y', '-', 'r', 'u', 'n'] := by decide
  rw [letters]
  exact stops_cons (by decide)

/-- The first of them is in reach, and of the other one only the mark and the key are left. -/
theorem keys_in_reach_of_hyphenated :
    (Invocation.ofTokens hyphenated).named.get? "mode" = some "fast" ∧
      (Invocation.ofTokens hyphenated).named.get? "dry-run" = some "true" ∧
      ((fresh ⟨[], []⟩).setNamedArgs (Invocation.ofTokens hyphenated).named).resolve "build" "?mode" =
        "fast" ∧
      ((fresh ⟨[], []⟩).setNamedArgs (Invocation.ofTokens hyphenated).named).resolve "build"
        "?dry-run" = "?dry-run" := by
  have mode : (Invocation.ofTokens hyphenated).named.get? "mode" = some "fast" := by
    rw [named_hyphenated]
    rfl
  have dryRun : (Invocation.ofTokens hyphenated).named.get? "dry-run" = some "true" := by
    rw [named_hyphenated]
    rfl
  have word := keys_in_reach (fresh ⟨[], []⟩) hyphenated "build" mode noDigit_mode (by decide)
  have noWord := keys_in_reach (fresh ⟨[], []⟩) hyphenated "build" dryRun noDigit_dryRun (by decide)
  have left : wordValue (Invocation.ofTokens hyphenated).named (firstWord "dry-run") = "?dry" := by
    rw [named_hyphenated]
    decide +kernel
  have inReach := word.1 (by decide)
  have resolved := (noWord.2 (by decide)).2 (by decide) (by rw [left]; decide)
  have written : "?" ++ "mode" = "?mode" := by decide
  have written' : "?" ++ "dry-run" = "?dry-run" := by decide
  have behind : "?dry" ++ afterWord "dry-run" = "?dry-run" := by decide
  rw [written] at inReach
  rw [left, written', behind] at resolved
  exact ⟨mode, dryRun, inReach, resolved⟩

/-- An argument may be given that no reference stands for. -/
theorem key_out_of_reach :
    ¬ ∀ (r : Runner) (tokens : List String) (key value task : String),
      (Invocation.ofTokens tokens).named.get? key = some value → key ≠ "" →
        (∀ c ∈ key.toList.head?, c.isDigit = false) → IsLiteral value →
          (r.setNamedArgs (Invocation.ofTokens tokens).named).resolve task ("?" ++ key) = value := by
  intro always
  have given : (Invocation.ofTokens (["t"] ++ ["--" ++ "dry-run"])).named.get? "dry-run" =
      some "true" := by
    rw [Invocation.ofTokens_concat_flag ["t"] (by decide), Invocation.addNamed,
      String.ofList_toList]
    exact Bindings.get?_set_self _ _ _
  have same := always (fresh ⟨[], []⟩) (["t"] ++ ["--" ++ "dry-run"]) "dry-run" "true" "t" given
    (by decide) noDigit_dryRun (by decide)
  have left : ((fresh ⟨[], []⟩).setNamedArgs
      (Invocation.ofTokens (["t"] ++ ["--" ++ "dry-run"])).named).resolve "t" ("?" ++ "dry-run") =
        "?" ++ "dry-run" :=
    resolve_of_key_out_of_reach (fresh ⟨[], []⟩) ["t"] "t" (by decide) noDigit_dryRun (by decide)
      (by decide) (by decide +kernel)
  exact absurd (left.symm.trans same) (by decide)

end Runner
end TaskScript
