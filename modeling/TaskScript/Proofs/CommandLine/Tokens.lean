import TaskScript.Proofs.Reference.Extent

/-!
# Tokens — reading a command line undoes writing it

Calls are written in order, each as one token, and among them the named arguments in any order, each
as one token or two.  Whether a token is a call, a key or the value of the key before it depends on
what stands beside it, and yet what is read is what was written.

- `TaskCall.Writable`, `TaskCall.WrittenAs` : the calls that have a token, and their tokens
- `Invocation.Writes`                       : calls and named arguments written among each other
- `Invocation.ReadAs`                       : what tokens are read as, whatever has been read before
- `Invocation.ofTokens_of_writes`           : the calls and the map come back
-/

namespace TaskScript

/-! ## Splitting a text that has been put together -/

namespace Text

/-- The pieces between separators are those that the library knows. -/
theorem fields_eq_splitOn (separator : Char) (text : List Char) :
    fields separator text = text.splitOn separator := by
  unfold List.splitOn
  induction text with
  | nil => rfl
  | cons c rest ih =>
    rw [fields, List.splitOnP_cons_eq_if_modifyHead, ih]
    by_cases here : c = separator
    · simp [here]
    · rcases List.exists_cons_of_ne_nil (List.splitOnP_ne_nil (· == separator) rest) with
        ⟨piece, more, pieces⟩
      simp [here, pieces]

/-- A text is split at the first separator. -/
theorem splitOnce?_append {separator : Char} {before : List Char} (after : List Char)
    (first : separator ∉ before) :
    splitOnce? separator (before ++ separator :: after) = some (before, after) := by
  induction before with
  | nil => simp [splitOnce?]
  | cons c rest ih =>
    rw [List.mem_cons, not_or] at first
    simp [splitOnce?, Ne.symm first.1, ih first.2]

end Text

/-! ## Names without repetition -/

namespace Bindings

variable {α : Type} {b c : Bindings α} {name : String} {value : α}

/-- Each name occurs once. -/
def Distinct (b : Bindings α) : Prop :=
  (b.entries.map Prod.fst).Nodup

/-- A new name comes to stand at the end. -/
theorem assign_of_not_mem {pairs : List (String × α)} (value : α)
    (new : name ∉ pairs.map Prod.fst) : assign name value pairs = pairs ++ [(name, value)] := by
  induction pairs with
  | nil => rfl
  | cons pair rest ih =>
    rw [List.map_cons, List.mem_cons, not_or] at new
    rw [assign, if_neg new.1, ih new.2, List.cons_append]

theorem lookup_eq_some_iff {pairs : List (String × α)} (distinct : (pairs.map Prod.fst).Nodup) :
    pairs.lookup name = some value ↔ (name, value) ∈ pairs := by
  induction pairs with
  | nil => simp
  | cons pair rest ih =>
    rcases pair with ⟨first, its⟩
    rw [List.map_cons, List.nodup_cons] at distinct
    by_cases here : name = first
    · have once : (first, value) ∉ rest :=
        fun mem => distinct.1 (List.mem_map.2 ⟨_, mem, rfl⟩)
      simp [here, once, eq_comm]
    · have other : (name == first) = false := by simpa using here
      simp [List.lookup_cons, other, ih distinct.2, here]

/-- Where each name occurs once, the order is of no account. -/
theorem get?_of_perm (distinct : c.Distinct) (perm : b.entries.Perm c.entries) (name : String) :
    b.get? name = c.get? name := by
  have distinct' : b.Distinct := (perm.map Prod.fst).nodup_iff.2 distinct
  apply Option.ext
  intro value
  unfold get?
  rw [lookup_eq_some_iff distinct, lookup_eq_some_iff distinct', perm.mem_iff]

end Bindings

/-! ## Tokens for calls -/

/-- A token gives a named argument if two hyphens stand in front. -/
theorem Invocation.isFlag_iff_prefix {token : String} :
    isFlag token = true ↔ ['-', '-'] <+: token.toList := by
  unfold isFlag flag?
  split
  · next key chars => simp [chars]
  · next other =>
    refine iff_of_false (by simp) ?_
    rintro ⟨key, chars⟩
    exact other key chars.symm

/-- A call that a token can ask for. -/
structure TaskCall.Writable (call : TaskCall) : Prop where
  noColon : ':' ∉ call.name.toList
  noFlag : Invocation.isFlag call.name = false
  noComma : ∀ arg ∈ call.args, ',' ∉ arg.toList
  /-- No arguments and a single empty one would be written alike. -/
  notBlank : call.args ≠ [""]

/-- The tokens that ask for a call. -/
inductive TaskCall.WrittenAs : TaskCall → String → Prop
  /-- A name alone. -/
  | bare (name : String) : WrittenAs ⟨name, []⟩ name
  /-- A name, a colon, and the arguments between commas. -/
  | full (name : String) (args : List String) :
      WrittenAs ⟨name, args⟩ (name ++ ":" ++ ",".intercalate args)

namespace TaskCall

variable {call : TaskCall} {name token : String} {args : List String}

/-- Only a missing argument list and a single empty argument are written as nothing. -/
theorem intercalate_eq_empty (notBlank : args ≠ [""])
    (empty : (",".intercalate args).toList = []) : args = [] := by
  match args with
  | [] => rfl
  | [arg] =>
    rw [String.intercalate_singleton, String.toList_eq_nil_iff] at empty
    exact absurd (congrArg (fun text => [text]) empty) notBlank
  | first :: second :: rest => simp at empty

/-- Arguments between commas are told apart again. -/
theorem fields_intercalate (some_ : args ≠ []) (noComma : ∀ arg ∈ args, ',' ∉ arg.toList) :
    (Text.fields ',' (",".intercalate args).toList).map String.ofList = args := by
  have pieces : List.splitOn ',' ([','].intercalate (args.map String.toList)) =
      args.map String.toList := by
    refine List.splitOn_intercalate ',' ?_ (by simpa using some_)
    simpa using noComma
  have joined : (",".intercalate args).toList = [','].intercalate (args.map String.toList) :=
    String.toList_intercalate
  rw [Text.fields_eq_splitOn, joined, pieces, List.map_map]
  simp [Function.comp_def]

/-- A token that a call is written as asks for this call. -/
theorem WrittenAs.ofToken_eq (written : call.WrittenAs token) (writable : call.Writable) :
    ofToken token = call := by
  cases written with
  | bare =>
    have whole : Text.splitOnce? ':' token.toList = none :=
      Text.splitOnce?_eq_none_iff.2 writable.noColon
    rw [ofToken, whole]
  | full name args =>
    have split : Text.splitOnce? ':' (name ++ ":" ++ ",".intercalate args).toList =
        some (name.toList, (",".intercalate args).toList) := by
      rw [String.append_assoc, String.toList_append, String.toList_append]
      exact Text.splitOnce?_append _ writable.noColon
    rw [ofToken, split]
    dsimp only
    rw [String.ofList_toList]
    by_cases none_ : args = []
    · subst none_
      rfl
    · have written : ¬ (",".intercalate args).toList.isEmpty = true := by
        rw [List.isEmpty_iff]
        exact fun empty => none_ (intercalate_eq_empty writable.notBlank empty)
      rw [if_neg written, fields_intercalate none_ writable.noComma]

/-- A token that a call is written as is no key: the colon stands too early for one. -/
theorem WrittenAs.isFlag_eq_false (written : call.WrittenAs token) (writable : call.Writable) :
    Invocation.isFlag token = false := by
  cases written with
  | bare => exact writable.noFlag
  | full name args =>
    have noFlag := writable.noFlag
    rw [← Bool.not_eq_true, Invocation.isFlag_iff_prefix] at noFlag ⊢
    dsimp only at noFlag
    rw [String.append_assoc, String.toList_append, String.toList_append]
    -- two hyphens in front of all this would stand in the name
    match chars : name.toList with
    | [] => simp
    | [c] => simp
    | c :: d :: rest => simpa [chars] using noFlag

end TaskCall

/-! ## Calls and named arguments among each other -/

namespace Invocation

/-- Tokens that some calls and some named arguments are written as, each in order and both among
each other. -/
inductive Writes : List TaskCall → List (String × String) → List String → Prop
  | nil : Writes [] [] []
  | call {call : TaskCall} {token : String} {calls : List TaskCall}
      {entries : List (String × String)} {tokens : List String} (written : call.WrittenAs token)
      (rest : Writes calls entries tokens) : Writes (call :: calls) entries (token :: tokens)
  /-- A key and its value in one token. -/
  | pair (key value : String) {calls : List TaskCall} {entries : List (String × String)}
      {tokens : List String} (rest : Writes calls entries tokens) :
      Writes calls ((key, value) :: entries) (("--" ++ key ++ "=" ++ value) :: tokens)
  /-- A key, and then its value. -/
  | apart (key : String) {value : String} {calls : List TaskCall}
      {entries : List (String × String)} {tokens : List String} (plain : isFlag value = false)
      (rest : Writes calls entries tokens) :
      Writes calls ((key, value) :: entries) (("--" ++ key) :: value :: tokens)
  /-- A key alone. -/
  | alone (key : String) {calls : List TaskCall} {entries : List (String × String)}
      {tokens : List String} (followed : ∀ next ∈ tokens.head?, isFlag next = true)
      (rest : Writes calls entries tokens) :
      Writes calls ((key, "true") :: entries) (("--" ++ key) :: tokens)

/-- What tokens are read as, whatever has been read before: the calls are added, and the named
arguments as well if their names are new. -/
def ReadAs (calls : List TaskCall) (entries : List (String × String)) (tokens : List String) :
    Prop :=
  ∀ invocation : Invocation, ((invocation.named.entries ++ entries).map Prod.fst).Nodup →
    invocation.read tokens =
      ⟨invocation.calls ++ calls, ⟨invocation.named.entries ++ entries⟩⟩

variable {calls : List TaskCall} {entries order : List (String × String)}
  {token key value : String} {tokens written : List String} {named : Bindings String}

namespace ReadAs

theorem nil : ReadAs [] [] [] := by
  intro invocation _
  rw [read, List.append_nil, List.append_nil]

theorem call {asked : TaskCall} (noFlag : flag? token = none)
    (asks : TaskCall.ofToken token = asked) (rest : ReadAs calls entries tokens) :
    ReadAs (asked :: calls) entries (token :: tokens) := by
  intro invocation distinct
  have onward := rest (invocation.addCall asked) distinct
  rw [read_of_call noFlag, asks, onward, addCall, List.append_assoc, List.singleton_append]

/-- A new named argument is added before the others are read. -/
theorem addNamed (rest : ReadAs calls entries tokens)
    (begins : ∀ invocation : Invocation,
      invocation.read written = (invocation.addNamed key.toList value).read tokens) :
    ReadAs calls ((key, value) :: entries) written := by
  intro invocation distinct
  have new : key ∉ invocation.named.entries.map Prod.fst := by
    rw [List.map_append, List.map_cons, List.nodup_append] at distinct
    intro mem
    exact distinct.2.2 key mem key List.mem_cons_self rfl
  have added : invocation.addNamed key.toList value =
      ⟨invocation.calls, ⟨invocation.named.entries ++ [(key, value)]⟩⟩ := by
    rw [Invocation.addNamed, String.ofList_toList, Bindings.set,
      Bindings.assign_of_not_mem value new]
  have onward : invocation.named.entries ++ (key, value) :: entries =
      (invocation.named.entries ++ [(key, value)]) ++ entries := by
    rw [List.append_assoc, List.singleton_append]
  rw [onward] at distinct ⊢
  rw [begins, added, rest _ distinct]

end ReadAs

/-! ### Keys -/

theorem flag?_key (key : String) : flag? ("--" ++ key) = some key.toList := by
  simp [flag?]

/-- A key and a value in one token are told apart at the first equals sign. -/
theorem read_pair (invocation : Invocation) (value : String) (noEquals : '=' ∉ key.toList) :
    invocation.read (("--" ++ key ++ "=" ++ value) :: tokens) =
      (invocation.addNamed key.toList value).read tokens := by
  have isKey : flag? ("--" ++ key ++ "=" ++ value) = some (key.toList ++ '=' :: value.toList) := by
    simp [flag?]
  rw [read_of_pair isKey (Text.splitOnce?_append _ noEquals), String.ofList_toList]

/-- A token behind a key that is no key itself is its value. -/
theorem read_apart (invocation : Invocation) (noEquals : '=' ∉ key.toList)
    (plain : isFlag value = false) :
    invocation.read (("--" ++ key) :: value :: tokens) =
      (invocation.addNamed key.toList value).read tokens := by
  have whole := Text.splitOnce?_eq_none_iff.2 noEquals
  rw [read_of_key (flag?_key key) whole, plain]
  rfl

/-- A key that has another behind it, or nothing, is true. -/
theorem read_alone (invocation : Invocation) (noEquals : '=' ∉ key.toList)
    (followed : ∀ next ∈ tokens.head?, isFlag next = true) :
    invocation.read (("--" ++ key) :: tokens) =
      (invocation.addNamed key.toList "true").read tokens := by
  have whole := Text.splitOnce?_eq_none_iff.2 noEquals
  cases tokens with
  | nil => rw [read_of_last (flag?_key key) whole, read]
  | cons next more => rw [read_of_key (flag?_key key) whole, if_pos (followed next rfl)]

/-! ### All tokens -/

/-- Tokens are read as what has been written. -/
theorem Writes.readAs (writes : Writes calls entries tokens)
    (writable : ∀ call ∈ calls, call.Writable)
    (noEquals : ∀ entry ∈ entries, '=' ∉ entry.1.toList) : ReadAs calls entries tokens := by
  -- no token is read with more than the one behind it, so there is a case for each way of writing
  induction writes with
  | nil => exact .nil
  | call written rest ih =>
    rw [List.forall_mem_cons] at writable
    have noFlag := Option.isSome_eq_false_iff.1 (written.isFlag_eq_false writable.1)
    exact .call (Option.isNone_iff_eq_none.1 noFlag) (written.ofToken_eq writable.1)
      (ih writable.2 noEquals)
  | pair key value rest ih =>
    rw [List.forall_mem_cons] at noEquals
    exact (ih writable noEquals.2).addNamed fun invocation => invocation.read_pair value noEquals.1
  | apart key plain rest ih =>
    rw [List.forall_mem_cons] at noEquals
    exact (ih writable noEquals.2).addNamed fun invocation => invocation.read_apart noEquals.1 plain
  | alone key followed rest ih =>
    rw [List.forall_mem_cons] at noEquals
    exact (ih writable noEquals.2).addNamed fun invocation =>
      invocation.read_alone noEquals.1 followed

/-- What is written on a command line is what is read of it.

Let calls be written as tokens in order, and among them, in any order, the named arguments of a map:
each as a key and a value in one token, or in two if the value does not look like a key, or as a key
alone if the value is `true` and what follows cannot be meant as one.  Then just these calls are
read, and just this map. -/
theorem ofTokens_of_writes (writes : Writes calls order tokens) (listed : order.Perm named.entries)
    (writable : ∀ call ∈ calls, call.Writable) (distinct : named.Distinct)
    (noEquals : ∀ entry ∈ named.entries, '=' ∉ entry.1.toList) :
    (ofTokens tokens).calls = calls ∧ (ofTokens tokens).named.entries.Perm named.entries ∧
      ∀ key, (ofTokens tokens).named.get? key = named.get? key := by
  have noEquals' : ∀ entry ∈ order, '=' ∉ entry.1.toList :=
    fun entry mem => noEquals entry (listed.mem_iff.1 mem)
  have distinct' : (order.map Prod.fst).Nodup := (listed.map Prod.fst).nodup_iff.2 distinct
  have read : ofTokens tokens = ⟨calls, ⟨order⟩⟩ := writes.readAs writable noEquals' empty distinct'
  rw [read]
  exact ⟨rfl, listed, Bindings.get?_of_perm distinct listed⟩

/-- Three named arguments. -/
def mixed : Bindings String :=
  ⟨[("dry", "true"), ("level", "3:x"), ("mode", "fast=1")]⟩

/-- The arguments stand among two calls: the value of one would be a call if it stood alone, that of
another has an equals sign in it, and the last is a key at the end. -/
theorem ofTokens_of_mixed :
    let tokens := ["--level", "3:x", "build:a,b", "--mode=fast=1", "test", "--dry"]
    (ofTokens tokens).calls = [⟨"build", ["a", "b"]⟩, ⟨"test", []⟩] ∧
      (ofTokens tokens).named.get? "level" = some "3:x" ∧
      (ofTokens tokens).named.get? "mode" = some "fast=1" ∧
      (ofTokens tokens).named.get? "dry" = some "true" := by
  intro tokens
  have writes : Writes [⟨"build", ["a", "b"]⟩, ⟨"test", []⟩]
      [("level", "3:x"), ("mode", "fast=1"), ("dry", "true")] tokens :=
    .apart "level" (by decide) <| .call (.full "build" ["a", "b"]) <| .pair "mode" "fast=1" <|
      .call (.bare "test") <| .alone "dry" (by simp) .nil
  have writable : ∀ call ∈ [⟨"build", ["a", "b"]⟩, ⟨"test", []⟩], TaskCall.Writable call := by
    simp only [List.forall_mem_cons]
    refine ⟨⟨?_, ?_, ?_, ?_⟩, ⟨?_, ?_, ?_, ?_⟩, nofun⟩ <;> decide
  have listed : [("level", "3:x"), ("mode", "fast=1"), ("dry", "true")].Perm mixed.entries := by
    decide
  have distinct : mixed.Distinct := by
    unfold Bindings.Distinct
    decide
  have noEquals : ∀ entry ∈ mixed.entries, '=' ∉ entry.1.toList := by
    decide
  rcases ofTokens_of_writes writes listed writable distinct noEquals with ⟨calls, -, named⟩
  exact ⟨calls, named "level", named "mode", named "dry"⟩

end Invocation
end TaskScript
