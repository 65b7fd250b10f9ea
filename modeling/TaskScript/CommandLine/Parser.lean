import TaskScript.CommandLine.Options

/-!
# Parser — the tokens of a command line as options

`--` may stand in front of the tokens that say which tasks to run.

- `Known`            : the options there are, by their long and short names
- `CommandLine.read` : what a list of tokens asks for

An option is given at most once, a value is never empty, and a token that looks like an option is no
value of another one.
-/

namespace TaskScript

/-! ## The options there are -/

/-- An option. -/
inductive Known
  | setting (s : Setting)
  | switch (s : Switch)
  | help
  | version
  deriving DecidableEq, Repr

/-- The names of an option. -/
structure OptionEntry where
  known : Known
  long : String
  short? : Option Char

/-- All options. -/
def optionTable : List OptionEntry :=
  [ ⟨.setting .file, "file", some 'f'⟩,
    ⟨.setting .dir, "dir", some 'C'⟩,
    ⟨.switch .quiet, "quiet", some 'q'⟩,
    ⟨.switch .silent, "silent", some 's'⟩,
    ⟨.switch .verbose, "verbose", some 'v'⟩,
    ⟨.switch .strict, "strict", none⟩,
    ⟨.setting .envFile, "env-file", none⟩,
    ⟨.switch .noDotenv, "no-dotenv", none⟩,
    ⟨.switch .list, "list", some 'l'⟩,
    ⟨.switch .check, "check", none⟩,
    ⟨.switch .dump, "dump", none⟩,
    ⟨.help, "help", some 'h'⟩,
    ⟨.version, "version", some 'V'⟩ ]

/-- The option of a long name. -/
def Known.ofLong? (name : String) : Option Known :=
  (optionTable.find? fun entry => entry.long == name).map OptionEntry.known

/-- The option of a short name. -/
def Known.ofShort? (name : Char) : Option Known :=
  (optionTable.find? fun entry => entry.short? == some name).map OptionEntry.known

/-! ## Tokens -/

/-- What a token is at a place where options may stand. -/
inductive OptionToken
  /-- The end of the options. -/
  | separator
  /-- A long name with the value after an equals sign. -/
  | long (known : Known) (attached? : Option String)
  /-- Short names; the value of one may follow it. -/
  | short (letters : List Char)
  /-- No option. -/
  | other
  deriving DecidableEq, Repr

namespace OptionToken

/-- The name and the value on both sides of an equals sign. -/
def splitValue (text : List Char) : String × Option String :=
  let name := text.takeWhile (· != '=')
  (String.ofList name,
    if name.length < text.length then some (String.ofList (text.drop (name.length + 1))) else none)

/-- What a token is.  Letters of which one is no short name make no option. -/
def ofToken (token : String) : OptionToken :=
  match token.toList with
  | ['-', '-'] => separator
  | '-' :: '-' :: text =>
    match Known.ofLong? (splitValue text).1 with
    | some known => long known (splitValue text).2
    | none => other
  | '-' :: c :: letters =>
    if (c :: letters).all fun l => (Known.ofShort? l).isSome then short (c :: letters) else other
  | _ => other

end OptionToken

/-! ## Reading -/

namespace Options

/-- Nothing is given. -/
def empty : Options := ⟨[], [], []⟩

/-- Give an option a value, unless it has one or the value is empty. -/
def give? (o : Options) (s : Setting) (value : String) : Option Options :=
  if value.isEmpty || (o.value? s).isSome then none
  else some { o with values := o.values ++ [(s, value)] }

/-- Give an option that takes no value, unless it is given already. -/
def turnOn? (o : Options) (s : Switch) : Option Options :=
  if o.has s then none else some { o with switches := o.switches ++ [s] }

end Options

namespace CommandLine

/-- The answer to a request for help.  Its text is not kept. -/
def helped : Arguments := .ended 0 "" ""

/-- The answer to a request for the version. -/
def versioned : Arguments := .ended 0 "taskr 0.1.0\n" ""

/-- The answer to options that are not used as they should be.  The complaint is not kept. -/
def misused : Arguments := .ended 2 "" ""

/-- How options go on after some tokens. -/
inductive Progress
  | options (o : Options)
  /-- The next token is the value of an option. -/
  | awaiting (o : Options) (s : Setting)
  /-- The rest does not matter. -/
  | settled (result : Arguments)

/-- Go on with options unless they are misused. -/
def Progress.ofOptions? : Option Options → Progress
  | some o => options o
  | none => settled misused

/-- The effect of a long name. -/
def applyLong (o : Options) (known : Known) (attached? : Option String) : Progress :=
  match known, attached? with
  | .setting s, some value => .ofOptions? (o.give? s value)
  | .setting s, none => .awaiting o s
  | .switch s, none => .ofOptions? (o.turnOn? s)
  | .help, none => .settled helped
  | .version, none => .settled versioned
  | _, some _ => .settled misused

/-- The effect of short names. -/
def applyShort (o : Options) : List Char → Progress
  | [] => .options o
  | letter :: rest =>
    match Known.ofShort? letter with
    | some (.switch s) =>
      match o.turnOn? s with
      | some o => applyShort o rest
      | none => .settled misused
    | some (.setting s) =>
      if rest.isEmpty then .awaiting o s else .ofOptions? (o.give? s (String.ofList rest))
    | some .help => .settled helped
    | some .version => .settled versioned
    | none => .settled misused

/-- The effect of a token that other tokens follow. -/
def apply (o : Options) (token : String) (rest : List String) : Progress :=
  match OptionToken.ofToken token with
  | .separator => .settled (.accepted { o with tokens := rest })
  | .other => .settled (.accepted { o with tokens := token :: rest })
  | .long known attached? => applyLong o known attached?
  | .short letters => applyShort o letters

/-- Read tokens from left to right. -/
def readFrom (o : Options) : List String → Arguments
  | [] => .accepted o
  | token :: rest =>
    match apply o token rest with
    | .options o => readFrom o rest
    | .settled result => result
    | .awaiting o s =>
      match rest with
      | [] => misused
      | value :: more =>
        match OptionToken.ofToken value, o.give? s value with
        | .other, some o => readFrom o more
        | _, _ => misused

/-- What a list of tokens asks for. -/
def read (tokens : List String) : Arguments := readFrom .empty tokens

end CommandLine

end TaskScript
