namespace ServoLink

/-! ## Command grammars -/

/-- A long option.  `accepts` says which values it takes; an option without it is a
switch. -/
structure OptionRule where
  name : String
  accepts : Option (String → Bool) := none
  /-- Whether the value may begin with a hyphen. -/
  hyphens : Bool := false

/-- An argument in its place.  Arguments that may be left out come last. -/
structure ArgumentRule where
  accepts : String → Bool
  required : Bool := true

/-- A command with its options, its arguments in order, and the commands under it, of
which one has to follow if there are any. -/
inductive CommandRule where
  | mk (name : String) (options : List OptionRule) (arguments : List ArgumentRule)
      (commands : List CommandRule)

namespace CommandRule

def name : CommandRule → String
  | mk name _ _ _ => name

def options : CommandRule → List OptionRule
  | mk _ options _ _ => options

def arguments : CommandRule → List ArgumentRule
  | mk _ _ arguments _ => arguments

def commands : CommandRule → List CommandRule
  | mk _ _ _ commands => commands

end CommandRule

/-! ## Parsed command lines -/

/-- Why a command line is not carried out. -/
inductive Refusal where
  | help
  | version
  | invalid
  deriving DecidableEq, Repr

/-- The options of one command, a switch with an empty value, and its arguments. -/
structure Level where
  options : List (String × String) := []
  arguments : List String := []
  deriving DecidableEq, Repr, Inhabited

/-- The names of the commands from the outermost on, and what was given to each. -/
structure ParsedLine where
  path : List String := []
  levels : List Level := []
  deriving DecidableEq, Repr, Inhabited

namespace ParsedLine

/-- The value of an option, in which an inner command overrules an outer one. -/
def option? (line : ParsedLine) (name : String) : Option String :=
  line.levels.reverse.findSome? fun level => level.options.lookup name

def switch (line : ParsedLine) (name : String) : Bool :=
  (line.option? name).isSome

/-- The arguments of the innermost command. -/
def arguments (line : ParsedLine) : List String :=
  (line.levels.getLast?.map Level.arguments).getD []

end ParsedLine

/-! ## Parsing -/

namespace CommandRule

/-- Notes an option, which may be given once for each command and takes only values that
its rule accepts. -/
def addOption (level : Level) (rule : OptionRule) (value : String) : Except Refusal Level :=
  if (level.options.lookup rule.name).isSome || !rule.accepts.all (· value) then
    .error .invalid
  else
    .ok { level with options := level.options ++ [(rule.name, value)] }

/-- Notes an argument, if there is still a place for one that takes it. -/
def addArgument (rule : CommandRule) (level : Level) (value : String) :
    Except Refusal Level :=
  match rule.arguments[level.arguments.length]? with
  | some argument =>
      if argument.accepts value then
        .ok { level with arguments := level.arguments ++ [value] }
      else
        .error .invalid
  | none => .error .invalid

/-- Whether nothing that a command needs is missing. -/
def isComplete (rule : CommandRule) (level : Level) : Bool :=
  rule.commands.isEmpty &&
    !(rule.arguments.drop level.arguments.length).any ArgumentRule.required

/-- The two parts of a long option, whose value may follow an equals sign. -/
def splitLong (text : List Char) : String × Option String :=
  let value :=
    match text.dropWhile (· != '=') with
    | _ :: value => some (String.ofList value)
    | [] => none
  (String.ofList (text.takeWhile (· != '=')), value)

/-- Parses the words after a command's name.  `waiting` is an option that still needs its
value, and after `--` every word is an argument. -/
def parse (outermost : Bool) (rule : CommandRule) (level : Level)
    (waiting : Option OptionRule) (onlyArguments : Bool) :
    List String → Except Refusal ParsedLine
  | [] =>
      if waiting.isNone && rule.isComplete level then
        .ok { levels := [level] }
      else
        .error .invalid
  | word :: words =>
      let isValue := waiting.any (·.hyphens) && !onlyArguments
      let argument : Except Refusal ParsedLine :=
        if waiting.isSome then
          .error .invalid
        else do
          parse outermost rule (← addArgument rule level word) none onlyArguments words
      let valueOf (option : OptionRule) (value : String) : Except Refusal ParsedLine := do
        parse outermost rule (← addOption level option value) none false words
      let exit (refusal : Refusal) : Except Refusal ParsedLine :=
        if waiting.isSome then .error .invalid else .error refusal
      if onlyArguments then
        argument
      else
        match waiting.isNone, rule.commands.find? fun command => command.name == word with
        | true, some command => do
            let inner ← parse false command {} none false words
            return { path := command.name :: inner.path, levels := level :: inner.levels }
        | _, _ =>
            match word.toList with
            | '-' :: c :: rest =>
                if isValue then
                  match waiting with
                  | some option => valueOf option word
                  | none => .error .invalid
                else if c = '-' then
                  match rest with
                  | [] => parse outermost rule level waiting true words
                  | _ =>
                      let (name, value) := splitLong rest
                      match rule.options.find? fun option => option.name == name with
                      | some option =>
                          match waiting, option.accepts, value with
                          | none, none, none => valueOf option ""
                          | none, some _, some value => valueOf option value
                          | none, some _, none =>
                              parse outermost rule level (some option) false words
                          | _, _, _ => .error .invalid
                      | none =>
                          if name = "help" ∧ value.isNone then exit .help
                          else if name = "version" ∧ value.isNone ∧ outermost then exit .version
                          else .error .invalid
                else if c = 'h' then exit .help
                else if c = 'V' ∧ outermost then exit .version
                else .error .invalid
            | _ =>
                match waiting with
                | some option => valueOf option word
                | none => argument

end CommandRule

end ServoLink
