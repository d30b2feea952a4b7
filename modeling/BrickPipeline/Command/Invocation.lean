import BrickPipeline.Ident.Uuid

/-!
What the words of a command line ask for. Options may stand anywhere, as `--name value`,
`--name=value` or bundled short letters; two dashes alone end them.
-/
namespace BrickPipeline.Command

/-- The options of a run. -/
structure RunArguments where
  /-- The input as JSON text. -/
  input : Option String
  /-- A file of configured integrations. -/
  integrations : Option String
  root : Option String
  deploymentId : Option String
  runId : Option Uuid
  /-- Whether trace records are printed. -/
  trace : Bool
  /-- Whether the log is printed in full. -/
  verbose : Bool
deriving Inhabited

/-- What is asked for. -/
inductive Invocation where
  | run (document : String) (arguments : RunArguments)
  | validate (document : String)
  | info (document : String)
  | bricks
  | help
  | version

/-- The subcommands. -/
inductive Verb where
  | run
  | validate
  | info
  | bricks
deriving DecidableEq

def Verb.named? : String → Option Verb
  | "run" => some .run
  | "validate" => some .validate
  | "info" => some .info
  | "bricks" => some .bricks
  | _ => none

/-- The options that can be given. -/
inductive Opt where
  | verbose
  | help
  | version
  | trace
  | input
  | integrations
  | root
  | deploymentId
  | runId
deriving DecidableEq

def Opt.takesValue : Opt → Bool
  | .input | .integrations | .root | .deploymentId | .runId => true
  | _ => false

/-- The option of a long name, before a subcommand or behind one. -/
def Opt.long? (verb : Option Verb) (name : String) : Option Opt :=
  match verb, name with
  | _, "verbose" => some .verbose
  | _, "help" => some .help
  | none, "version" => some .version
  | some .run, "trace" => some .trace
  | some .run, "input" => some .input
  | some .run, "integrations" => some .integrations
  | some .run, "root" => some .root
  | some .run, "deployment-id" => some .deploymentId
  | some .run, "run-id" => some .runId
  | _, _ => none

def Opt.short? (verb : Option Verb) (letter : Char) : Option Opt :=
  match verb, letter with
  | _, 'v' => some .verbose
  | _, 'h' => some .help
  | none, 'V' => some .version
  | some .run, 'i' => some .input
  | _, _ => none

/-- What has been read of a command line. -/
structure State where
  verb : Option Verb
  document : Option String
  /-- The options given at this level. -/
  given : List Opt
  arguments : RunArguments
  /-- Whether only documents can follow. -/
  optionsEnded : Bool

def State.initial : State := ⟨none, none, [], ⟨none, none, none, none, none, false, false⟩, false⟩

/-- Why reading stops before the end. -/
inductive Stop where
  | usage
  | help
  | version

def State.setValue (state : State) (opt : Opt) (value : String) : Except Stop State :=
  let arguments := state.arguments
  match opt with
  | .input => .ok { state with arguments := { arguments with input := some value } }
  | .integrations =>
    if value.isEmpty then .error .usage
    else .ok { state with arguments := { arguments with integrations := some value } }
  | .root => .ok { state with arguments := { arguments with root := some value } }
  | .deploymentId =>
    .ok { state with arguments := { arguments with deploymentId := some value } }
  | .runId =>
    match Uuid.parse? value with
    | some id => .ok { state with arguments := { arguments with runId := some id } }
    | none => .error .usage
  | _ => .error .usage

/-- Take up an option; none may be given twice. -/
def State.setFlag (state : State) (opt : Opt) : Except Stop State :=
  match opt with
  | .help => .error .help
  | .version => .error .version
  | opt =>
    if state.given.contains opt then .error .usage
    else
      let state := { state with given := opt :: state.given }
      match opt with
      | .trace => .ok { state with arguments := { state.arguments with trace := true } }
      | .verbose => .ok { state with arguments := { state.arguments with verbose := true } }
      | _ => .ok state

def isOption (word : List Char) : Bool :=
  match word with
  | '-' :: _ :: _ => true
  | _ => false

/-- An option and its value, if it is attached. -/
def splitLong (word : List Char) : String × Option String :=
  let name := String.ofList (word.takeWhile (· != '='))
  match word.dropWhile (· != '=') with
  | '=' :: value => (name, some (String.ofList value))
  | _ => (name, none)

/-- Take up an option that has a value, attached or in the next word. -/
def State.takeValue (state : State) (opt : Opt) (attached : Option String) (words : List String) :
    Except Stop (State × List String) := do
  let state ← state.setFlag opt
  match attached, words with
  | some value, words => return (← state.setValue opt value, words)
  | none, value :: words =>
    if isOption value.toList then .error .usage
    else return (← state.setValue opt value, words)
  | none, [] => .error .usage

def State.takeLetters (state : State) : List Char → List String →
    Except Stop (State × List String)
  | [], words => return (state, words)
  | letter :: letters, words =>
    match Opt.short? state.verb letter with
    | none => .error .usage
    | some opt =>
      if opt.takesValue then
        let attached := match letters with
          | [] => none
          | '=' :: value => some (String.ofList value)
          | value => some (String.ofList value)
        state.takeValue opt attached words
      else do
        takeLetters (← state.setFlag opt) letters words

/-- Take up a word that is not an option. -/
def State.takePlain (state : State) (word : String) : Except Stop State :=
  match state.verb with
  | none =>
    match Verb.named? word with
    | some verb =>
      if state.optionsEnded then .error .usage
      else .ok { state with verb := some verb, given := [] }
    | none => .error .usage
  | some .bricks => .error .usage
  | some _ =>
    if state.document.isSome || word.isEmpty then .error .usage
    else .ok { state with document := some word }

/-- Take up one word, and perhaps the next as its value. -/
def State.takeWord (state : State) (word : String) (words : List String) :
    Except Stop (State × List String) :=
  if state.optionsEnded then do return (← state.takePlain word, words)
  else match word.toList with
    | ['-', '-'] => .ok ({ state with optionsEnded := true }, words)
    | '-' :: '-' :: long =>
      let (name, attached) := splitLong long
      match Opt.long? state.verb name with
      | none => .error .usage
      | some opt =>
        if opt.takesValue then state.takeValue opt attached words
        else if attached.isSome then .error .usage
        else do return (← state.setFlag opt, words)
    | '-' :: letter :: letters => state.takeLetters (letter :: letters) words
    | _ => do return (← state.takePlain word, words)

/-- Take up words; every one takes at least itself, so their number bounds the steps. -/
def State.takeAll : Nat → State → List String → Except Stop State
  | _, state, [] => .ok state
  | 0, _, _ :: _ => .error .usage
  | fuel + 1, state, word :: words => do
    let (state, words) ← state.takeWord word words
    takeAll fuel state words

/-- The invocation, once everything that it needs is there. -/
def State.finish (state : State) : Except Stop Invocation :=
  match state.verb, state.document with
  | some .bricks, _ => .ok .bricks
  | some .run, some document => .ok (.run document state.arguments)
  | some .validate, some document => .ok (.validate document)
  | some .info, some document => .ok (.info document)
  | _, _ => .error .usage

/-- Whether the words behind `help` name something there is help for. -/
def isHelpTopic : List String → Bool
  | [] => true
  | [topic] => (Verb.named? topic).isSome || topic == "help"
  | _ => false

/-- What a command line asks for; nothing if it is no proper one. -/
def Invocation.parse? (words : List String) : Option Invocation :=
  match words with
  | "help" :: topic => if isHelpTopic topic then some .help else none
  | words =>
    match (State.takeAll words.length .initial words).bind State.finish with
    | .ok invocation => some invocation
    | .error .help => some .help
    | .error .version => some .version
    | .error .usage => none

end BrickPipeline.Command
