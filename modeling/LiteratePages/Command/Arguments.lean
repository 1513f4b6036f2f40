import LiteratePages.Text.Lines

namespace LiteratePages

structure RenderOptions where
  file : String
  data : Option String
  set : List String
  literateExtension : String
  output : Option String
deriving Repr, DecidableEq

inductive Command where
  | html (file : String) (output : Option String)
  | render (options : RenderOptions)
  | showMeta (file : String)
  | build (config : String)
deriving Repr, DecidableEq

inductive Invocation where
  | run (command : Command)
  | version
  | help
  | misuse
deriving Repr, DecidableEq

namespace Arguments

inductive CommandName where
  | html
  | render
  | showMeta
  | build
deriving Repr, DecidableEq

inductive ValueOption where
  | output
  | data
  | set
  | literateExtension
deriving Repr, DecidableEq

inductive Flag where
  | noColor
  | verbose
  | help
  | version
deriving Repr, DecidableEq

def command? : String → Option CommandName
  | "html" => some .html
  | "render" => some .render
  | "meta" => some .showMeta
  | "build" => some .build
  | _ => none

/-- The flags before a command, or after one. -/
def longFlag? (command : Option CommandName) : String → Option Flag
  | "no-color" => some .noColor
  | "verbose" => some .verbose
  | "help" => some .help
  | "version" => if command.isNone then some .version else none
  | _ => none

def shortFlag? (command : Option CommandName) : Char → Option Flag
  | 'v' => some .verbose
  | 'h' => some .help
  | 'V' => if command.isNone then some .version else none
  | _ => none

def longOption? : Option CommandName → String → Option ValueOption
  | some .html, "output" | some .render, "output" => some .output
  | some .render, "data" => some .data
  | some .render, "set" => some .set
  | some .render, "literate-extension" => some .literateExtension
  | _, _ => none

def shortOption? (command : Option CommandName) (c : Char) : Option ValueOption :=
  if c = 'o' then longOption? command "output" else none

structure State where
  command : Option CommandName := none
  /-- Whether color was turned off since the command line or its command began. -/
  noColor : Bool := false
  /-- The option that the next argument is the value of. -/
  pending : Option ValueOption := none
  /-- Whether `--` stood before. -/
  onlyPositional : Bool := false
  positional : Option String := none
  output : Option String := none
  data : Option String := none
  set : List String := []
  literateExtension : Option String := none

inductive Move where
  | more (state : State)
  /-- Help is asked for on what the other arguments name. -/
  | helpOn
  | stop (invocation : Invocation)

/-- Takes a value for an option. Paths are not empty, and only `--set` may be repeated. -/
def State.setOption (state : State) (option : ValueOption) (value : String) : Move :=
  let state := { state with pending := none }
  match option with
  | .set => .more { state with set := state.set ++ [value] }
  | .literateExtension =>
      if state.literateExtension.isSome then .stop .misuse
      else .more { state with literateExtension := some value }
  | .output =>
      if state.output.isSome || value.isEmpty then .stop .misuse
      else .more { state with output := some value }
  | .data =>
      if state.data.isSome || value.isEmpty then .stop .misuse
      else .more { state with data := some value }

def State.setFlag (state : State) : Flag → Move
  | .noColor => if state.noColor then .stop .misuse else .more { state with noColor := true }
  | .verbose => .more state
  | .help => .stop .help
  | .version => .stop .version

/-- Takes an argument that is no option: the command, or the one path that commands take. -/
def State.takePositional (state : State) (text : String) : Move :=
  match state.command with
  | none =>
      if state.onlyPositional then .stop .misuse
      else match command? text with
        | some command => .more { state with command := some command, noColor := false }
        | none => if text = "help" then .helpOn else .stop .misuse
  | some _ =>
      if state.positional.isSome || text.isEmpty then .stop .misuse
      else .more { state with positional := some text }

def State.takeLong (state : State) (chars : List Char) : Move :=
  let (name, value) := Text.cut (· == '=') chars
  let name := String.ofList name
  match longFlag? state.command name, longOption? state.command name, value with
  | some flag, _, none => state.setFlag flag
  | none, some option, some value => state.setOption option (String.ofList value)
  | none, some option, none => .more { state with pending := some option }
  | _, _, _ => .stop .misuse

/-- Takes the characters after one dash: flags, and at the end perhaps an option, the value of
which may follow at once or after an equals sign. -/
def State.takeShort (state : State) : List Char → Move
  | [] => .more state
  | c :: rest =>
      match shortFlag? state.command c with
      | some flag => match state.setFlag flag with
          | .more state => state.takeShort rest
          | stop => stop
      | none => match shortOption? state.command c with
          | none => .stop .misuse
          | some option => match rest with
              | [] => .more { state with pending := some option }
              | '=' :: value => state.setOption option (String.ofList value)
              | value => state.setOption option (String.ofList value)

/-- Takes one argument. What starts with a dash is no value, unless it is the dash alone. -/
def State.take (state : State) (argument : String) : Move :=
  if state.onlyPositional then state.takePositional argument
  else match argument.toList, state.pending with
    | ['-', '-'], none => .more { state with onlyPositional := true }
    | '-' :: _ :: _, some _ => .stop .misuse
    | '-' :: '-' :: rest, none => state.takeLong rest
    | '-' :: c :: rest, none => state.takeShort (c :: rest)
    | _, some option => state.setOption option argument
    | _, none => state.takePositional argument

def State.finish (state : State) : Invocation :=
  if state.pending.isSome then .misuse
  else match state.command, state.positional with
    | some .html, some file => .run (.html file state.output)
    | some .render, some file =>
        .run (.render ⟨file, state.data, state.set, state.literateExtension.getD "lit", state.output⟩)
    | some .showMeta, some file => .run (.showMeta file)
    | some .build, file => .run (.build (file.getD "litpage.toml"))
    | _, _ => .misuse

/-- Help is given on the program, on one command, and on help itself. -/
def helpOn : List String → Invocation
  | [] => .help
  | [name] => if (command? name).isSome || name = "help" then .help else .misuse
  | _ => .misuse

def State.read (state : State) : List String → Invocation
  | [] => state.finish
  | argument :: rest => match state.take argument with
      | .more state => state.read rest
      | .helpOn => helpOn rest
      | .stop invocation => invocation

end Arguments

def Invocation.ofArguments (arguments : List String) : Invocation :=
  Arguments.State.read {} arguments

example : Invocation.ofArguments ["-v", "html", "a", "-oout", "--no-color"] =
    .run (.html "a" (some "out")) := by decide +kernel
example : Invocation.ofArguments ["html", "a", "--output", "-x"] = .misuse := by decide +kernel
example : Invocation.ofArguments ["meta", "--", "-x"] = .run (.showMeta "-x") := by decide +kernel

end LiteratePages
