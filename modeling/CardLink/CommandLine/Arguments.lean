import CardLink.CommandLine.HexArgument
import CardLink.Connection.Settings
import CardLink.Text.Number

/-!
# Arguments

Arguments are read from the left. Options stand before the subcommand or among its arguments, each in the
list where it belongs. A short option takes its value from the rest of the argument, with or without an
equals sign, or from the next argument; a long option from behind an equals sign or from the next
argument. The next argument is a value unless it looks like an option itself. No option may be given
twice. After a double dash all arguments are plain. The first fault decides, unless help or the version was
asked for before it. A value in an argument of its own is looked at when the next option is met, or else at
the end: where the subcommand follows it, the subcommand comes first.
-/

namespace CardLink.CommandLine

inductive MainOption where
  | cardType | reader | readerIndex | aid | noSelect | remote | remotePort | timeout
  | noFixLc | fixNe | defaultNe | debug | verbose | help | version
  deriving DecidableEq, Repr

inductive SendOption where
  | repeats | help
  deriving DecidableEq, Repr

inductive ServeOption where
  | host | port | reversed | help
  deriving DecidableEq, Repr

/-- An option: its short and long names and whether it takes a value. -/
structure OptionForm (ι : Type) where
  option : ι
  short : Option Char
  long : String
  takesValue : Bool
  deriving Repr

def mainForms : List (OptionForm MainOption) := [
  ⟨.cardType, some 't', "card-type", true⟩,
  ⟨.reader, some 'r', "reader", true⟩,
  ⟨.readerIndex, some 'i', "reader-index", true⟩,
  ⟨.aid, some 'a', "aid", true⟩,
  ⟨.noSelect, none, "no-select", false⟩,
  ⟨.remote, none, "remote", true⟩,
  ⟨.remotePort, none, "remote-port", true⟩,
  ⟨.timeout, none, "timeout", true⟩,
  ⟨.noFixLc, none, "no-fix-lc", false⟩,
  ⟨.fixNe, none, "fix-ne", false⟩,
  ⟨.defaultNe, none, "default-ne", true⟩,
  ⟨.debug, some 'd', "debug", false⟩,
  ⟨.verbose, some 'v', "verbose", false⟩,
  ⟨.help, some 'h', "help", false⟩,
  ⟨.version, some 'V', "version", false⟩]

def sendForms : List (OptionForm SendOption) := [
  ⟨.repeats, some 'n', "repeat", true⟩,
  ⟨.help, some 'h', "help", false⟩]

def serveForms : List (OptionForm ServeOption) := [
  ⟨.host, some 'H', "host", true⟩,
  ⟨.port, some 'P', "port", true⟩,
  ⟨.reversed, some 'R', "reversed", false⟩,
  ⟨.help, some 'h', "help", false⟩]

/-! ## From arguments to tokens -/

/-- What an argument means. The fault ends the list of tokens. -/
inductive Token (ι : Type) where
  /-- Carries whether the value stands apart, in an argument of its own. -/
  | option (id : ι) (value : String) (apart : Bool)
  | plain (text : String)
  | fault
  deriving Repr

/-- Whether the argument cannot be the value of an option before it. -/
def looksLikeOption (argument : String) : Bool :=
  match argument.toList with
  | '-' :: _ :: _ => true
  | _ => false

/-- The tokens of one argument with options, and the option that waits for the next argument. -/
abbrev OptionTokens (ι : Type) : Type := List (Token ι) × Option ι

def longOption {ι : Type} (forms : List (OptionForm ι)) (body : List Char) : OptionTokens ι :=
  let name := String.ofList (body.takeWhile (· ≠ '='))
  let value := (body.dropWhile (· ≠ '=')).drop 1
  let attached := body.contains '='
  match forms.find? (·.long == name) with
  | none => ([.fault], none)
  | some form =>
    if form.takesValue then
      if attached then ([.option form.option (String.ofList value) false], none)
      else ([], some form.option)
    else if attached then ([.fault], none)
    else ([.option form.option "" false], none)

def shortOptions {ι : Type} (forms : List (OptionForm ι)) : List Char → OptionTokens ι
  | [] => ([], none)
  | c :: rest =>
    match forms.find? (·.short == some c) with
    | none => ([.fault], none)
    | some form =>
      if form.takesValue then
        match rest with
        | [] => ([], some form.option)
        | '=' :: value => ([.option form.option (String.ofList value) false], none)
        | value => ([.option form.option (String.ofList value) false], none)
      else
        let (tokens, waiting) := shortOptions forms rest
        (.option form.option "" false :: tokens, waiting)

/-- How an argument reads when no option waits for a value. -/
inductive Reading (ι : Type) where
  | plain
  | dashes
  | options (tokens : OptionTokens ι)

def readArgument {ι : Type} (forms : List (OptionForm ι)) (argument : String) : Reading ι :=
  match argument.toList with
  | ['-', '-'] => .dashes
  | '-' :: '-' :: body => .options (longOption forms body)
  | '-' :: c :: rest => .options (shortOptions forms (c :: rest))
  | _ => .plain

/-- The tokens of all arguments. Where a plain argument ends the list, it is the last token and what
stands behind it is given back. -/
def tokens {ι : Type} (forms : List (OptionForm ι)) (stopAtPlain : Bool) (waiting : Option ι) :
    List String → List (Token ι) × List String
  | [] => (match waiting with | none => [] | some _ => [.fault], [])
  | argument :: rest =>
    match waiting with
    | some id =>
      if looksLikeOption argument then ([.fault], [])
      else
        let (more, left) := tokens forms stopAtPlain none rest
        (.option id argument true :: more, left)
    | none =>
      match readArgument forms argument with
      | .plain =>
        if stopAtPlain then ([.plain argument], rest)
        else
          let (more, left) := tokens forms stopAtPlain none rest
          (.plain argument :: more, left)
      | .dashes =>
        if stopAtPlain then (if rest = [] then ([], []) else ([.fault], []))
        else (rest.map .plain, [])
      | .options (these, waiting) =>
        let (more, left) := tokens forms stopAtPlain waiting rest
        (these ++ more, left)

/-! ## From tokens to an invocation -/

structure MainOptions where
  kind : CardKind := .physical
  reader : Option String := none
  readerIndex : Nat := 0
  aid : Option Bytes := none
  noSelect : Bool := false
  remote : Option String := none
  remotePort : Nat := VirtualCard.defaultPort
  /-- In seconds. -/
  timeout : Option Nat := none
  noFixLc : Bool := false
  fixNe : Bool := false
  defaultNe : Option Nat := none
  debug : Bool := false
  verbose : Bool := false
  deriving DecidableEq, Repr

structure ServeOptions where
  host : String := "127.0.0.1"
  port : Nat := VirtualCard.defaultPort
  /-- Wait for the reader instead of dialling it. -/
  reversed : Bool := false
  deriving DecidableEq, Repr

inductive Action where
  | readers
  | atr
  | send (apdus : List Bytes) (repeats : Nat)
  | serve (options : ServeOptions)
  deriving DecidableEq, Repr

structure Invocation where
  options : MainOptions
  action : Action
  deriving DecidableEq, Repr

/-- Why there is nothing to run. -/
inductive Stop where
  | usage | help | version
  deriving DecidableEq, Repr

def hexValue (value : String) : Option Bytes := (parseHex value).toOption

def setMain (id : MainOption) (value : String) (o : MainOptions) : Except Stop MainOptions :=
  let take {α : Type} (parsed : Option α) (set : α → MainOptions) : Except Stop MainOptions :=
    match parsed with
    | none => .error .usage
    | some a => .ok (set a)
  match id with
  | .cardType => take (CardKind.ofName? value) fun kind => { o with kind }
  | .reader => .ok { o with reader := some value }
  | .readerIndex => take (Text.unsignedBelow? Text.limit64 value) fun n => { o with readerIndex := n }
  | .aid => take (hexValue value) fun aid => { o with aid := some aid }
  | .noSelect => .ok { o with noSelect := true }
  | .remote => .ok { o with remote := some value }
  | .remotePort => take (Text.rangedBelow? Text.limit16 value) fun n => { o with remotePort := n }
  | .timeout => take (Text.unsignedBelow? Text.limit64 value) fun n => { o with timeout := some n }
  | .noFixLc => .ok { o with noFixLc := true }
  | .fixNe => .ok { o with fixNe := true }
  | .defaultNe => take (Text.rangedBelow? Text.limit16 value) fun n => { o with defaultNe := some n }
  | .debug => .ok { o with debug := true }
  | .verbose => .ok { o with verbose := true }
  | .help => .error .help
  | .version => .error .version

def setServe (id : ServeOption) (value : String) (o : ServeOptions) : Except Stop ServeOptions :=
  match id with
  | .host => .ok { o with host := value }
  | .port =>
    match Text.rangedBelow? Text.limit16 value with
    | none => .error .usage
    | some port => .ok { o with port }
  | .reversed => .ok { o with reversed := true }
  | .help => .error .help

/-- What `send` was given so far. -/
structure SendArguments where
  repeats : Nat := 1
  apdus : List Bytes := []
  deriving DecidableEq, Repr

def setSend (id : SendOption) (value : String) (a : SendArguments) : Except Stop SendArguments :=
  match id with
  | .repeats =>
    match Text.rangedBelow? Text.limit32 value with
    | none => .error .usage
    | some repeats => .ok { a with repeats }
  | .help => .error .help

def addApdu (text : String) (a : SendArguments) : Except Stop SendArguments :=
  match hexValue text with
  | none => .error .usage
  | some apdu => .ok { a with apdus := a.apdus ++ [apdu] }

def noPlain {σ : Type} (_ : String) (_ : σ) : Except Stop σ := .error .usage

/-- Goes through the tokens in order. An option that was seen before is a fault. -/
def interpret {ι σ : Type} [DecidableEq ι] (set : ι → String → σ → Except Stop σ)
    (plain : String → σ → Except Stop σ) (seen : List ι) (state : σ) :
    List (Token ι) → Except Stop σ
  | [] => .ok state
  | .fault :: _ => .error .usage
  | .plain text :: rest =>
    match plain text state with
    | .error stop => .error stop
    | .ok state => interpret set plain seen state rest
  | .option id value _ :: rest =>
    if id ∈ seen then .error .usage
    else
      match set id value state with
      | .error stop => .error stop
      | .ok state => interpret set plain (id :: seen) state rest

/-- A subcommand that takes no arguments besides a request for help. -/
def bareAction (action : Action) (arguments : List String) : Except Stop Action :=
  let forms : List (OptionForm Unit) := [⟨(), some 'h', "help", false⟩]
  match interpret (fun _ _ _ => .error .help) noPlain [] () (tokens forms false none arguments).1 with
  | .error stop => .error stop
  | .ok () => .ok action

def sendAction (arguments : List String) : Except Stop Action :=
  match interpret setSend addApdu [] {} (tokens sendForms false none arguments).1 with
  | .error stop => .error stop
  | .ok a => if a.apdus = [] then .error .usage else .ok (.send a.apdus a.repeats)

def serveAction (arguments : List String) : Except Stop Action :=
  match interpret setServe noPlain [] {} (tokens serveForms false none arguments).1 with
  | .error stop => .error stop
  | .ok o => .ok (.serve o)

def subcommandNames : List String := ["readers", "atr", "send", "vicc", "help"]

/-- The action of a subcommand. -/
def actionOf (name : String) (arguments : List String) : Except Stop Action :=
  if name = "readers" then bareAction .readers arguments
  else if name = "atr" then bareAction .atr arguments
  else if name = "send" then sendAction arguments
  else if name = "vicc" then serveAction arguments
  else if name = "help" then
    match arguments with
    | [] => .error .help
    | [topic] => .error (if topic ∈ subcommandNames then .help else .usage)
    | _ => .error .usage
  else .error .usage

/-- The options that are looked at before the subcommand. -/
def settled {ι : Type} (options : List (Token ι)) : List (Token ι) :=
  match options.getLast? with
  | some (.option _ _ true) => options.dropLast
  | _ => options

/-- Reads the arguments of the program. A subcommand is required. -/
def parse (arguments : List String) : Except Stop Invocation :=
  let (toks, left) := tokens mainForms true none arguments
  let read := interpret setMain noPlain [] {}
  match toks.getLast? with
  | some (.plain name) =>
    match read (settled toks.dropLast) with
    | .error stop => .error stop
    | .ok _ =>
      match actionOf name left with
      | .error stop => .error stop
      | .ok action => (read toks.dropLast).map fun options => { options, action }
  | _ =>
    match read toks with
    | .error stop => .error stop
    | .ok _ => .error .usage

end CardLink.CommandLine
