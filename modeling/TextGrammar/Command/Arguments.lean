import TextGrammar.Report.Basic
/-!
# Command-line arguments

Options stand before or after the words they belong to, in a long or a short form. Each may be
given once on a level; `--` ends the options.
-/
namespace TextGrammar.Command

inductive Source where
  | text (text : String)
  | file (path : String)
  | stdin
deriving DecidableEq, Repr

inductive Action where
  | greet
  | version
  | check (grammar : String)
  | parse (grammar : String) (rule : Option String) (strict : Bool) (source : Source)
deriving DecidableEq, Repr

structure Invocation where
  verbose : Bool
  mode : OutputMode
  action : Action
deriving DecidableEq, Repr

inductive Request where
  | run (invocation : Invocation)
  | help
  | version
deriving DecidableEq, Repr

inductive Setting where
  | verbose
  | json
  | help
  | version
  | grammar
  | rule
  | strict
  | text
  | input
deriving DecidableEq, Repr

structure OptionForm where
  setting : Setting
  long : String
  short : Option Char := none
  takesValue : Bool := false

/-- The options and the operand that are understood at one place. -/
structure Scope where
  options : List OptionForm
  operand : Option Setting := none

namespace Scope

private def help : OptionForm := { setting := .help, long := "help", short := some 'h' }

private def everywhere : List OptionForm :=
  [help, { setting := .verbose, long := "verbose", short := some 'v' },
    { setting := .json, long := "json" }]

private def grammar : OptionForm :=
  { setting := .grammar, long := "grammar", short := some 'g', takesValue := true }

def program : Scope where
  options := { setting := .version, long := "version", short := some 'V' } :: everywhere

def parse : Scope where
  options := grammar
    :: { setting := .rule, long := "rule", short := some 'r', takesValue := true }
    :: { setting := .strict, long := "strict" }
    :: { setting := .text, long := "text", short := some 't', takesValue := true } :: everywhere
  operand := some .input

def check : Scope where
  options := grammar :: everywhere

def version : Scope where
  options := everywhere

end Scope

inductive Halt where
  | misuse
  | help
  | version
deriving DecidableEq, Repr

structure Progress where
  settings : List (Setting × String) := []
  /-- The option whose value comes next. -/
  pending : Option Setting := none
  operandsOnly : Bool := false

namespace Progress

private def get? (progress : Progress) (setting : Setting) : Option String :=
  progress.settings.lookup setting

private def has (progress : Progress) (setting : Setting) : Bool := (progress.get? setting).isSome

/-- No option may lack its value. -/
private def settle (progress : Progress) : Except Halt Progress :=
  if progress.pending.isSome then .error .misuse else .ok progress

/-- Nothing is set twice, and no path is empty. -/
private def assign (progress : Progress) (setting : Setting) (value : String) :
    Except Halt Progress :=
  match setting with
  | .help => .error .help
  | .version => .error .version
  | _ =>
    if progress.has setting then .error .misuse
    else if (setting = .grammar ∨ setting = .input) ∧ value = "" then .error .misuse
    else .ok { progress with settings := (setting, value) :: progress.settings, pending := none }

private def readOperand (scope : Scope) (progress : Progress) (word : List Char) :
    Except Halt Progress :=
  match scope.operand with
  | some setting => progress.assign setting (String.ofList word)
  | none => .error .misuse

private def readLong (scope : Scope) (progress : Progress) (word : List Char) :
    Except Halt Progress :=
  let name := word.takeWhile (· != '=')
  match scope.options.find? fun form => form.long.toList = name, word.dropWhile (· != '=') with
  | none, _ => .error .misuse
  | some form, [] =>
    if form.takesValue then .ok { progress with pending := some form.setting }
    else progress.assign form.setting ""
  | some form, _ :: value =>
    if form.takesValue then progress.assign form.setting (String.ofList value)
    else .error .misuse

/-- Letters may share a hyphen; the first that takes a value takes the rest of the word. -/
private def readShort (scope : Scope) (progress : Progress) : List Char → Except Halt Progress
  | [] => .ok progress
  | c :: word =>
    match scope.options.find? fun form => form.short = some c with
    | none => .error .misuse
    | some form =>
      if form.takesValue then
        match word with
        | [] => .ok { progress with pending := some form.setting }
        | '=' :: value => progress.assign form.setting (String.ofList value)
        | value => progress.assign form.setting (String.ofList value)
      else
        match progress.assign form.setting "" with
        | .ok progress => readShort scope progress word
        | .error halt => .error halt

/-- A hyphen alone and the empty word are no options. -/
private def looksLikeOption : List Char → Bool
  | '-' :: _ :: _ => true
  | _ => false

private def readWord (scope : Scope) (progress : Progress) (word : List Char) :
    Except Halt Progress :=
  if progress.operandsOnly then do readOperand scope (← progress.settle) word
  else
    match word with
    | ['-', '-'] => .ok { progress with operandsOnly := true }
    | '-' :: '-' :: name => do readLong scope (← progress.settle) name
    | '-' :: c :: rest => do readShort scope (← progress.settle) (c :: rest)
    | _ =>
      match progress.pending with
      | some setting => progress.assign setting (String.ofList word)
      | none => readOperand scope progress word

private def readLevel (scope : Scope) (words : List String) : Except Halt Progress := do
  (← words.foldlM (fun progress word => readWord scope progress word.toList) {}).settle

private def readProgram (progress : Progress) :
    List String → Except Halt (Progress × Option (String × List String))
  | [] => .ok (progress, none)
  | word :: words =>
    if !progress.operandsOnly && !looksLikeOption word.toList then
      .ok (progress, some (word, words))
    else
      match readWord .program progress word.toList with
      | .ok progress => readProgram progress words
      | .error halt => .error halt

private def checkAction (progress : Progress) : Except Halt Action :=
  match progress.get? .grammar with
  | some grammar => .ok (.check grammar)
  | none => .error .misuse

private def parseAction (progress : Progress) : Except Halt Action :=
  let source : Except Halt Source :=
    match progress.get? .text, progress.get? .input with
    | some _, some _ => .error .misuse
    | some text, none => .ok (.text text)
    | none, some path => .ok (if path = "-" then .stdin else .file path)
    | none, none => .ok .stdin
  match progress.get? .grammar, source with
  | some grammar, .ok source =>
    .ok (.parse grammar (progress.get? .rule) (progress.has .strict) source)
  | _, _ => .error .misuse

/-- Flags that are understood everywhere may stand on either level, or on both. -/
private def invocation (outer inner : Progress) (action : Action) : Invocation where
  verbose := outer.has .verbose || inner.has .verbose
  mode := if outer.has .json || inner.has .json then .json else .human
  action := action

private def readInvocation (words : List String) : Except Halt Invocation := do
  let (outer, command) ← readProgram {} words
  match command with
  | none => return invocation outer {} .greet
  | some ("parse", words) =>
    let inner ← readLevel .parse words
    return invocation outer inner (← inner.parseAction)
  | some ("check", words) =>
    let inner ← readLevel .check words
    return invocation outer inner (← inner.checkAction)
  | some ("version", words) =>
    let inner ← readLevel .version words
    return invocation outer inner .version
  | some ("help", []) => .error .help
  | some ("help", [topic]) =>
    if topic ∈ ["parse", "check", "version", "help"] then .error .help else .error .misuse
  | some _ => .error .misuse

end Progress

def Request.ofArguments (arguments : List String) : Option Request :=
  match Progress.readInvocation arguments with
  | .ok invocation => some (.run invocation)
  | .error .help => some .help
  | .error .version => some .version
  | .error .misuse => none

end TextGrammar.Command
