import MeshRegistry.CommandLine.Argument

/-!
# Command lines

A command line is read from left to right.  A long option takes the argument behind it or what stands
behind its equals sign; its value is checked when the next option is met, or at the end.  An
argument that looks like an option is never taken as a value.  Every value has to be a text.
-/

namespace MeshRegistry.CommandLine

inductive UsageError where
  | unknownArgument
  | argumentConflict
  | tooManyValues
  | invalidUtf8
  | invalidValue
  | missingValue
  | missingRequired
  | unknownCommand
  | missingCommand
  | help
  | version
  | helpForNothing
deriving DecidableEq, Repr

/-- A long option: a flag, or one with a value that has to pass a check. -/
structure Opt where
  name : String
  takesValue : Bool
  accepts : String → Bool

def Opt.flag (name : String) : Opt := ⟨name, false, fun _ => true⟩

def Opt.text (name : String) : Opt := ⟨name, true, fun _ => true⟩

def Opt.checked (name : String) (accepts : String → Bool) : Opt := ⟨name, true, accepts⟩

structure Spec where
  options : List Opt
  hasVersion : Bool
  positionals : Nat
  commands : List String

structure Progress where
  given : List (String × String)
  pending : Option (Opt × Option Argument)
  positionals : List Argument
  isLiteral : Bool

namespace Progress

def start : Progress := ⟨[], none, [], false⟩

def awaitsValue (p : Progress) : Bool :=
  match p.pending with
  | some (_, none) => true
  | _ => false

/-- Takes an option on, unless it was given before. -/
def take (p : Progress) (o : Opt) (value : Argument) : Except UsageError Progress :=
  if p.given.any (·.1 = o.name) then .error .argumentConflict
  else
    match value with
    | .bytes .. => .error .invalidUtf8
    | .text value =>
      if !o.accepts value then .error .invalidValue
      else .ok { p with given := p.given ++ [(o.name, value)], pending := none }

/-- Checks the values without an option, then takes the option on whose value was still open. -/
def resolve (p : Progress) : Except UsageError Progress :=
  if !p.positionals.all (·.text?.isSome) then .error .invalidUtf8
  else
    match p.pending with
    | none => .ok p
    | some (_, none) => .error .missingValue
    | some (o, some value) => p.take o value

def value? (p : Progress) (name : String) : Option String :=
  (p.given.find? (·.1 = name)).map (·.2)

end Progress

namespace Spec

/-- The value with which a flag counts as given. -/
def present : Argument := .text "true"

/-- Asks for help or for the version, once all that stands before it is right. -/
def asked (p : Progress) (e : UsageError) : UsageError :=
  match p.resolve with
  | .error e => e
  | .ok _ => e

def long (spec : Spec) (p : Progress) (name : String) (value : Option Argument) :
    Except UsageError Progress :=
  match spec.options.find? (·.name = name) with
  | some o =>
    if o.takesValue then do
      let p ← match value with
        | some v => (← p.resolve).take o v
        | none => p.resolve
      return if value.isSome then p else { p with pending := some (o, none) }
    else if value.isSome then .error .tooManyValues
    else do (← p.resolve).take o present
  | none =>
    if name = "help" then .error (if value.isSome then .tooManyValues else asked p .help)
    else if name = "version" ∧ spec.hasVersion then
      .error (if value.isSome then .tooManyValues else asked p .version)
    else .error .unknownArgument

/-- Short options: the first letter decides, since none of them can be followed by another. -/
def short (spec : Spec) (p : Progress) (letter : Option Char) : UsageError :=
  match letter with
  | some 'h' => asked p .help
  | some 'V' => if spec.hasVersion then asked p .version else .unknownArgument
  | _ => .unknownArgument

/-- The command that an argument names. -/
def command? (spec : Spec) (arg : Argument) : Option String :=
  arg.text?.filter spec.commands.contains

def positional (spec : Spec) (p : Progress) (arg : Argument) : Except UsageError Progress :=
  if p.positionals.length < spec.positionals then do
    let p ← p.resolve
    return { p with positionals := p.positionals ++ [arg] }
  else if spec.commands.isEmpty then .error .unknownArgument
  else if p.isLiteral ∧ (spec.command? arg).isSome then .error .unknownArgument
  else .error .unknownCommand

def argument (spec : Spec) (p : Progress) (arg : Argument) : Except UsageError Progress :=
  if p.isLiteral then spec.positional p arg
  else if arg = .text "--" then .ok { p with isLiteral := true }
  else
    match arg.long?, arg.short?, p.pending with
    | some (some name, value), _, _ => spec.long p name value
    | some (none, _), _, _ => .error .unknownArgument
    | none, some letter, _ => .error (spec.short p letter)
    | none, none, some (o, none) => .ok { p with pending := some (o, some arg) }
    | none, none, _ => spec.positional p arg

/-- Reads arguments up to a command, and gives the command and what stands behind it. -/
def scan (spec : Spec) : Progress → List Argument →
    Except UsageError (Progress × Option (String × List Argument))
  | p, [] => .ok (p, none)
  | p, arg :: rest =>
    match if p.isLiteral || p.awaitsValue then none else spec.command? arg with
    | some name => .ok (p, some (name, rest))
    | none =>
      match spec.argument p arg with
      | .error e => .error e
      | .ok p => spec.scan p rest

def read (spec : Spec) (args : List Argument) : Except UsageError Progress := do
  let (p, _) ← spec.scan .start args
  p.resolve

end Spec

/-- A whole number with or without a sign, if it is a port. -/
def port? (s : String) : Option Nat :=
  let (isNegative, digits) := match s.toList with
    | '-' :: rest => (true, rest)
    | '+' :: rest => (false, rest)
    | rest => (false, rest)
  let n := Nat.ofDigitChars 10 digits 0
  if digits.isEmpty ∨ !digits.all Char.isDigit ∨ 65535 < n ∨ isNegative ∧ n ≠ 0 then none
  else some n

end MeshRegistry.CommandLine
