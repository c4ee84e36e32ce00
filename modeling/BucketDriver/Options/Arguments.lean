import BucketDriver.Options.Basic

/-!
# Arguments

Options from the arguments of the program and from its environment. An argument is a flag with or
without a value of its own, some letters behind a dash, the separator of two dashes, or a plain
value. A flag without a value waits for the next argument. What waits is looked at when the next
known flag or the end comes, so an unknown flag is reported before a bad value that waits in front
of it, and a value of a flag's own is looked at at once.

Variables count for settings without a flag, and are looked at after all arguments.
-/

namespace BucketDriver

/-- What an argument is by its form. -/
inductive Argument where
  /-- A flag, perhaps with a value behind an equals sign. -/
  | flag (name : String) (value : Option String)
  /-- Letters behind one dash. -/
  | letters (first : Char)
  /-- Two dashes alone. -/
  | separator
  /-- Anything else, a lone dash included. -/
  | plain (value : String)
  deriving DecidableEq, Repr

/-- The form of an argument. -/
def Argument.ofText (s : String) : Argument :=
  match s.toList with
  | ['-', '-'] => .separator
  | '-' :: '-' :: cs =>
    match cs.dropWhile (· ≠ '=') with
    | _ :: value => .flag (String.ofList (cs.takeWhile (· ≠ '='))) (some (String.ofList value))
    | [] => .flag (String.ofList cs) none
  | '-' :: c :: _ => .letters c
  | _ => .plain s

namespace Options

/-- What has been made of the arguments so far. -/
structure Progress where
  /-- The options. -/
  options : Options
  /-- The settings that were given. -/
  given : List Setting
  /-- The flag that waits to be looked at, with its value when that has come. -/
  waiting : Option (Setting × Option String)
  deriving DecidableEq, Repr

namespace Progress

/-- Nothing has been looked at. -/
def start : Progress := ⟨.default, [], none⟩

/-- Gives a setting a value, which must be there, for the first time. -/
def give (p : Progress) (s : Setting) (value : Option String) : Except UsageError Progress :=
  match value with
  | none => .error .invalidValue
  | some v =>
    if p.given.contains s then .error .argumentConflict
    else do return ⟨← s.assign p.options v, s :: p.given, none⟩

/-- Looks at the flag that waits. -/
def settle (p : Progress) : Except UsageError Progress :=
  match p.waiting with
  | none => .ok p
  | some (s, value) => p.give s value

/-- The end of the way for those who ask for help, unless the flag that waits is in the way. -/
def help (p : Progress) : Except UsageError Progress := do
  let _ ← p.settle
  throw .helpWanted

/-- Takes a flag into account. -/
def takeFlag (p : Progress) (name : String) (value : Option String) :
    Except UsageError Progress :=
  if name = "help" then
    match value with
    | none => p.help
    | some _ => .error .tooManyValues
  else
    match Setting.ofFlag? name, value with
    | none, _ => .error .unknownArgument
    -- The flag that waits comes first, then the value of this one.
    | some s, some v => do (← p.settle).give s (some v)
    | some s, none => do return { ← p.settle with waiting := some (s, none) }

/-- Takes a plain value into account: it is for the flag that waits for one. -/
def takePlain (p : Progress) (value : String) : Except UsageError Progress :=
  match p.waiting with
  | some (s, none) => .ok { p with waiting := some (s, some value) }
  | _ => .error .unknownArgument

/-- Goes through the arguments; nothing may stand behind the separator. -/
def run (p : Progress) : List String → Except UsageError Progress
  | [] => p.settle
  | arg :: rest => do
    match Argument.ofText arg with
    | .flag name value => run (← p.takeFlag name value) rest
    | .letters c => if c = 'h' then p.help else throw .unknownArgument
    | .separator => if rest = [] then p.settle else throw .unknownArgument
    | .plain value => run (← p.takePlain value) rest

end Progress

/-- The options with the variables of those settings that no flag has given. -/
def withVariables (environment : String → Option String) (given : List Setting) :
    List Setting → Options → Except UsageError Options
  | [], o => .ok o
  | s :: rest, o =>
    match environment s.variableName with
    | some value =>
      -- A flag wins over its variable, which is not even looked at.
      if given.contains s then withVariables environment given rest o
      else do withVariables environment given rest (← s.assign o value)
    | none => withVariables environment given rest o

/-- The options of a call of the program. -/
def ofCall (arguments : List String) (environment : String → Option String) :
    Except UsageError Options := do
  let p ← Progress.start.run arguments
  withVariables environment p.given Setting.all p.options

end Options

end BucketDriver
