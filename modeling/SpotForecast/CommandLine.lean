import SpotForecast.Decimal.Reading
import SpotForecast.Decimal.Width
import SpotForecast.Text.Pieces

/-!
# The command line

`CommandLine.parse` reads the arguments of the program: a command, its options, and the name of a
settings file, which may stand before or after the command.

* An option is written `--name value`, `--name=value`, `-n value`, `-nvalue` or `-n=value`.  A
  value that is an argument of its own does not start with a hyphen, unless it is nothing else.
* An option may be given once, and its value is checked there and then.  The name of the settings
  file may be given once on either side of the command; the one after it counts.
* Anything that is unknown, missing, superfluous or malformed is refused.
-/

namespace SpotForecast.CommandLine

/-- What the value of an option has to be. -/
inductive ValueShape where
  | text
  | path
  /-- A natural number of at most 64 bits. -/
  | number
deriving DecidableEq, Repr

/-- The number that a value denotes. -/
def number? (value : String) : Option Nat :=
  match Decimal.readNatural value.toList with
  | some n => if n < Decimal.limit64 then some n else none
  | none => none

/-- Whether a value has a shape. -/
def ValueShape.fits (value : String) : ValueShape → Bool
  | text => true
  | path => value != ""
  | number => (number? value).isSome

/-- An option that a command has. -/
structure OptionShape where
  name : String
  letter : Option Char
  value : Option ValueShape
deriving DecidableEq, Repr

/-- Why there is no command to carry out. -/
inductive Ending where
  | refused
  | version
  | help
deriving DecidableEq, Repr

/-- A command with what it needs. -/
inductive Request where
  /-- Forecasts for a category, for all categories, or for neither. -/
  | forecast (category : Option String) (all : Bool)
  | categories
  | resample (input : String) (tail : Option Nat)
  | lags (input category : String) (tail : Option Nat)
  | inspectTree (identifier : String)
deriving DecidableEq, Repr

/-- What the arguments ask for. -/
structure Invocation where
  settings : Option String
  request : Request
deriving DecidableEq, Repr

/-- What an argument is. -/
inductive Argument where
  | word
  /-- An option with its value; one that takes none has an empty value. -/
  | complete (shape : OptionShape) (value : String)
  /-- An option whose value is the next argument. -/
  | open (shape : OptionShape)

/-- An option with the value that stands behind it. -/
def withValue (shape : OptionShape) (value : Option (List Char)) : Except Ending Argument :=
  match shape.value, value with
  | some _, some v => .ok (.complete shape (String.ofList v))
  | some _, none => .ok (.open shape)
  | none, none => .ok (.complete shape "")
  | none, some _ => .error .refused

/-- An argument that starts with two hyphens, without them. -/
def longArgument (top : Bool) (shapes : List OptionShape) (cs : List Char) :
    Except Ending Argument :=
  let name := String.ofList (cs.takeWhile (· != '='))
  let value := match cs.dropWhile (· != '=') with
    | _ :: v => some v
    | [] => none
  match shapes.find? (fun o => o.name == name) with
  | some shape => withValue shape value
  | none =>
    if value.isSome then .error .refused
    else if name = "help" then .error .help
    else if name = "version" ∧ top then .error .version
    else .error .refused

/-- An argument that starts with one hyphen, without it. -/
def shortArgument (top : Bool) (shapes : List OptionShape) (letter : Char) (rest : List Char) :
    Except Ending Argument :=
  match shapes.find? (fun o => o.letter == some letter) with
  | some shape =>
    match rest with
    | [] => withValue shape none
    | '=' :: v => withValue shape (some v)
    | v => withValue shape (some v)
  | none =>
    if letter = 'h' then .error .help
    else if letter = 'V' ∧ top then .error .version
    else .error .refused

/-- What an argument is. -/
def classify (top : Bool) (shapes : List OptionShape) (arg : String) : Except Ending Argument :=
  match arg.toList with
  | '-' :: '-' :: cs => longArgument top shapes cs
  | '-' :: letter :: rest => shortArgument top shapes letter rest
  | _ => .ok .word

/-- Whether an argument cannot be the value of the option before it. -/
def isHyphened (arg : String) : Bool :=
  match arg.toList with
  | '-' :: _ :: _ => true
  | _ => false

/-- The options that were given, with their values. -/
abbrev Given := List (String × String)

/-- One more option.  It must not have been given before, and its value has to fit. -/
def give (shape : OptionShape) (value : String) (given : Given) : Except Ending Given :=
  if (given.lookup shape.name).isSome then .error .refused
  else if shape.value.all (ValueShape.fits value) then .ok (given ++ [(shape.name, value)])
  else .error .refused

/-- The options at the start of arguments, and the arguments from the first word on. -/
def options (top : Bool) (shapes : List OptionShape) (given : Given) :
    List String → Except Ending (Given × List String)
  | [] => .ok (given, [])
  | arg :: rest =>
    if arg = "--" then if rest.isEmpty then .ok (given, []) else .error .refused
    else
      match classify top shapes arg with
      | .error e => .error e
      | .ok .word => .ok (given, arg :: rest)
      | .ok (.complete shape value) =>
        match give shape value given with
        | .error e => .error e
        | .ok given => options top shapes given rest
      | .ok (.open shape) =>
        match rest with
        | [] => .error .refused
        | value :: rest =>
          if isHyphened value then .error .refused
          else
            match give shape value given with
            | .error e => .error e
            | .ok given => options top shapes given rest

/-- The option with the name of the settings file. -/
def settingsShape : OptionShape := ⟨"config", none, some .text⟩

/-- The option with the file of a feed. -/
def inputShape : OptionShape := ⟨"input", some 'i', some .path⟩

/-- The option with a category. -/
def categoryShape : OptionShape := ⟨"category", some 'c', some .text⟩

/-- The option with the number of rows that are printed. -/
def tailShape : OptionShape := ⟨"tail", none, some .number⟩

/-- The options of every command. -/
def shapesOf : String → Option (List OptionShape)
  | "forecast" => some [categoryShape, ⟨"all", none, none⟩]
  | "categories" => some []
  | "resample" => some [inputShape, tailShape]
  | "lags" => some [inputShape, categoryShape, tailShape]
  | "inspect-tree" => some [⟨"id", none, some .text⟩]
  | _ => none

/-- The value of an option that has to be given. -/
def required (name : String) (given : Given) : Except Ending String :=
  match given.lookup name with
  | some v => .ok v
  | none => .error .refused

/-- The number of an option that may be given. -/
def optionalNat (name : String) (given : Given) : Option Nat :=
  (given.lookup name).bind number?

/-- The command with a name and options. -/
def request (command : String) (given : Given) : Except Ending Request :=
  match command with
  | "forecast" =>
    let category := given.lookup "category"
    let all := (given.lookup "all").isSome
    if category.isSome && all then .error .refused else .ok (.forecast category all)
  | "categories" => .ok .categories
  | "resample" => do pure (.resample (← required "input" given) (optionalNat "tail" given))
  | "lags" => do
    pure (.lags (← required "input" given) (← required "category" given)
      (optionalNat "tail" given))
  | "inspect-tree" => do pure (.inspectTree (← required "id" given))
  | _ => .error .refused

/-- What the word `help` asks for with the arguments behind it: help, perhaps on one command. -/
def helpOn : List String → Ending
  | [] => .help
  | [command] => if command = "help" ∨ (shapesOf command).isSome then .help else .refused
  | _ => .refused

/-- What arguments ask for. -/
def parse (args : List String) : Except Ending Invocation := do
  let (before, rest) ← options true [settingsShape] [] args
  match rest with
  | [] => .error .refused
  | command :: rest =>
    match shapesOf command with
    | none => .error (if command = "help" then helpOn rest else .refused)
    | some shapes => do
      let (after, rest) ← options false (settingsShape :: shapes) [] rest
      if !rest.isEmpty then .error .refused
      else
        let name := match after.lookup settingsShape.name with
          | some name => some name
          | none => before.lookup settingsShape.name
        pure ⟨name, ← request command after⟩

end SpotForecast.CommandLine
