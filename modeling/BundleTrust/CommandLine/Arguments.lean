/-!
# Arguments of commands

The options and positional arguments of a command.  An option has a long name after two
dashes and perhaps a letter after one dash, and its value follows it or is attached to it.
After two dashes alone there are only positional arguments.
-/

namespace BundleTrust
namespace CommandLine

/-- What follows an option. -/
inductive OptionValue where
  /-- Nothing: the option is a switch. -/
  | none
  /-- A text. -/
  | text
  /-- A path, which is not empty. -/
  | path
  deriving DecidableEq, Repr

/-- An option of a command. -/
structure OptionForm where
  /-- The long name. -/
  name : String
  /-- The letter, if there is one. -/
  letter : Option Char
  /-- What follows it. -/
  value : OptionValue
  /-- Whether it may be given more than once. -/
  mayRepeat : Bool
  deriving DecidableEq, Repr

/-- What a command accepts. -/
structure CommandForm where
  /-- The options. -/
  options : List OptionForm
  /-- The greatest number of positional arguments, if there is one. -/
  mostPaths : Option Nat
  deriving DecidableEq, Repr

/-- Why arguments are not read to their end. -/
inductive ArgumentStop where
  /-- Help was asked for. -/
  | help
  /-- The arguments are not those of the command. -/
  | misuse
  deriving DecidableEq, Repr

/-- The arguments of a command. -/
structure Arguments where
  /-- The options in their order, by their long names; switches have empty values. -/
  options : List (String × String)
  /-- The positional arguments in their order. -/
  paths : List String
  deriving DecidableEq, Repr

namespace Arguments

/-- The values of an option. -/
def values (arguments : Arguments) (name : String) : List String :=
  (arguments.options.filter fun option => option.1 == name).map Prod.snd

/-- The value of an option. -/
def value? (arguments : Arguments) (name : String) : Option String :=
  (arguments.values name).head?

/-- Whether a switch was given. -/
def isGiven (arguments : Arguments) (name : String) : Bool :=
  (arguments.value? name).isSome

end Arguments

/-- Arguments that are being read. -/
structure Reading where
  /-- What was read. -/
  arguments : Arguments
  /-- An option whose value comes next. -/
  pending : Option OptionForm
  /-- Whether all that follows is positional. -/
  isTrailing : Bool
  deriving DecidableEq, Repr

namespace Reading

/-- Nothing was read. -/
def start : Reading := ⟨⟨[], []⟩, none, false⟩

/-- Take an option with its value. -/
def takeOption (reading : Reading) (form : OptionForm) (value : String) :
    Except ArgumentStop Reading :=
  if (form.value = .path && value.isEmpty) ||
      (!form.mayRepeat && reading.arguments.isGiven form.name) then
    .error .misuse
  else
    .ok
      { reading with
        arguments :=
          { reading.arguments with
            options := reading.arguments.options ++ [(form.name, value)] }
        pending := none }

/-- Take a positional argument, which is not empty. -/
def takePath (form : CommandForm) (reading : Reading) (path : String) :
    Except ArgumentStop Reading :=
  let isFull :=
    match form.mostPaths with
    | some most => most ≤ reading.arguments.paths.length
    | none => false
  if path.isEmpty || isFull then .error .misuse
  else
    .ok
      { reading with
        arguments :=
          { reading.arguments with paths := reading.arguments.paths ++ [path] } }

/-- Take an option with a long name, with its value if one is attached. -/
def takeLong (form : CommandForm) (reading : Reading) (text : List Char) :
    Except ArgumentStop Reading :=
  let name := String.ofList (text.takeWhile (· ≠ '='))
  match text.dropWhile (· ≠ '='), form.options.find? fun option => option.name == name with
  | [], none => .error (if name == "help" then .help else .misuse)
  | _ :: _, none => .error .misuse
  | [], some option =>
      if option.value = .none then reading.takeOption option ""
      else .ok { reading with pending := some option }
  | _ :: value, some option =>
      if option.value = .none then .error .misuse
      else reading.takeOption option (String.ofList value)

/-- Take options by their letters; what follows the letter of one that has a value is the
value. -/
def takeLetters (form : CommandForm) : (reading : Reading) → List Char →
    Except ArgumentStop Reading
  | reading, [] => .ok reading
  | reading, letter :: rest =>
      match form.options.find? fun option => option.letter == some letter with
      | none => .error (if letter = 'h' then .help else .misuse)
      | some option =>
          if option.value = .none then
            match reading.takeOption option "" with
            | .error stop => .error stop
            | .ok reading => takeLetters form reading rest
          else
            match rest with
            | [] => .ok { reading with pending := some option }
            | '=' :: value => reading.takeOption option (String.ofList value)
            | value => reading.takeOption option (String.ofList value)

/-- Take the next argument. -/
def take (form : CommandForm) (reading : Reading) (argument : String) :
    Except ArgumentStop Reading :=
  if reading.isTrailing then takePath form reading argument
  else
    match reading.pending, argument.toList with
    | some option, ['-'] => reading.takeOption option argument
    | some _, '-' :: _ => .error .misuse
    | some option, _ => reading.takeOption option argument
    | none, ['-', '-'] => .ok { reading with isTrailing := true }
    | none, '-' :: '-' :: text => takeLong form reading text
    | none, '-' :: letter :: letters => takeLetters form reading (letter :: letters)
    | none, _ => takePath form reading argument

end Reading

/-- Read the arguments of a command. -/
def CommandForm.read (form : CommandForm) (arguments : List String) :
    Except ArgumentStop Arguments :=
  match arguments.foldlM (Reading.take form) Reading.start with
  | .error stop => .error stop
  | .ok reading =>
      if reading.pending.isSome then .error .misuse else .ok reading.arguments

end CommandLine
end BundleTrust
