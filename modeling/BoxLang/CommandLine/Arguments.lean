/-!
# Arguments

What the words of a command line ask for.  Words are taken from left to right, and
the first one that cannot be understood decides.
-/

namespace BoxLang.CommandLine

structure Arguments where
  /-- Whether the tree of each program is shown before it runs. -/
  debugParse : Bool
  /-- The number of steps that each program may take. -/
  maxSteps : Option Nat
  /-- The file that holds the program. -/
  file : Option String
  /-- The program itself. -/
  expression : Option String
  deriving DecidableEq

/-- Why nothing is run. -/
inductive Refusal
  | help
  | usage
  deriving DecidableEq

namespace Arguments

def none : Arguments :=
  ⟨false, .none, .none, .none⟩

/-- A count of steps: digits, after a plus sign at most, of a number of 64 bits. -/
def parseCount? (text : String) : Option Nat :=
  let digits :=
    match text.toList with
    | '+' :: rest => rest
    | chars => chars
  if digits.isEmpty || !digits.all Char.isDigit then .none
  else
    let count := digits.foldl (fun count digit => 10 * count + (digit.toNat - 48)) 0
    if count < UInt64.size then some count else .none

def setDebugParse (arguments : Arguments) : Except Refusal Arguments :=
  if arguments.debugParse then .error .usage
  else .ok { arguments with debugParse := true }

def setMaxSteps (arguments : Arguments) (text : String) : Except Refusal Arguments :=
  match arguments.maxSteps, parseCount? text with
  | .none, some count => .ok { arguments with maxSteps := some count }
  | _, _ => .error .usage

def setFile (arguments : Arguments) (path : String) : Except Refusal Arguments :=
  if arguments.file.isSome || path.isEmpty then .error .usage
  else .ok { arguments with file := some path }

def setExpression (arguments : Arguments) (text : String) : Except Refusal Arguments :=
  if arguments.expression.isSome then .error .usage
  else .ok { arguments with expression := some text }

/-- An option that takes a value. -/
inductive ValueOption
  | maxSteps
  | file
  deriving DecidableEq

def setValue (arguments : Arguments) (text : String) :
    ValueOption → Except Refusal Arguments
  | .maxSteps => arguments.setMaxSteps text
  | .file => arguments.setFile text

/-- What a word means on its own. -/
inductive Word
  | debugParse
  | help
  /-- An option whose value is in the same word. -/
  | valued (option : ValueOption) (value : String)
  /-- An option whose value is the next word. -/
  | awaiting (option : ValueOption)
  /-- The mark after which every word is a program. -/
  | endOfOptions
  | expression (text : String)
  | unknown

/-- The name of an option and the value joined to it by `=`. -/
def splitAtEquals (chars : List Char) : String × Option String :=
  let name := String.ofList (chars.takeWhile (· ≠ '='))
  match chars.dropWhile (· ≠ '=') with
  | [] => (name, .none)
  | _ :: value => (name, some (String.ofList value))

def longOption (chars : List Char) : Word :=
  match splitAtEquals chars with
  | ("debug-parse", .none) => .debugParse
  | ("help", .none) => .help
  | ("max-steps", some value) => .valued .maxSteps value
  | ("max-steps", .none) => .awaiting .maxSteps
  | ("file", some value) => .valued .file value
  | ("file", .none) => .awaiting .file
  | _ => .unknown

def shortOption : List Char → Word
  | ['f'] => .awaiting .file
  | 'f' :: '=' :: value => .valued .file (String.ofList value)
  | 'f' :: value => .valued .file (String.ofList value)
  | 'h' :: _ => .help
  | _ => .unknown

def word (text : String) : Word :=
  match text.toList with
  | ['-', '-'] => .endOfOptions
  | '-' :: '-' :: chars => longOption chars
  | ['-'] => .expression text
  | '-' :: chars => shortOption chars
  | _ => .expression text

/-- Takes words after the mark that ends the options. -/
def takeExpressions (arguments : Arguments) : List String → Except Refusal Arguments
  | [] => .ok arguments
  | text :: rest => do
      let arguments ← arguments.setExpression text
      arguments.takeExpressions rest

/-- Takes words, the first of which may be the value that an option awaits. -/
def take (arguments : Arguments) (awaiting : Option ValueOption) :
    List String → Except Refusal Arguments
  | [] => if awaiting.isSome then .error .usage else .ok arguments
  | text :: rest =>
      match awaiting, word text with
      | some option, .expression value => do
          let arguments ← arguments.setValue value option
          arguments.take .none rest
      | some _, _ => .error .usage
      | .none, .debugParse => do
          let arguments ← arguments.setDebugParse
          arguments.take .none rest
      | .none, .help => .error .help
      | .none, .valued option value => do
          let arguments ← arguments.setValue value option
          arguments.take .none rest
      | .none, .awaiting option => arguments.take (some option) rest
      | .none, .endOfOptions => arguments.takeExpressions rest
      | .none, .expression value => do
          let arguments ← arguments.setExpression value
          arguments.take .none rest
      | .none, .unknown => .error .usage

/-- The arguments of a command line. A file and a program exclude each other. -/
def ofWords (words : List String) : Except Refusal Arguments := do
  let arguments ← none.take .none words
  if arguments.file.isSome && arguments.expression.isSome then .error .usage
  else .ok arguments

end Arguments

end BoxLang.CommandLine
