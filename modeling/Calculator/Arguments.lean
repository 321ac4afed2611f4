/-
  Calculator.Arguments
  ────────────────────
  **WHAT A COMMAND LINE ASKS FOR.**

      calc [--print-ast] [<expression> | --file <path>]

  The arguments may come in any order, but the path stands right behind
  `--file`.  Only the first `--print-ast`, the first `--file` with its path and
  the first argument that is no option are taken; whatever is left is an error.
-/
import Calculator.Text.Quoted

namespace Calculator

/-- Where the source of a program comes from. -/
inductive Command where
  /-- Lines that are typed in, one program each. -/
  | prompt
  /-- The command line itself. -/
  | expression (source : String)
  /-- A file. -/
  | file (path : String)
  deriving DecidableEq, Repr, Inhabited

/-- What a command line asks for; a tree is printed in place of a value if
`printTree` is set. -/
structure Invocation where
  printTree : Bool
  command : Command
  deriving DecidableEq, Repr, Inhabited

/-- Why a command line cannot be understood. -/
inductive UsageError where
  /-- `--file` is the last argument. -/
  | fileNeedsPath
  /-- Nothing can be made of the arguments `left`. -/
  | unrecognized (left : List String)
  /-- There are both an expression and a file. -/
  | expressionAndFile
  deriving DecidableEq, Repr, Inhabited

/-- What is wrong with the command line. -/
def UsageError.message : UsageError → String
  | fileNeedsPath => "--file needs a path"
  | unrecognized left =>
    "Unrecognized arguments: [" ++ ", ".intercalate (left.map Text.quote) ++ "]"
  | expressionAndFile => "Pass either an expression or --file, not both"

/-- How the command is called. -/
def usageLine : String := "Usage: calc [--print-ast] [<expression> | --file <path>]"

namespace Arguments

/-- The option that asks for the tree. -/
def printOption : String := "--print-ast"

/-- The option that a path follows. -/
def fileOption : String := "--file"

/-- Whether the argument has the form of an option. -/
def isOption (arg : String) : Bool := ['-', '-'].isPrefixOf arg.toList

/-- Takes the first file option and the path behind it. -/
def takeFile : List String → Except UsageError (Option String × List String)
  | [] => .ok (none, [])
  | arg :: later =>
    if arg = fileOption then
      match later with
      | [] => .error .fileNeedsPath
      | path :: later => .ok (some path, later)
    else (takeFile later).map fun (path, left) => (path, arg :: left)

/-- Takes the first argument that is no option. -/
def takeExpression : List String → Option String × List String
  | [] => (none, [])
  | arg :: later =>
    if isOption arg then ((takeExpression later).1, arg :: (takeExpression later).2)
    else (some arg, later)

/-- The command of the arguments other than the print option. -/
def command (args : List String) : Except UsageError Command :=
  match takeFile args with
  | .error e => .error e
  | .ok (path, left) =>
    match takeExpression left with
    | (expression, []) =>
      match path, expression with
      | some _, some _ => .error .expressionAndFile
      | some path, none => .ok (.file path)
      | none, some source => .ok (.expression source)
      | none, none => .ok .prompt
    | (_, left) => .error (.unrecognized left)

/-- What the arguments ask for. -/
def read (args : List String) : Except UsageError Invocation :=
  (command (args.erase printOption)).map fun command =>
    ⟨args.contains printOption, command⟩

end Arguments
end Calculator
