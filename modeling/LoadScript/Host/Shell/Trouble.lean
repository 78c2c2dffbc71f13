import LoadScript.Host.Shell.Command
import LoadScript.Host.Volume

set_option autoImplicit false

namespace LoadScript.Shell

inductive Jump where
  | exits
  /-- An error that ends the shell, unless a command of the shell has it. -/
  | fails
  /-- An error that ends the line of the script. -/
  | abandons
  | breaks (levels : Nat)
  | continues (levels : Nat)
  | returns
  deriving DecidableEq, Repr

inductive Trouble where
  | told (message : String)
  | programMissing (name : Octets)
  | programFault (name : Octets) (fault : FileFault)
  | unknownName (name : Octets)
  | fixed (name : String)
  | fixedUnset (name : String)
  | unset (name : String)
  | required (name : String) (alsoEmpty : Bool) (message : Option Octets)
  | badSubstitution (source : String)
  | badSubscript (name : String) (text : Octets)
  | badIndirection (name : String)
  | badSlice (text : Octets)
  | badName (name : Octets)
  | badNumber (text : Octets)
  | badOption (letter : Char)
  | badOptionName (name : Octets)
  | missingArgument (letter : Char)
  | missingCommands
  | badExpression (message : Octets)
  | badTest (message : Octets)
  | badMode (text : Octets)
  | badSignal (name : Octets)
  | noProcess (text : Octets)
  | notProcess (text : Octets)
  | noJob (text : Octets)
  | noDirectory (path : Octets) (fault : FileFault)
  | noScript (path : Octets) (fault : FileFault)
  | noFile (path : Octets) (creates : Bool) (fault : FileFault)
  | noDescriptor (descriptor : Nat)
  | badDescriptor (word : Octets)
  | notInFunction
  | cannotShift
  | cannotReturn
  | tooMany
  | missingBracket
  | badDirective (conversion : Octets)
  | badInterpreter (name interpreter : Octets)
  | deepCalls (limit : Nat)

namespace Trouble

def openFault (creates : Bool) : FileFault → String
  | .notFound | .notDirectory => if creates then "Directory nonexistent" else "No such file"
  | fault => fault.message

def dashMessage : Trouble → Octets
  | .told message => message.toList
  | .programMissing name | .unknownName name => name ++ ": not found".toList
  | .programFault name fault => name ++ ": ".toList ++ (match fault with
      | .notFound | .notDirectory => "not found"
      | fault => fault.message).toList
  | .fixed name | .fixedUnset name => name.toList ++ ": is read only".toList
  | .unset name => name.toList ++ ": parameter not set".toList
  | .required name alsoEmpty message =>
    let usual := "parameter not set" ++ (if alsoEmpty then " or null" else "")
    name.toList ++ ": ".toList ++ message.getD usual.toList
  | .badSubstitution _ | .badSubscript _ _ | .badIndirection _ | .badSlice _ =>
    "Bad substitution".toList
  | .badName name => name ++ ": bad variable name".toList
  | .badNumber text | .notProcess text => "Illegal number: ".toList ++ text
  | .badOption letter => "Illegal option -".toList ++ [letter]
  | .badOptionName name => "Illegal option -o ".toList ++ name
  | .missingArgument letter => "No arg for -".toList ++ [letter] ++ " option".toList
  | .missingCommands => "-c requires an argument".toList
  | .badExpression message | .badTest message => message
  | .badMode text => "Illegal mode: ".toList ++ text
  | .badSignal name => "invalid signal number or name: ".toList ++ name
  | .noProcess _ => "No such process\n".toList
  | .noJob text => "No such job: ".toList ++ text
  | .noDirectory path _ => "can't cd to ".toList ++ path
  | .noScript path fault =>
    "cannot open ".toList ++ path ++ ": ".toList ++ (openFault false fault).toList
  | .noFile path creates fault =>
    "cannot ".toList ++ (if creates then "create " else "open ").toList ++ path ++ ": ".toList ++
      (openFault creates fault).toList
  | .noDescriptor descriptor =>
    Octets.ofNat descriptor ++ ": ".toList ++ FileFault.badDescriptor.message.toList
  | .badDescriptor _ => "Syntax error: Bad fd number".toList
  | .notInFunction => "not in a function".toList
  | .cannotShift => "can't shift that many".toList
  | .cannotReturn | .tooMany => []
  | .missingBracket => "missing ]".toList
  | .badDirective conversion => conversion ++ ": invalid directive".toList
  | .badInterpreter name _ => name ++ ": not found".toList
  | .deepCalls limit =>
    "Maximum function recursion depth (".toList ++ Octets.ofNat limit ++ ") reached".toList

def bashMessage : Trouble → Octets
  | .programMissing name => name ++ ": command not found".toList
  | .badInterpreter name interpreter =>
    name ++ ": ".toList ++ interpreter ++ ": bad interpreter: ".toList ++
      FileFault.notFound.message.toList
  | .programFault name fault | .noScript name fault | .noDirectory name fault
  | .noFile name _ fault => name ++ ": ".toList ++ fault.message.toList
  | .fixed name => name.toList ++ ": readonly variable".toList
  | .fixedUnset name => name.toList ++ ": cannot unset: readonly variable".toList
  | .unset name =>
    (if name.toList.all Char.isDigit then ['$'] else []) ++ name.toList ++
      ": unbound variable".toList
  | .required name alsoEmpty message =>
    let usual := if alsoEmpty then "parameter null or not set" else "parameter not set"
    name.toList ++ ": ".toList ++ message.getD usual.toList
  | .badSubstitution source =>
    r"${".toList ++ source.toList ++ r"}: bad substitution".toList
  | .badSubscript name text => name.toList ++ ['['] ++ text ++ "]: bad array subscript".toList
  | .badIndirection name => name.toList ++ ": invalid indirect expansion".toList
  | .badSlice text => text ++ ": substring expression < 0".toList
  | .badName name => quotedName name ++ ": not a valid identifier".toList
  | .badNumber text => text ++ ": numeric argument required".toList
  | .badOption letter => ['-', letter] ++ ": invalid option".toList
  | .badOptionName name => name ++ ": invalid option name".toList
  | .missingArgument letter => ['-', letter] ++ ": option requires an argument".toList
  | .missingCommands => "-c: option requires an argument".toList
  | .badMode text => quotedName text ++ ": invalid symbolic mode character".toList
  | .badSignal name => name ++ ": invalid signal specification".toList
  | .noProcess text => ['('] ++ text ++ ") - No such process".toList
  | .notProcess text => text ++ ": arguments must be process or job IDs".toList
  | .noJob text => text ++ ": no such job".toList
  | .badDescriptor word => word ++ ": ambiguous redirect".toList
  | .notInFunction => "can only be used in a function".toList
  | .cannotReturn =>
    "can only ".toList ++ quotedName "return".toList ++ " from a function or sourced script".toList
  | .tooMany => "too many arguments".toList
  | .missingBracket => "missing ".toList ++ quotedName [']']
  | .badDirective conversion =>
    quotedName (conversion.drop (conversion.length - 1)) ++ ": invalid format character".toList
  | t => t.dashMessage

def message (dialect : Dialect) (t : Trouble) : Octets :=
  match dialect with
  | .dash => t.dashMessage
  | .bash => t.bashMessage

/-- Whether a program that is not found has this fault. -/
def isMissing : FileFault → Bool
  | .notFound | .notDirectory | .nameTooLong | .tooManyLinks => true
  | _ => false

def status (dialect : Dialect) (t : Trouble) : Nat :=
  match dialect, t with
  | _, .programMissing _ => 127
  | .dash, .badInterpreter _ _ => 127
  | .bash, .badInterpreter _ _ => 126
  | .dash, .programFault _ fault => if isMissing fault then 127 else 126
  | .bash, .programFault _ fault => if fault = .notFound then 127 else 126
  | .dash, _ => 2
  | .bash, .badOption _ | .bash, .badOptionName _ | .bash, .missingArgument _ => 2
  | .bash, .missingCommands => 2
  | .bash, .badTest _ | .bash, .missingBracket | .bash, .cannotReturn => 2
  | .bash, _ => 1

def jump (dialect : Dialect) (t : Trouble) : Jump :=
  match dialect, t with
  | .bash, .unset _ | .bash, .required _ _ _ => .exits
  | .bash, .fixed _ | .bash, .badSubstitution _ | .bash, .badExpression _
  | .bash, .badSubscript _ _ | .bash, .badIndirection _ | .bash, .badSlice _ => .abandons
  | _, _ => .fails

def isNamed (dialect : Dialect) (t : Trouble) : Bool :=
  match dialect, t with
  | .dash, _ => true
  | .bash, .fixed _ | .bash, .unset _ | .bash, .required _ _ _ | .bash, .badSubstitution _ => false
  | .bash, .noFile _ _ _ | .bash, .noScript _ _ => false
  | .bash, _ => true

end Trouble

end LoadScript.Shell
