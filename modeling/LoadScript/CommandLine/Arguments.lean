import LoadScript.Number.Reading
import LoadScript.Run.Basic

/-!
# Arguments

The arguments of a command line are read from left to right. A value is looked at only when the next
option or value comes, or at the end; so of two faults the one that is looked at first is reported.
-/

set_option autoImplicit false

namespace LoadScript

/-- Why a command line is not carried out. Help and the version are asked for, not faults. -/
inductive UsageFault where
  | help
  | version
  | unknownArgument
  | invalidValue
  | tooManyValues
  | valueValidation
  | conflict
  | missingTarget
  deriving DecidableEq, Repr

namespace UsageFault

def exitCode : UsageFault → Nat
  | .help | .version => 0
  | _ => 2

end UsageFault

structure Arguments where
  target : Option String := none
  parseOnly : Bool := false
  generateOnly : Bool := false
  listSteps : Bool := false
  environment : List String := []
  tags : List String := []
  outputDir : Option String := none
  binary : Option String := none
  timeoutSeconds : Option Nat := none
  deriving DecidableEq, Repr

namespace Arguments

def outputDirectory (a : Arguments) : String := a.outputDir.getD "generated"

/-! ## Options -/

inductive Slot where
  | target
  | environment
  | tags
  | outputDir
  | binary
  | timeout
  deriving DecidableEq, Repr

inductive Switch where
  | parseOnly
  | generateOnly
  | listSteps
  | help
  | version
  deriving DecidableEq, Repr

inductive Meaning where
  | valued (slot : Slot)
  | switch (s : Switch)
  deriving DecidableEq, Repr

def ofLongName? (name : String) : Option Meaning :=
  match name with
  | "parse-only" => some (.switch .parseOnly)
  | "generate-only" => some (.switch .generateOnly)
  | "list-steps" => some (.switch .listSteps)
  | "help" => some (.switch .help)
  | "version" => some (.switch .version)
  | "env" => some (.valued .environment)
  | "tags" => some (.valued .tags)
  | "output-dir" => some (.valued .outputDir)
  | "k6-binary" => some (.valued .binary)
  | "timeout" => some (.valued .timeout)
  | _ => none

def ofLetter? (letter : Char) : Option Meaning :=
  match letter with
  | 'e' => some (.valued .environment)
  | 't' => some (.valued .tags)
  | 'o' => some (.valued .outputDir)
  | 'h' => some (.switch .help)
  | 'V' => some (.switch .version)
  | _ => none

/-! ## Values -/

def readPath (value : String) : Except UsageFault String :=
  if value = "" then .error .invalidValue else .ok value

/-- Gives a slot its value. Only pairs and tags may be given more than once. -/
def store (a : Arguments) (slot : Slot) (value : String) : Except UsageFault Arguments :=
  match slot with
  | .environment => .ok { a with environment := a.environment ++ [value] }
  | .tags => .ok { a with tags := a.tags ++ [value] }
  | .target =>
    if a.target.isSome then .error .conflict
    else (readPath value).map fun path => { a with target := some path }
  | .outputDir =>
    if a.outputDir.isSome then .error .conflict
    else (readPath value).map fun path => { a with outputDir := some path }
  | .binary =>
    if a.binary.isSome then .error .conflict
    else (readPath value).map fun path => { a with binary := some path }
  | .timeout =>
    if a.timeoutSeconds.isSome then .error .conflict
    else
      match Text.readWord64 value with
      | some seconds => .ok { a with timeoutSeconds := some seconds }
      | none => .error .valueValidation

def turnOn (a : Arguments) : Switch → Except UsageFault Arguments
  | .help => .error .help
  | .version => .error .version
  | .parseOnly =>
    if a.parseOnly then .error .conflict else .ok { a with parseOnly := true }
  | .generateOnly =>
    if a.generateOnly then .error .conflict else .ok { a with generateOnly := true }
  | .listSteps =>
    if a.listSteps then .error .conflict else .ok { a with listSteps := true }

/-! ## Reading -/

structure Progress where
  arguments : Arguments
  /-- The slot that was named last, with its value if that has come. -/
  pending : Option (Slot × Option String)
  /-- After two hyphens alone, nothing is an option any more. -/
  onlyValues : Bool

namespace Progress

def start : Progress := ⟨{}, none, false⟩

def settle (p : Progress) : Except UsageFault Progress :=
  match p.pending with
  | none => .ok p
  | some (_, none) => .error .invalidValue
  | some (slot, some value) =>
    (p.arguments.store slot value).map fun a => { p with arguments := a, pending := none }

def storeAttached (p : Progress) (slot : Slot) (value : String) : Except UsageFault Progress := do
  let p ← p.settle
  let a ← p.arguments.store slot value
  return { p with arguments := a }

def await (p : Progress) (slot : Slot) : Except UsageFault Progress :=
  p.settle.map fun p => { p with pending := some (slot, none) }

def turnOn (p : Progress) (s : Switch) : Except UsageFault Progress := do
  let p ← p.settle
  let a ← p.arguments.turnOn s
  return { p with arguments := a }

def hasTarget (p : Progress) : Bool :=
  p.arguments.target.isSome || p.pending.any fun (slot, _) => slot = .target

def readTarget (p : Progress) (value : String) : Except UsageFault Progress :=
  if p.hasTarget then .error .unknownArgument
  else p.settle.map fun p => { p with pending := some (.target, some value) }

def readValue (p : Progress) (value : String) : Except UsageFault Progress :=
  match p.onlyValues, p.pending with
  | false, some (slot, none) => .ok { p with pending := some (slot, some value) }
  | _, _ => p.readTarget value

def readLong (p : Progress) (body : List Char) : Except UsageFault Progress :=
  let name := String.ofList (body.takeWhile (· != '='))
  match ofLongName? name, body.dropWhile (· != '=') with
  | none, _ => .error .unknownArgument
  | some (.valued slot), [] => p.await slot
  | some (.valued slot), _ :: value => p.storeAttached slot (String.ofList value)
  | some (.switch s), [] => p.turnOn s
  | some (.switch _), _ :: _ => .error .tooManyValues

/-- Letters after one hyphen. A letter that takes a value takes all that follows it, without an
equals sign in front. -/
def readLetters (p : Progress) : List Char → Except UsageFault Progress
  | [] => .ok p
  | letter :: rest =>
    match ofLetter? letter, rest with
    | none, _ => .error .unknownArgument
    | some (.switch s), _ => p.turnOn s >>= fun p => p.readLetters rest
    | some (.valued slot), [] => p.await slot
    | some (.valued slot), '=' :: value => p.storeAttached slot (String.ofList value)
    | some (.valued slot), _ => p.storeAttached slot (String.ofList rest)

/-- One argument. A hyphen alone is a value. -/
def read (p : Progress) (argument : String) : Except UsageFault Progress :=
  if p.onlyValues then p.readTarget argument
  else
    match argument.toList with
    | ['-', '-'] => .ok { p with onlyValues := true }
    | '-' :: '-' :: body => p.readLong body
    | ['-'] => p.readValue argument
    | '-' :: letters => p.readLetters letters
    | _ => p.readValue argument

end Progress

def check (a : Arguments) : Except UsageFault Arguments :=
  if a.parseOnly && a.generateOnly then .error .conflict
  else if a.target.isNone && !a.listSteps then .error .missingTarget
  else .ok a

def read (arguments : List String) : Except UsageFault Arguments := do
  let p ← arguments.foldlM Progress.read Progress.start
  let p ← p.settle
  p.arguments.check

/-! ## What the arguments ask for -/

def settings (a : Arguments) (lookUp : String → Option String) : Settings :=
  (Settings.ofVariables lookUp).override a.binary a.timeoutSeconds

def overrides (a : Arguments) : Except Error Environment := Environment.ofPairs a.environment

def runOptions (a : Arguments) (overrides : Environment) : RunOptions :=
  { parseOnly := a.parseOnly
    generateOnly := a.generateOnly
    overrides
    outputDir := a.outputDirectory
    tags := a.tags }

end Arguments

end LoadScript
