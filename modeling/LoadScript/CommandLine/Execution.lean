import LoadScript.CommandLine.Arguments

set_option autoImplicit false

namespace LoadScript

namespace Report

def detailLines (title : String) (details : List String) : List String :=
  if details.isEmpty then [] else ["     " ++ title ++ " " ++ ", ".intercalate details]

def provisions (d : Definition) : List String :=
  (if d.setup.isSome then ["setup"] else []) ++ (if d.threshold.isSome then ["threshold"] else [])

def definitionLines (number : Nat) (d : Definition) : List String :=
  ["", padLeft 3 (Nat.repr number) ++ ". " ++ d.pattern.source, "     " ++ d.description] ++
    detailLines "provides:" (provisions d) ++ detailLines "imports:" d.imports ++
    detailLines "metrics:" (d.metrics.map (·.externalName))

def vocabularyLines (v : Vocabulary) : List String :=
  ("Step definitions: " ++ Nat.repr v.length) ::
    v.zipIdx.flatMap fun (d, i) => definitionLines (i + 1) d

end Report

namespace Arguments

def execute (a : Arguments) (w : Workshop) (v : Volume) : Except Error Nat × Traces :=
  let t := Traces.ofVolume v
  if a.listSteps then (.ok 0, t.print (Report.vocabularyLines w.vocabulary))
  else
    match a.overrides, a.target with
    | .error e, _ => (.error e, t)
    | .ok _, none => (.ok 0, t)
    | .ok overrides, some target => run w (a.runOptions overrides) target v

end Arguments

end LoadScript
