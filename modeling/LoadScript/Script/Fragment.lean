import LoadScript.Script.Lexeme

set_option autoImplicit false

namespace LoadScript.Script

def braced (inner : String) : String := r"{ " ++ inner ++ r" }"

def interpolated (expression : String) : String := r"${" ++ expression ++ r"}"

def checkStatement (subject label test : String) : String :=
  "check(" ++ subject ++ ", " ++ braced ("'" ++ label ++ "': " ++ test) ++ ");"

def checkStatus (label : String) (status : Nat) : String :=
  checkStatement "res" label ("(r) => r.status === " ++ Nat.repr status)

def recordDuration (metric : String) : String := metric ++ ".add(res.timings.duration);"

end LoadScript.Script
