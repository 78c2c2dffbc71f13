import LoadScript.Host.Utility.Calculation
import LoadScript.Host.Utility.Edit
import LoadScript.Host.Utility.Encoding
import LoadScript.Host.Utility.Finding
import LoadScript.Host.Utility.Search

set_option autoImplicit false

namespace LoadScript.Utility

def installed : List (String × Utility) :=
  [("true", fun _ => return 0), ("false", fun _ => return 1), ("echo", echo), ("printf", printf),
    ("test", test), ("[", bracket), ("sleep", sleep), ("date", date), ("whoami", whoami),
    ("id", id),
    ("uname", uname), ("hostname", saying "localhost"), ("arch", saying "x86_64"),
    ("nproc", saying "1"), ("groups", saying "root"), ("tty", tty), ("printenv", printenv),
    ("env", env), ("nohup", nohup), ("nice", nice), ("stdbuf", stdbuf), ("setsid", setsid),
    ("timeout", timeout), ("xargs", xargs), ("sync", fun _ => return 0),
    ("basename", basename), ("dirname", dirname), ("pwd", pwd), ("realpath", realpath),
    ("readlink", readlink), ("mkdir", mkdir), ("rmdir", rmdir), ("touch", touch), ("rm", rm),
    ("cp", cp), ("mv", mv), ("ln", ln), ("chmod", chmod), ("mktemp", mktemp), ("ls", ls),
    ("tee", tee), ("cat", cat), ("head", head), ("tail", tail), ("wc", wc), ("tr", tr),
    ("yes", yes), ("sort", sort), ("uniq", uniq), ("cut", cut), ("paste", paste), ("fold", fold),
    ("nl", nl), ("rev", rev), ("tac", tac), ("comm", comm), ("grep", grep), ("egrep", egrep),
    ("fgrep", fgrep), ("sed", sed), ("seq", seq), ("expr", expr), ("od", od), ("cmp", cmp),
    ("diff", diff), ("stat", stat), ("find", find), ("which", which), ("base64", base64)]

def find? (name : String) : Option Utility := (installed.find? (·.1 = name)).map (·.2)

end LoadScript.Utility
