set_option autoImplicit false

namespace LoadScript.Text

def sort (ss : List String) : List String := ss.mergeSort fun a b => !decide (b < a)

end LoadScript.Text
