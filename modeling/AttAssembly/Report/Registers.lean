import AttAssembly.Machine.Basic
import AttAssembly.Word
/-!
The dump of a machine: a line per register, a line for the flags, and a line per stack value with
its address, the top first.
-/
namespace AttAssembly

def registerLine (register : GeneralRegister) (value : Int) : Text :=
  let view := wordView value
  register.name ++ "  " ++ view.hex ++ "  " ++ padLeft 11 (decimal view.signed) ++ "  " ++
    padLeft 10 (decimal view.unsigned) ++ "  " ++ quoted view.ascii

def flagDigit (flag : Bool) : Text := if flag then "1" else "0"

def flagLine (machine : Machine) : Text :=
  "ZF=" ++ flagDigit machine.zero ++ "  SF=" ++ flagDigit machine.sign

def stackLine (address value : Int) : Text := "[" ++ hex32 address ++ "] " ++ hex32 value

def stackLines (address : Int) : List Int → List Text
  | [] => []
  | value :: rest => stackLine address value :: stackLines (address + Machine.wordSize) rest

def registerLines (machine : Machine) : List Text :=
  GeneralRegister.all.map (fun register => registerLine register (machine.get register)) ++
    flagLine machine :: stackLines (machine.get .esp) machine.stack

end AttAssembly
