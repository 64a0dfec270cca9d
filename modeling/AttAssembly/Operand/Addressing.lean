import AttAssembly.Text.Basic
/-!
Addressing modes. Which mode a memory reference has depends only on which of its four components
are present.
-/
namespace AttAssembly

inductive AddressingMode where
  | immediate
  | register
  | direct
  | indirect
  | baseDisplacement
  | baseIndex
  | baseIndexDisplacement
  | scaledIndex
  | relative
  | unknown
  deriving DecidableEq, Repr

namespace AddressingMode

def name : AddressingMode → Text
  | immediate => "inmediato"
  | register => "registro"
  | direct => "directo"
  | indirect => "indirecto"
  | baseDisplacement => "base+desp"
  | baseIndex => "base+indice"
  | baseIndexDisplacement => "base+indice+desp"
  | scaledIndex => "indice-escalado"
  | relative => "relativo"
  | unknown => "desconocido"

/-- A scale alone gives no mode; an index with a displacement and no base is shown as if it had
    one. -/
def ofComponents (base index displacement scale : Bool) : AddressingMode :=
  match base, index, displacement, scale with
  | true, true, false, false => baseIndex
  | true, true, _, _ => baseIndexDisplacement
  | false, true, _, true => scaledIndex
  | false, true, true, false => baseIndex
  | true, false, true, _ => baseDisplacement
  | true, false, false, _ => indirect
  | false, true, false, false => indirect
  | false, false, true, _ => direct
  | false, false, false, _ => unknown

end AddressingMode

end AttAssembly
