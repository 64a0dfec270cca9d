import AttAssembly.Mnemonic.Flag
/-!
Conditions: the endings of conditional jumps, byte settings and moves, with the flags that decide
them.
-/
namespace AttAssembly

def conditionTable : List (Text × FlagSet) :=
  [ ("e", [.zero]), ("z", [.zero]), ("ne", [.zero]), ("nz", [.zero]),
    ("s", [.sign]), ("ns", [.sign]),
    ("g", [.overflow, .sign, .zero]), ("nle", [.overflow, .sign, .zero]),
    ("ge", [.overflow, .sign]), ("nl", [.overflow, .sign]),
    ("l", [.overflow, .sign]), ("nge", [.overflow, .sign]),
    ("le", [.overflow, .sign, .zero]), ("ng", [.overflow, .sign, .zero]),
    ("a", [.carry, .zero]), ("nbe", [.carry, .zero]),
    ("be", [.carry, .zero]), ("na", [.carry, .zero]),
    ("ae", [.carry]), ("nb", [.carry]), ("b", [.carry]), ("nae", [.carry]),
    ("c", [.carry]), ("nc", [.carry]),
    ("o", [.overflow]), ("no", [.overflow]),
    ("p", [.parity]), ("pe", [.parity]), ("po", [.parity]), ("np", [.parity])]

/-- The flags that decide a condition; a text that is no condition depends on none. -/
def conditionFlags (condition : Text) : FlagSet := (conditionTable.lookup condition).getD []

end AttAssembly
