/-!
Positions in a list, counted from zero at the front and from minus one at the back.
-/
namespace AttAssembly

variable {Item : Type}

def itemAt? (items : List Item) : Int → Option Item
  | .ofNat index => items[index]?
  | .negSucc index => items.reverse[index]?

/-- The items at the given positions, any of which may be given again. -/
def rearrange? (items : List Item) (order : List Int) : Option (List Item) :=
  order.mapM (itemAt? items)

end AttAssembly
