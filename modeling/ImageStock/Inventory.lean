import ImageStock.Catalog
import ImageStock.ContainerRuntime
import ImageStock.Text.Grid

/-!
The inventory of a list of images: which of them are present, without pulling any.
-/

namespace ImageStock

/-- Asks for each image, in order. The first query that fails ends the inventory. -/
def takeInventory : List Choice → Attempt runtime Fault (List (Choice × Bool))
  | [] => return []
  | choice :: choices => do
    let present ← ContainerRuntime.query choice.image
    let rest ← takeInventory choices
    return (choice, present) :: rest

namespace Inventory

def header : Text.Grid.Row := ["NAME", "IMAGE", "STATUS"].map Text.Grid.cell

def row (choice : Choice) (present : Bool) : Text.Grid.Row :=
  [choice.name, choice.image.reference, if present then "present" else "missing"].map
    Text.Grid.cell

def render : List (Choice × Bool) → String
  | [] => "No images configured.\n"
  | inventory =>
    String.ofList (Text.Grid.draw header (inventory.map fun (c, present) => row c present))

end Inventory

end ImageStock
