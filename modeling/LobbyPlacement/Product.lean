/-!
# The product

The name and the version under which the program shows itself.
-/

namespace LobbyPlacement.Product

def name : String := "game-coordinator"

def version : String := "0.1.0"

end LobbyPlacement.Product
