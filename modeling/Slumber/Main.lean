import Slumber.Json.Printer
import Slumber.Spec.Definition

/-!
# The command line

The program prints the definition of the resource, so that it can be handed to a server.
-/

/-- Prints the definition of the resource as one line of JSON. -/
def main : IO Unit :=
  IO.println Slumber.resourceDefinition.render
