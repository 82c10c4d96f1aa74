/-!
# Depth-first order

A graph says which nodes a node depends on. `Graph.order` lists the nodes so that each
one comes after those it depends on, visiting them depth first in the given order; it
fails at the first node that is met again on the way to itself.
-/

namespace SchemaMigration.Dependency

/-- Nodes in the order in which they are visited, and for each of them the nodes it
depends on, likewise in order. -/
structure Graph where
  nodes : List String
  targets : String → List String

namespace Graph

mutual

/-- Extend `order` by a node and what it depends on, unless it is there already.
`free` holds the nodes that the way to this one has not met. -/
def visit (g : Graph) (free order : List String) (node : String) :
    Except String (List String) :=
  if order.contains node then .ok order
  else if free.contains node then do
    let order ← visitAll g (free.erase node) order (g.targets node)
    return order ++ [node]
  else .error node
termination_by (free.length, 0)
decreasing_by
  rename_i h
  have member : node ∈ free := by simpa using h
  have length := List.length_erase_of_mem member
  have positive := List.length_pos_of_mem member
  exact Prod.Lex.left _ _ (by omega)

/-- Visit several nodes, one after the other. -/
def visitAll (g : Graph) (free order : List String) :
    List String → Except String (List String)
  | [] => .ok order
  | node :: rest => do
    let order ← visit g free order node
    visitAll g free order rest
termination_by nodes => (free.length, nodes.length + 1)

end

/-- The nodes, each after those it depends on; fails with a node that depends on
itself by way of others. -/
def order (g : Graph) : Except String (List String) :=
  visitAll g g.nodes [] g.nodes

end Graph

end SchemaMigration.Dependency
