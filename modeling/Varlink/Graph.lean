/-!
# Reachability

The nodes of a graph that can be reached from some of its nodes. Every node is entered once, so the
walk ends even where the graph has cycles.
-/

namespace Varlink

namespace Graph

variable {α : Type} [DecidableEq α]

theorem length_erase_lt {nodes : List α} {node : α} (h : node ∈ nodes) :
    (nodes.erase node).length < nodes.length := by
  rw [List.length_erase_of_mem h]
  exact Nat.sub_lt (List.length_pos_of_mem h) Nat.one_pos

/-- Visits the pending nodes and all that can be reached from them through unseen nodes, given the
nodes next to a node. -/
def visit (next : α → List α) : (pending : List α) → (unseen : List α) → List α
  | [], _ => []
  | node :: pending, unseen =>
    if node ∈ unseen then node :: visit next (next node ++ pending) (unseen.erase node)
    else visit next pending unseen
termination_by pending unseen => (unseen.length, pending.length)
decreasing_by
  · rename_i seen
    exact Prod.Lex.left _ _ (length_erase_lt seen)
  · exact Prod.Lex.right _ (Nat.lt_succ_self _)

/-- Whether `target` is one of the nodes `starts` or can be reached from them, in a graph with the given
nodes. -/
def reaches (nodes : List α) (next : α → List α) (starts : List α) (target : α) : Bool :=
  decide (target ∈ visit next starts nodes)

end Graph

end Varlink
