/-!
# ClassModel.Walk

Walks through finite graphs that may contain cycles. The first two list each node
once, in the order in which they come upon it, and stop when nothing new is
left; the first argument bounds the number of nodes they list, so any bound
that is at least the number of nodes in reach gives the same walk. The third one
lists nothing, but looks for a node and stops where it finds it.
-/

namespace ClassModel.Walk

variable {α : Type} [BEq α]

/-- Extends a path by the one successor of its last node, until there is none
or a node would be listed twice. -/
def along (next? : α → Option α) : Nat → List α → Option α → List α
  | 0, path, _ => path
  | _, path, none => path
  | bound + 1, path, some node =>
    if path.contains node then path else along next? bound (path ++ [node]) (next? node)

/-- Visits the queue and all that is in reach of it, nearest first: a node that
is not yet listed is listed, and its successors join the end of the queue. -/
def breadthFirst (next : α → List α) : Nat → List α → List α → List α
  | 0, listed, _ => listed
  | bound + 1, listed, queue =>
    match queue.dropWhile listed.contains with
    | [] => listed
    | node :: queue => breadthFirst next bound (listed ++ [node]) (queue ++ next node)

/-- Looks for a wanted node in the stack and in all that is in reach of it. The node
pushed last comes first: a visited one is passed over, a wanted one ends the search,
and the successors of any other are pushed. The bound limits the turns, and there
is no answer if it is used up. -/
def search? (next : α → List α) (wanted : α → Bool) : Nat → List α → List α → Option Bool
  | 0, _, _ => none
  | bound + 1, visited, stack =>
    match stack.dropWhile visited.contains with
    | [] => some false
    | node :: stack =>
      if wanted node then some true
      else search? next wanted bound (visited ++ [node]) ((next node).reverse ++ stack)

end ClassModel.Walk
