import FilterQuery.Proofs.Sql.Bindings
import FilterQuery.Proofs.Tree.Traversal

/-!
# Sort keys in the order of the values

The sort keys of a filter are collected by a walk, and its values by recursion. Both come in the
order of the leaves, so a filter of joined operands has the keys and the values of the left operand
in front of those of the right one.

* `order_ofTree` -- the sort keys of a tree are those of its leaves, as `params_treePredicate` says
  it of the values;
* `Filter.build_along_walk` -- the calls of the walk answer the leaves one by one, and these are the
  leaves whose keys and values the filter has.
-/

namespace FilterQuery.Sql

/-- **The sort keys of a tree are those of its leaves**, from left to right. -/
theorem order_ofTree (resolve : Resolver) (t : Tree) :
    (Filter.ofTree resolve t).order = t.leaves.filterMap (sortKey? resolve) := by
  rw [Filter.ofTree, Walk.toList_of]

namespace Filter

theorem orderItems_build (resolve : Resolver) (q : Query) :
    (build resolve q).orderItems =
      (q.root.leaves.filterMap (sortKey? resolve)).map SortKey.text := by
  rw [orderItems, build, order_ofTree]

theorem params_build (resolve : Resolver) (q : Query) :
    (build resolve q).params = q.root.leaves.flatMap (boundValues resolve) :=
  params_treePredicate resolve q.root

/-- **The walk is the recursive traversal, and a filter follows it**: the calls of a walk from the
    root answer the leaves of the query from left to right, each once, and then nothing. The sort
    keys and the values of the filter are those of the leaves in this order, so the filter of a
    connective has those of its left side, and behind them those of its right side. -/
theorem build_along_walk (resolve : Resolver) (q : Query) :
    (Walk.of q.root).Traverses q.root.leaves ∧
    (build resolve q).orderItems =
      (q.root.leaves.filterMap (sortKey? resolve)).map SortKey.text ∧
    (build resolve q).params = q.root.leaves.flatMap (boundValues resolve) ∧
    ∀ (connective : Connective) (right : Query) (text : String),
      (build resolve ⟨text, .binary connective q.root right.root⟩).orderItems =
        (build resolve q).orderItems ++ (build resolve right).orderItems ∧
      (build resolve ⟨text, .binary connective q.root right.root⟩).params =
        (build resolve q).params ++ (build resolve right).params := by
  refine ⟨Walk.traverses_of q.root, orderItems_build resolve q, params_build resolve q,
    fun connective right text => ⟨?_, ?_⟩⟩
  · rw [orderItems_build, orderItems_build, orderItems_build, Tree.leaves, List.filterMap_append,
      List.map_append]
  · rw [params_build, params_build, params_build, Tree.leaves, List.flatMap_append]

end Filter

end FilterQuery.Sql
