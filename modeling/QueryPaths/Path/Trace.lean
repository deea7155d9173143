import QueryPaths.Path.Tree
import QueryPaths.Trace.Event

/-! # The trace of building a path tree

    The events that are reported while the tree of a class is built: one on
    entering each class, and one for every leaf, with the reason before it if
    the field has a link that is not expanded.
-/

namespace QueryPaths.ClassPool

/-- **The events of a list of fields** of the class `cls`, in order. The other
    arguments are those of `nodes`. -/
def fieldEvents (pool : ClassPool) (cls : String) (active : List String) (lead : String) :
    List Field → List Event
  | [] => []
  | field :: rest =>
    let path := lead ++ field.name
    let target := field.link.getD ""
    let events :=
      match _h : pool.resolve active field with
      | .resolved c =>
        .enterClass c.qualified c.fields.length (path ++ ".") ::
          pool.fieldEvents c.qualified (c.qualified :: active) (path ++ ".") c.fields
      | .unresolved => [.unresolvedLink cls field.name target, .generateLeaf path]
      | .cyclic => [.cyclicLink cls field.name target, .generateLeaf path]
      | .scalar => [.generateLeaf path]
    events ++ pool.fieldEvents cls active lead rest
termination_by fields => (pool.unvisited active, fields.length)
decreasing_by
  · exact Prod.Lex.left _ _ (unvisited_lt _h)
  · exact Prod.Lex.right _ (by simp)

/-- **The events of building the tree** of `root`. -/
def treeEvents (pool : ClassPool) (root : ModelClass) : List Event :=
  .enterClass root.qualified root.fields.length "" ::
    pool.fieldEvents root.qualified [root.qualified] "" root.fields

end QueryPaths.ClassPool
