import JobBoards.Markup.Selector
namespace JobBoards.Markup

mutual

def Node.elements (above : List Tag) : Node → List Element
  | .text _ _ => []
  | .element tag children => ⟨tag, above, children⟩ :: allElements (tag :: above) children

def allElements (above : List Tag) : List Node → List Element
  | [] => []
  | node :: nodes => node.elements above ++ allElements above nodes

end

mutual

theorem Node.select_eq_filter (s : Selector) (above : List Tag) (node : Node) :
    node.select s above = (node.elements above).filter fun e => s.accepts (e.tag :: e.above) := by
  cases node with
  | text => rfl
  | element tag children =>
    rw [Node.select, Node.elements, List.filter_cons, selectAll_eq_filter s (tag :: above) children]
    split <;> rfl

theorem selectAll_eq_filter (s : Selector) (above : List Tag) (nodes : List Node) :
    selectAll s above nodes =
      (allElements above nodes).filter fun e => s.accepts (e.tag :: e.above) := by
  cases nodes with
  | nil => rfl
  | cons node nodes =>
    rw [selectAll, allElements, List.filter_append, Node.select_eq_filter s above node,
      selectAll_eq_filter s above nodes]

end

end JobBoards.Markup
