import TemplateLanguage.Template.Builder

/-!
# Built templates

A node has no parent when it is created, and nothing is created after the root
block of a finished template.  So the root of a finished template has no parent,
which is what the rules that look at ancestors rely on.
-/

namespace TemplateLanguage

/-- A new node has no parent. -/
theorem Tree.parent?_of_add? {tree larger : Tree} {kind : NodeKind} {span : Span}
    {children : List NodeId} (added : tree.add? kind span children = some larger) :
    larger.parent? tree.size = none := by
  unfold add? at added
  split at added
  · cases added
    change ((adopt tree.size children tree.nodes).push
      ⟨kind, span, none, children⟩)[tree.size]?.bind Node.parent = none
    have last : tree.size = (adopt tree.size children tree.nodes).size :=
      (size_adopt tree.size children tree.nodes).symm
    rw [Array.getElem?_push, if_pos last]
    rfl
  · cases added

/-- The root of a finished template has no parent. -/
theorem Build.parent?_root_of_finish {statements : List NodeId} {builder after : Builder}
    {template : Template} (finished : finish statements builder = some (template, after)) :
    template.tree.parent? template.root = none := by
  obtain ⟨⟨root, built⟩, created, rest⟩ := Option.bind_eq_some_iff.mp finished
  obtain ⟨tree, added, made⟩ := Option.map_eq_some_iff.mp created
  cases made
  cases rest
  exact Tree.parent?_of_add? added

end TemplateLanguage
