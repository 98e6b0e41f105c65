import TemplateLanguage.Proofs.Declaration.Names
import TemplateLanguage.Template.Builder

/-!
# Names by place

After an analysis, whether a name resolves at a node can be read off the tree:
some block around the node declares it, or the template as a whole does.  A
block declares the loop variables of the list whose body it is and the variables
declared by its statements, in this order.

Only what the analysis comes to counts.  It comes to the statements of a block
through the block, so nothing but the root can be a statement that it finds
while it leaves the block aside.
-/

namespace TemplateLanguage

namespace Template

/-- An analysis finds a declaration of a name in a block. -/
inductive DeclaresIn (template : Template) (block : NodeId) : String → Prop
  /-- A list whose body is the block declares its loop variables there. -/
  | loop {list : NodeId} {index counter name : String} {value : Option String} :
      list ∈ template.walk → template.tree.kind? list = some (.listBlock index value) →
      template.tree.parent? block = some list → template.tree.body? list = some block →
      counter ∈ index :: value.toList →
      name ∈ [counter, counter ++ "_has_next", counter ++ "_index"] →
      DeclaresIn template block name
  /-- A statement of the block declares variables. -/
  | statement {directive : NodeId} {names : List String} {name : String} :
      directive ∈ template.walk → directive ∈ template.tree.children block →
      template.tree.kind? directive = some (.declaration names) → name ∈ names →
      DeclaresIn template block name

/-- An analysis finds a declaration of a name in the template as a whole. -/
inductive DeclaresOutside (template : Template) (strict : Bool) : String → Prop
  | importDirective {id : NodeId} {path name : String} : id ∈ template.walk →
      template.tree.kind? id = some (.importDirective path name) →
      DeclaresOutside template strict name
  /-- Variables are declared outside of blocks. -/
  | statement {id : NodeId} {names : List String} {name : String} : id ∈ template.walk →
      template.tree.kind? id = some (.declaration names) → name ∈ names →
      (∀ parent, template.tree.parent? id = some parent →
        template.tree.kind? parent ≠ some .block) →
      DeclaresOutside template strict name
  | macroDefinition {id : NodeId} {name : String} {kind : MacroKind} : strict = true →
      id ∈ template.walk → template.tree.kind? id = some (.macroDefinition name kind) →
      DeclaresOutside template strict name

end Template

namespace Tree

variable {tree : Tree} {id block : NodeId} {name : String}

theorem mem_loopNames_iff :
    name ∈ tree.loopNames id ↔
      ∃ index value, tree.kind? id = some (.listBlock index value) ∧
        ∃ counter ∈ index :: value.toList,
          name ∈ [counter, counter ++ "_has_next", counter ++ "_index"] := by
  rw [loopNames]
  constructor
  · intro member
    split at member
    · rename_i index value kind
      exact ⟨index, value, kind, List.mem_flatMap.mp member⟩
    · cases member
  · rintro ⟨index, value, kind, known⟩
    rw [kind]
    exact List.mem_flatMap.mpr known

theorem mem_variableNames_iff :
    name ∈ tree.variableNames id ↔
      ∃ names, tree.kind? id = some (.declaration names) ∧ name ∈ names := by
  rw [variableNames]
  constructor
  · intro member
    split at member
    · rename_i names kind
      exact ⟨names, kind, member⟩
    · cases member
  · rintro ⟨names, kind, known⟩
    rw [kind]
    exact known

theorem mem_blockNames_iff :
    name ∈ tree.blockNames block id ↔
      (tree.body? id = some block ∧ name ∈ tree.loopNames id) ∨
        (tree.block? id = some block ∧ name ∈ tree.variableNames id) := by
  rw [blockNames, List.mem_append]
  by_cases body : tree.body? id = some block <;>
    by_cases statement : tree.block? id = some block <;> simp [body, statement]

theorem block?_eq_none_iff :
    tree.block? id = none ↔
      ∀ parent, tree.parent? id = some parent → tree.kind? parent ≠ some .block := by
  rw [block?, Option.filter_eq_none_iff]
  simp only [hasKind_isBlock_iff]

end Tree

namespace Template

variable {template : Template} {name : String}

/-- What the nodes of an analysis declare in a block. -/
theorem mem_flatMap_blockNames_walk_iff {block : NodeId}
    (isBlock : template.tree.kind? block = some .block) :
    name ∈ template.walk.flatMap (template.tree.blockNames block) ↔
      template.DeclaresIn block name := by
  rw [List.mem_flatMap]
  constructor
  · rintro ⟨id, reached, known⟩
    rcases Tree.mem_blockNames_iff.mp known with ⟨body, known⟩ | ⟨statement, known⟩
    · obtain ⟨index, value, kind, counter, isCounter, known⟩ := Tree.mem_loopNames_iff.mp known
      have parent := Tree.mem_children_iff.mp (List.mem_of_find?_eq_some body)
      exact .loop reached kind parent body isCounter known
    · obtain ⟨names, kind, known⟩ := Tree.mem_variableNames_iff.mp known
      exact .statement reached (Tree.block?_eq_some_iff.mp statement).1 kind known
  · rintro (⟨reached, kind, _, body, isCounter, known⟩ | ⟨reached, isChild, kind, known⟩)
    · refine ⟨_, reached, Tree.mem_blockNames_iff.mpr (Or.inl ⟨body, ?_⟩)⟩
      exact Tree.mem_loopNames_iff.mpr ⟨_, _, kind, _, isCounter, known⟩
    · refine ⟨_, reached, Tree.mem_blockNames_iff.mpr (Or.inr ⟨?_, ?_⟩)⟩
      · exact Tree.block?_eq_some_iff.mpr ⟨isChild, isBlock⟩
      · exact Tree.mem_variableNames_iff.mpr ⟨_, kind, known⟩

/-- What the nodes of an analysis declare outside of blocks. -/
theorem mem_flatMap_templateNames_walk_iff {strict : Bool} :
    name ∈ template.walk.flatMap (template.tree.templateNames strict) ↔
      template.DeclaresOutside strict name := by
  rw [List.mem_flatMap]
  constructor
  · rintro ⟨id, reached, known⟩
    rw [Tree.templateNames] at known
    split at known
    · rename_i other kind found
      split at known
      · rename_i isStrict
        cases List.mem_singleton.mp known
        exact .macroDefinition isStrict reached found
      · cases known
    · rename_i path other found
      cases List.mem_singleton.mp known
      exact .importDirective reached found
    · rename_i names found
      split at known
      · rename_i outside
        exact .statement reached found known
          (Tree.block?_eq_none_iff.mp (Option.isNone_iff_eq_none.mp outside))
      · cases known
    · cases known
  · rintro (⟨reached, found⟩ | ⟨reached, found, known, outside⟩ | ⟨isStrict, reached, found⟩)
    · refine ⟨_, reached, ?_⟩
      rw [Tree.templateNames, found]
      exact List.mem_singleton_self _
    · refine ⟨_, reached, ?_⟩
      rw [Tree.templateNames, found]
      simp only [Tree.block?_eq_none_iff.mpr outside, Option.isNone_none, if_true]
      exact known
    · subst isStrict
      refine ⟨_, reached, ?_⟩
      rw [Tree.templateNames, found]
      exact List.mem_singleton_self _

/-- A node that an analysis comes to is the root, or the analysis comes to its
parent. -/
theorem eq_root_of_mem_walk {id parent : NodeId} (reached : id ∈ template.walk)
    (isChild : id ∈ template.tree.children parent) (aside : parent ∉ template.walk) :
    id = template.root := by
  cases Tree.reaches_iff_mem_preorder.mpr reached with
  | root => rfl
  | child above _ member =>
      have same := (Tree.mem_children_iff.mp member).symm.trans (Tree.mem_children_iff.mp isChild)
      cases same
      exact absurd (Tree.reaches_iff_mem_preorder.mp above) aside

/-- After an analysis, a name resolves at a node exactly if the analysis finds
it declared in a block that is the node or around it, or outside of blocks.  A
block that the analysis comes to lists the variables of the loop around it and
then those of its statements, each once.  The analysis finds no statement of a
block that it does not come to, except for the root. -/
theorem resolves_analyze (template : Template) (options : AnalysisOptions) :
    (∀ id name,
      (template.analyze options).2.resolves id name = true ↔
        (∃ block ∈ id :: template.tree.ancestors id,
          template.tree.kind? block = some .block ∧ template.DeclaresIn block name) ∨
        template.DeclaresOutside (template.analyze options).1.strict name) ∧
    (∀ block ∈ template.walk, template.tree.kind? block = some .block →
      (template.analyze options).2.declared (.block block) =
        (template.loopNames block
          ++ (template.tree.children block).flatMap template.tree.variableNames).eraseDups) ∧
    ∀ block, ∀ id ∈ template.tree.children block, id ∈ template.walk → block ∉ template.walk →
      id = template.root := by
  refine ⟨?_, ?_, fun block id isChild reached aside => eq_root_of_mem_walk reached isChild aside⟩
  · intro id name
    have inBlock : ∀ block, template.tree.kind? block = some .block →
        ((template.analyze options).2.declares (.block block) name = true ↔
          template.DeclaresIn block name) := by
      intro block isBlock
      rw [declares, decide_eq_true_iff, declared_block_analyze, List.mem_eraseDups,
        mem_flatMap_blockNames_walk_iff isBlock]
    have outside : (template.analyze options).2.declares .template name = true ↔
        template.DeclaresOutside (template.analyze options).1.strict name := by
      rw [declares, decide_eq_true_iff, declared_template_analyze, List.mem_eraseDups,
        mem_flatMap_templateNames_walk_iff]
    rw [resolves, Bool.or_eq_true, outside, List.any_eq_true]
    apply or_congr_left
    constructor
    · rintro ⟨block, around, known⟩
      obtain ⟨isBlock, known⟩ := Bool.and_eq_true_iff.mp known
      have isBlock := Tree.hasKind_isBlock_iff.mp isBlock
      exact ⟨block, around, isBlock, (inBlock block isBlock).mp known⟩
    · rintro ⟨block, around, isBlock, known⟩
      exact ⟨block, around, Bool.and_eq_true_iff.mpr
        ⟨Tree.hasKind_isBlock_iff.mpr isBlock, (inBlock block isBlock).mpr known⟩⟩
  · intro block reached isBlock
    rw [declared_block_analyze, walk, Tree.flatMap_blockNames (Tree.pairwise_body?_preorder ..),
      Tree.filter_body?_preorder,
      Tree.filter_block?_preorder reached (descends_of_block isBlock) isBlock]
    rfl

/-- A list over pairs whose body declares a variable. -/
def pairs : Build Template := do
  let statement ← Build.node (.declaration ["k", "x"]) []
  let sequence ← Build.node (.expression (.identifier "xs")) []
  let list ← Build.withBody (.listBlock "k" (some "v")) [sequence] [statement]
  Build.finish [list]

/-- The template of `pairs`. -/
def pairsTemplate : Template :=
  (pairs (.new "pairs")).get (by decide) |>.1

/-- The body of the list has the names of both loop variables before its own, and
they resolve at its statement. -/
theorem resolves_analyze_pairsTemplate :
    2 ∈ pairsTemplate.walk ∧ pairsTemplate.tree.kind? 2 = some .block ∧
      (pairsTemplate.analyze {}).2.declared (.block 2) =
        ["k", "k_has_next", "k_index", "v", "v_has_next", "v_index", "x"] ∧
      (pairsTemplate.analyze {}).2.resolves 0 "v_index" = true := by
  obtain ⟨resolved, declared, _⟩ := resolves_analyze pairsTemplate {}
  have reached : 2 ∈ pairsTemplate.walk := by decide +kernel
  have isBlock : pairsTemplate.tree.kind? 2 = some .block := by decide
  refine ⟨reached, isBlock, ?_, ?_⟩
  · rw [declared 2 reached isBlock]
    decide +kernel
  · have isList : pairsTemplate.tree.kind? 3 = some (.listBlock "k" (some "v")) := by decide
    have around : 2 ∈ 0 :: pairsTemplate.tree.ancestors 0 := by decide +kernel
    have listReached : 3 ∈ pairsTemplate.walk := by decide +kernel
    have isCounter : "v" ∈ "k" :: (some "v").toList := by decide
    have isName : "v_index" ∈ ["v", "v" ++ "_has_next", "v" ++ "_index"] := by decide
    have loop : pairsTemplate.DeclaresIn 2 "v_index" :=
      .loop listReached isList (by decide) (by decide) isCounter isName
    exact (resolved 0 "v_index").mpr (Or.inl ⟨2, around, isBlock, loop⟩)

/-- A declaration in a block that takes the place of the root. -/
def detached : Build Template := do
  let statement ← Build.node (.declaration ["x"]) []
  let _ ← Build.node .block [statement]
  Build.finishAt statement none

/-- The template of `detached`. -/
def detachedTemplate : Template :=
  (detached (.new "detached")).get (by decide) |>.1

/-- A root that is a statement of a block declares in the block, although the
analysis comes to no block around it. -/
theorem resolves_analyze_detachedTemplate :
    (detachedTemplate.analyze {}).2.resolves 0 "x" = true ∧
      ¬ ((∃ block ∈ 0 :: detachedTemplate.tree.ancestors 0,
            block ∈ detachedTemplate.walk ∧ detachedTemplate.tree.kind? block = some .block ∧
              (detachedTemplate.DeclaresIn block "x" ∨
                "x" ∈ (detachedTemplate.tree.children block).flatMap
                  detachedTemplate.tree.variableNames)) ∨
          detachedTemplate.DeclaresOutside (detachedTemplate.analyze {}).1.strict "x") := by
  have walk : detachedTemplate.walk = [0] := by decide +kernel
  constructor
  · decide +kernel
  · rintro (⟨block, _, reached, isBlock, _⟩ | outside)
    · rw [walk, List.mem_singleton] at reached
      subst reached
      revert isBlock
      decide
    · rw [← mem_flatMap_templateNames_walk_iff, walk] at outside
      revert outside
      decide +kernel

end Template

end TemplateLanguage
