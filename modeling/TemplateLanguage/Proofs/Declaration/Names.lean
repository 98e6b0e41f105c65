import Mathlib.Data.List.Induction
import TemplateLanguage.Analysis.Report
import TemplateLanguage.Proofs.Tree.Order

/-!
# What a walk declares

Each node declares some names in the template as a whole and some in a block,
and which ones can be read off the node, its parent and its children.  After a
walk, a scope holds what the nodes of the walk declare in it, each name at the
place of its first declaration, and the registry holds the last macro of each
name.  What is reported on the way has no part in it.
-/

namespace TemplateLanguage

namespace Tree

/-! ## The names of a node -/

/-- The names that a list introduces.  Each loop variable comes with two names
that tell where the loop stands. -/
def loopNames (tree : Tree) (id : NodeId) : List String :=
  match tree.kind? id with
  | some (.listBlock index value) =>
      (index :: value.toList).flatMap fun name => [name, name ++ "_has_next", name ++ "_index"]
  | _ => []

/-- The names that a declaration of variables introduces. -/
def variableNames (tree : Tree) (id : NodeId) : List String :=
  match tree.kind? id with
  | some (.declaration names) => names
  | _ => []

/-- The name of the macro that a node defines. -/
def macroName? (tree : Tree) (id : NodeId) : Option String :=
  match tree.kind? id with
  | some (.macroDefinition name _) => some name
  | _ => none

/-- The block that a node is a statement of. -/
def block? (tree : Tree) (id : NodeId) : Option NodeId :=
  (tree.parent? id).filter (tree.hasKind NodeKind.isBlock)

/-- The node whose body a block is. -/
def owner? (tree : Tree) (block : NodeId) : Option NodeId :=
  (tree.parent? block).filter fun id => tree.body? id = some block

/-- The names that a node declares in a block: those of a list whose body the
block is, or of a declaration that is a statement of the block. -/
def blockNames (tree : Tree) (block id : NodeId) : List String :=
  (if tree.body? id = some block then tree.loopNames id else [])
    ++ (if tree.block? id = some block then tree.variableNames id else [])

/-- The names that a node declares in the template as a whole: that of a macro
if the template is strict, that of an import, and those of a declaration that is
not a statement of a block. -/
def templateNames (tree : Tree) (strict : Bool) (id : NodeId) : List String :=
  match tree.kind? id with
  | some (.macroDefinition name _) => if strict then [name] else []
  | some (.importDirective _ name) => [name]
  | some (.declaration names) => if (tree.block? id).isNone then names else []
  | _ => []

variable {tree : Tree}

theorem hasKind_isBlock_iff {id : NodeId} :
    tree.hasKind NodeKind.isBlock id = true ↔ tree.kind? id = some .block := by
  rw [hasKind, Option.any_eq_true]
  constructor
  · rintro ⟨kind, found, isBlock⟩
    cases kind with
    | block => exact found
    | _ => cases isBlock
  · exact fun found => ⟨_, found, rfl⟩

theorem block?_eq_some_iff {id block : NodeId} :
    tree.block? id = some block ↔ id ∈ tree.children block ∧ tree.kind? block = some .block := by
  rw [block?, Option.filter_eq_some_iff, mem_children_iff, hasKind_isBlock_iff]

theorem owner?_eq_some_iff {id block : NodeId} :
    tree.owner? block = some id ↔ tree.body? id = some block := by
  rw [owner?, Option.filter_eq_some_iff, ← mem_children_iff, decide_eq_true_iff]
  exact ⟨And.right, fun body => ⟨List.mem_of_find?_eq_some body, body⟩⟩

/-! ## The nodes that declare in a block -/

/-- No owner of a block comes after a statement of the block. -/
theorem pairwise_body?_preorder (tree : Tree) (descends : NodeId → Bool) (root block : NodeId) :
    (tree.preorder descends root).Pairwise fun earlier later =>
      tree.block? earlier = some block → tree.body? later ≠ some block := by
  refine (pairwise_preorder tree descends root).imp ?_
  intro earlier later apart statement body
  have lower := ancestors_of_mem_children (block?_eq_some_iff.mp statement).1
  have upper := ancestors_of_mem_children (List.mem_of_find?_eq_some body)
  apply apart
  simp [lower, upper]

theorem filter_block?_preorder {descends : NodeId → Bool} {root block : NodeId}
    (reached : block ∈ tree.preorder descends root) (down : descends block = true)
    (isBlock : tree.kind? block = some .block) :
    (tree.preorder descends root).filter (fun id => tree.block? id = some block) =
      tree.children block := by
  rw [← filter_parent?_preorder reached down]
  congr 1
  funext id
  simp [block?_eq_some_iff, mem_children_iff, isBlock]

theorem filter_body?_preorder (tree : Tree) (descends : NodeId → Bool) (root block : NodeId) :
    (tree.preorder descends root).filter (fun id => tree.body? id = some block) =
      ((tree.owner? block).filter (· ∈ tree.preorder descends root)).toList := by
  simp only [← owner?_eq_some_iff]
  cases tree.owner? block with
  | none => simp
  | some owner =>
      have single := List.filter_eq (l := tree.preorder descends root) owner
      rw [(nodup_preorder tree descends root).count] at single
      simp only [Option.some.injEq, eq_comm (a := owner), single, Option.filter_some]
      split <;> simp_all

/-- In a block, the names from its owner come before those from its statements. -/
theorem flatMap_blockNames {block : NodeId} {nodes : List NodeId}
    (ordered : nodes.Pairwise fun earlier later =>
      tree.block? earlier = some block → tree.body? later ≠ some block) :
    nodes.flatMap (tree.blockNames block) =
      (nodes.filter fun id => tree.body? id = some block).flatMap tree.loopNames
        ++ (nodes.filter fun id => tree.block? id = some block).flatMap tree.variableNames := by
  induction nodes with
  | nil => rfl
  | cons id rest ih =>
      obtain ⟨first, ordered⟩ := List.pairwise_cons.mp ordered
      rw [List.flatMap_cons, ih ordered, blockNames]
      by_cases statement : tree.block? id = some block
      · have done : rest.filter (fun id => tree.body? id = some block) = [] := by
          rw [List.filter_eq_nil_iff]
          exact fun later member body =>
            first later member statement (of_decide_eq_true body)
        by_cases body : tree.body? id = some block <;> simp [statement, body, done]
      · by_cases body : tree.body? id = some block <;> simp [statement, body]

end Tree

namespace Scopes

variable {tree : Tree} {strict : Bool}

/-! ## One node -/

theorem block_declareIn (scopes : Scopes) (id block : NodeId) (names : List String) :
    (scopes.declareIn id names).block block =
      Names.addAll (if id = block then names else []) (scopes.block block) := by
  cases names with
  | nil => split <;> rfl
  | cons name rest =>
      by_cases same : id = block
      · subst same
        simp [declareIn, Scopes.block]
      · simp [declareIn, Scopes.block, same, Entries.lookup_put_of_ne (Ne.symm same),
          Names.addAll]

@[simp]
theorem names_declareIn (scopes : Scopes) (id : NodeId) (names : List String) :
    (scopes.declareIn id names).names = scopes.names := by
  cases names <;> rfl

@[simp]
theorem macros_declareIn (scopes : Scopes) (id : NodeId) (names : List String) :
    (scopes.declareIn id names).macros = scopes.macros := by
  cases names <;> rfl

theorem names_declareVariables (scopes : Scopes) (holder : Option NodeId)
    (names : List String) :
    (scopes.declareVariables holder names).scopes.names =
      Names.addAll (if holder.isNone then names else []) scopes.names := by
  cases holder with
  | none => rfl
  | some id => exact names_declareIn scopes id names

theorem block_declareVariables (scopes : Scopes) (holder : Option NodeId) (block : NodeId)
    (names : List String) :
    (scopes.declareVariables holder names).scopes.block block =
      Names.addAll (if holder = some block then names else []) (scopes.block block) := by
  cases holder with
  | none => rfl
  | some id => simp [declareVariables, block_declareIn]

theorem block_declareLoop (scopes : Scopes) (body : Option NodeId) (block : NodeId)
    (index : String) (value : Option String) :
    (scopes.declareLoop body index value).block block =
      Names.addAll
        (if body = some block then (index :: value.toList).flatMap loopVariableNames else [])
        (scopes.block block) := by
  cases body with
  | none => rfl
  | some id => simp [declareLoop, block_declareIn]

/-- A node adds its names to the template scope. -/
theorem names_step (scopes : Scopes) (id : NodeId) :
    (scopes.step tree strict (.enter id)).scopes.names =
      Names.addAll (tree.templateNames strict id) scopes.names := by
  simp only [step, Tree.templateNames]
  cases tree.kind? id with
  | none => rfl
  | some kind =>
      cases kind with
      | macroDefinition => cases strict <;> rfl
      | importDirective => rfl
      | declaration names => exact names_declareVariables scopes _ names
      | listBlock =>
          simp only [declareLoop]
          split
          · rfl
          · exact names_declareIn scopes _ _
      | _ => rfl

/-- A node adds its names to a block. -/
theorem block_step (scopes : Scopes) (block id : NodeId) :
    (scopes.step tree strict (.enter id)).scopes.block block =
      Names.addAll (tree.blockNames block id) (scopes.block block) := by
  simp only [step, Tree.blockNames, Tree.loopNames, Tree.variableNames]
  cases tree.kind? id with
  | none => simp [Names.addAll]
  | some kind =>
      cases kind with
      | declaration names =>
          simp only [ite_self, List.nil_append]
          exact block_declareVariables scopes _ block names
      | listBlock index value =>
          simp only [ite_self, List.append_nil]
          exact block_declareLoop scopes _ block index value
      | _ => simp [defineMacro, importName, Scopes.block, Names.addAll]

/-- A macro enters the registry. -/
theorem macros_step (scopes : Scopes) (id : NodeId) :
    (scopes.step tree strict (.enter id)).scopes.macros =
      match tree.macroName? id with
      | some name => Entries.put name id scopes.macros
      | none => scopes.macros := by
  simp only [step, Tree.macroName?]
  cases tree.kind? id with
  | none => rfl
  | some kind =>
      cases kind with
      | declaration names =>
          simp only [declareVariables]
          split
          · rfl
          · exact macros_declareIn scopes _ names
      | listBlock =>
          simp only [declareLoop]
          split
          · rfl
          · exact macros_declareIn scopes _ _
      | _ => rfl

/-! ## A walk -/

/-- What is declared after a walk through some nodes. -/
def after (tree : Tree) (strict : Bool) (nodes : List NodeId) : Scopes :=
  nodes.foldl (fun scopes id => (scopes.step tree strict (.enter id)).scopes) .start

theorem after_append_singleton (nodes : List NodeId) (id : NodeId) :
    after tree strict (nodes ++ [id]) =
      ((after tree strict nodes).step tree strict (.enter id)).scopes := by
  rw [after, List.foldl_append]
  rfl

/-- The template scope after a walk holds what its nodes declare there. -/
theorem names_after (nodes : List NodeId) :
    (after tree strict nodes).names =
      (nodes.flatMap (tree.templateNames strict)).eraseDups := by
  induction nodes using List.reverseRecOn with
  | nil => rfl
  | append_singleton nodes id ih =>
      rw [after_append_singleton, names_step, ih, Names.addAll_eraseDups, List.flatMap_append,
        List.flatMap_singleton]

/-- A block after a walk holds what the nodes of the walk declare in it. -/
theorem block_after (block : NodeId) (nodes : List NodeId) :
    (after tree strict nodes).block block = (nodes.flatMap (tree.blockNames block)).eraseDups := by
  induction nodes using List.reverseRecOn with
  | nil => rfl
  | append_singleton nodes id ih =>
      rw [after_append_singleton, block_step, ih, Names.addAll_eraseDups, List.flatMap_append,
        List.flatMap_singleton]

/-- The registry after a walk lists the names of its macros. -/
theorem keys_macros_after (nodes : List NodeId) :
    (after tree strict nodes).macros.map Prod.fst =
      (nodes.filterMap tree.macroName?).eraseDups := by
  induction nodes using List.reverseRecOn with
  | nil => rfl
  | append_singleton nodes id ih =>
      rw [after_append_singleton, macros_step, List.filterMap_append]
      cases named : tree.macroName? id with
      | none => simp [named, ih]
      | some name =>
          have put : (Entries.put name id (after tree strict nodes).macros).map Prod.fst =
              Names.add name ((after tree strict nodes).macros.map Prod.fst) :=
            Entries.keys_put _ _ _
          simp only [List.filterMap_cons, named, List.filterMap_nil]
          rw [put, ih, Names.add_eraseDups]

/-- The registry after a walk holds the last macro of each name. -/
theorem lookup_macros_after (name : String) (nodes : List NodeId) :
    (after tree strict nodes).macros.lookup name =
      nodes.reverse.find? fun id => tree.macroName? id = some name := by
  induction nodes using List.reverseRecOn with
  | nil => rfl
  | append_singleton nodes id ih =>
      rw [after_append_singleton, macros_step, List.reverse_append, List.reverse_singleton,
        List.singleton_append, List.find?_cons]
      cases named : tree.macroName? id with
      | none => simpa using ih
      | some other =>
          by_cases same : name = other
          · simp [same]
          · simp [Entries.lookup_put_of_ne same, Ne.symm same, ih]

end Scopes

/-! ## Analyses -/

namespace Survey

/-- A survey declares what it declares on entering nodes. -/
theorem scopes_foldl_step (tree : Tree) (options : AnalysisOptions) (strict : Bool)
    (visits : List Visit) (survey : Survey) :
    (visits.foldl (step tree options strict) survey).scopes =
      (visits.filterMap Visit.entered?).foldl
        (fun scopes id => (scopes.step tree strict (.enter id)).scopes) survey.scopes := by
  induction visits generalizing survey with
  | nil => rfl
  | cons visit rest ih =>
      rw [List.foldl_cons, ih]
      cases visit <;> rfl

end Survey

namespace Template

/-- The nodes that an analysis comes to, in order. -/
def walk (template : Template) : List NodeId :=
  template.tree.preorder (Survey.descends template.tree) template.root

theorem nodup_walk (template : Template) : template.walk.Nodup :=
  Tree.nodup_preorder ..

/-- The names of the loop variables of a block, if the walk comes to the list. -/
def loopNames (template : Template) (block : NodeId) : List String :=
  ((template.tree.owner? block).filter (· ∈ template.walk)).toList.flatMap template.tree.loopNames

theorem descends_of_block {template : Template} {block : NodeId}
    (isBlock : template.tree.kind? block = some .block) :
    Survey.descends template.tree block = true := by
  rw [Survey.descends, Tree.hasKind, isBlock]
  rfl

theorem scopes_survey (template : Template) (options : AnalysisOptions) :
    (template.survey options).scopes =
      Scopes.after template.tree (template.readHeader options).strict template.walk := by
  rw [survey_eq, Survey.ofTree, Survey.scopes_foldl_step, Tree.filterMap_entered?_tour]
  rfl

/-- An analysis leaves in the template scope what its nodes declare there. -/
theorem declared_template_analyze (template : Template) (options : AnalysisOptions) :
    (template.analyze options).2.declared .template =
      (template.walk.flatMap
        (template.tree.templateNames (template.analyze options).1.strict)).eraseDups := by
  change (template.survey options).scopes.names = _
  rw [scopes_survey, Scopes.names_after]
  rfl

/-- An analysis leaves in a block what its nodes declare there. -/
theorem declared_block_analyze (template : Template) (options : AnalysisOptions)
    (block : NodeId) :
    (template.analyze options).2.declared (.block block) =
      (template.walk.flatMap (template.tree.blockNames block)).eraseDups := by
  change (template.survey options).scopes.block block = _
  rw [scopes_survey, Scopes.block_after]

end Template

end TemplateLanguage
