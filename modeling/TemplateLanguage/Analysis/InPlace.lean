import TemplateLanguage.Analysis.Report

/-!
# Analysing in place

When each node holds its escaped form itself, an analysis can go through the nodes and write
the forms where they belong, while it goes on reading the nodes.  The children of a node are
counted when the analysis comes to them, and are then taken one after another, by index, from
what the node lists by then.  A child that is missing by then leaves the analysis without a
result.

The escapes in effect are numbers of nodes.  An expression is escaped by what the innermost of
these nodes holds at that time.
-/

namespace TemplateLanguage

/-- A node with the slot for its escaped form. -/
structure Cell where
  node : Node
  escaped : Option Expr
  deriving Repr

/-- The nodes of a template with their slots, linked as a forest. -/
structure Arena where
  cells : Array Cell
  linked : Linked (cells.map Cell.node)

namespace Arena

/-- The nodes without their slots. -/
def tree (arena : Arena) : Tree :=
  ⟨arena.cells.map Cell.node, arena.linked⟩

/-- What the slot of a node holds. -/
def escaped? (arena : Arena) (id : NodeId) : Option Expr :=
  arena.cells[id]?.bind Cell.escaped

theorem map_node_zipWith {nodes : Array Node} {escaped : Array (Option Expr)}
    (size : escaped.size = nodes.size) :
    (Array.zipWith Cell.mk nodes escaped).map Cell.node = nodes := by
  apply Array.ext_getElem?
  intro id
  rw [Array.getElem?_map, Array.getElem?_zipWith]
  by_cases inside : id < nodes.size
  · rw [Array.getElem?_eq_getElem inside,
      Array.getElem?_eq_getElem (Nat.lt_of_lt_of_eq inside size.symm)]
    rfl
  · rw [Array.getElem?_eq_none (Nat.le_of_not_lt inside)]
    rfl

/-- The nodes of a template with the escaped forms that the template knows. -/
def ofTemplate (template : Template) : Arena where
  cells := Array.zipWith Cell.mk template.tree.nodes template.escaped
  linked := by
    rw [map_node_zipWith template.escaped_size]
    exact template.tree.linked

/-- A node with an escaped form written into its slot, if its kind has one. -/
def written (form : Expr) (cell : Cell) : Cell :=
  match cell.node.kind with
  | .interpolation | .escapeBlock _ => { cell with escaped := some form }
  | _ => cell

theorem node_written (form : Expr) (cell : Cell) : (written form cell).node = cell.node := by
  rw [written]
  split <;> rfl

theorem map_node_modify (cells : Array Cell) (id : NodeId) (form : Expr) :
    (cells.modify id (written form)).map Cell.node = cells.map Cell.node := by
  apply Array.ext_getElem?
  intro other
  rw [Array.getElem?_map, Array.getElem?_map, Array.getElem?_modify]
  split
  · rw [Option.map_map]
    exact congrFun (congrArg _ (funext (node_written form))) _
  · rfl

/-- Write an escaped form into the slot of a node. -/
def write (arena : Arena) (id : NodeId) (form : Expr) : Arena where
  cells := arena.cells.modify id (written form)
  linked := by
    rw [map_node_modify]
    exact arena.linked

end Arena

/-- The state of an analysis in place. -/
structure Pass where
  arena : Arena
  scopes : Scopes
  diagnostics : Array Diagnostic
  strict : Bool
  /-- The escape blocks in effect, the innermost first. -/
  active : List NodeId
  pushes : Nat
  pops : Nat
  maxDepth : Nat

namespace Pass

/-- Nothing visited yet. -/
def start (arena : Arena) (scopes : Scopes) (strict : Bool) (diagnostics : Array Diagnostic) :
    Pass :=
  { arena, scopes, strict, diagnostics
    active := []
    pushes := 0
    pops := 0
    maxDepth := 0 }

/-- Declare and report what one step of a walk shows. -/
def note (options : AnalysisOptions) (visit : Visit) (pass : Pass) : Pass :=
  let tree := pass.arena.tree
  let declared := pass.scopes.step tree pass.strict visit
  let found : List Finding :=
    (declared.problems.map fun problem => ⟨problem, visit.node⟩)
      ++ Usage.findings tree options visit
      ++ (Placement.problems tree pass.strict visit).map fun problem => ⟨problem, visit.node⟩
  { pass with
    scopes := declared.scopes
    diagnostics := pass.diagnostics ++ found.map (Finding.diagnostic tree) }

/-- Put an escape block into effect. -/
def push (block : NodeId) (pass : Pass) : Pass :=
  { pass with
    active := block :: pass.active
    pushes := pass.pushes + 1
    maxDepth := max pass.maxDepth (pass.active.length + 1) }

/-- Take the innermost escape block out of effect, if there is one. -/
def pop (pass : Pass) : Pass :=
  match pass.active with
  | [] => pass
  | _ :: outer => { pass with active := outer, pops := pass.pops + 1 }

/-- Put back into effect what was suspended. -/
def resume (suspended : Option NodeId) (pass : Pass) : Pass :=
  match suspended with
  | none => pass
  | some block => pass.push block

/-- An expression as the innermost escape block writes it. -/
def escapedForm (pass : Pass) (expression : Expr) : Expr :=
  match pass.active with
  | [] => expression
  | block :: _ =>
      match pass.arena.tree.kind? block, pass.arena.escaped? block with
      | some (.escapeBlock parameter), some form => form.substitute parameter expression
      | _, _ => expression

/-- Write the escaped form of a node. -/
def annotate (id : NodeId) (pass : Pass) : Pass :=
  { pass with
    arena := pass.arena.write id (pass.escapedForm (pass.arena.tree.firstExpression id)) }

mutual

/-- Visit a node and the nodes below it.  Headers are not looked into. -/
def visit (options : AnalysisOptions) (id : NodeId) (pass : Pass) : Option Pass :=
  match pass.arena.tree.kind? id with
  | none => none
  | some (.header _) => some pass
  | some .interpolation =>
      (walk options id 0 (pass.arena.tree.children id).length pass).map (annotate id)
  | some (.escapeBlock _) =>
      let entered := (pass.annotate id).push id
      (walk options id 0 (entered.arena.tree.children id).length entered).map pop
  | some .noEscapeBlock =>
      let noted := pass.note options (.enter id)
      let entered := noted.pop
      (walk options id 0 (entered.arena.tree.children id).length entered).map
        (resume noted.active.head?)
  | some _ =>
      let entered := pass.note options (.enter id)
      (walk options id 0 (entered.arena.tree.children id).length entered).map
        (note options (.leave id))
termination_by (id, 1, 0)

/-- Visit some children of a node, from an index on. -/
def walk (options : AnalysisOptions) (id index remaining : Nat) (pass : Pass) : Option Pass :=
  match remaining with
  | 0 => some pass
  | remaining + 1 =>
      match _found : (pass.arena.tree.children id)[index]? with
      | none => none
      | some child =>
          (visit options child pass).bind fun visited =>
            walk options id (index + 1) remaining visited
termination_by (id, 0, remaining)
decreasing_by
  · exact Prod.Lex.left _ _ (Tree.lt_of_mem_children (List.mem_of_getElem? _found))
  · exact Prod.Lex.right _ (Prod.Lex.right _ (Nat.lt_succ_self remaining))

end

/-- What an analysis did that began with a number of diagnostics. -/
def report (kept : Nat) (pass : Pass) : Report :=
  { strict := pass.strict
    problems := pass.diagnostics.size - kept
    pushes := pass.pushes
    pops := pass.pops
    maxDepth := pass.maxDepth
    depth := pass.active.length }

end Pass

namespace Template

/-- A template after the analysis in place of a fresh one. -/
def finish (fresh : Template) (pass : Pass) : Template :=
  { fresh with
    tree := pass.arena.tree
    strict := pass.strict
    diagnostics := pass.diagnostics
    macros := pass.scopes.macros
    names := pass.scopes.names
    blockNames := pass.scopes.blockNames
    escaped := pass.arena.cells.map Cell.escaped
    escaped_size := by simp [Arena.tree, Tree.size] }

/-- Analyse a template in place. -/
def analyzeInPlace (template : Template) (options : AnalysisOptions) :
    Option (Report × Template) :=
  let fresh := template.resetAnalysis
  let strict := (fresh.readHeader options).strict
  let found := (fresh.headerFindings options).map (Finding.diagnostic fresh.tree)
  let begun := Pass.start (.ofTemplate fresh) fresh.scopes strict (fresh.diagnostics ++ found)
  (begun.visit options fresh.root).map fun pass =>
    (pass.report fresh.diagnostics.size, fresh.finish pass)

end Template

end TemplateLanguage
