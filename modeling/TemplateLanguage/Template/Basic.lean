import TemplateLanguage.Diagnostic.Basic
import TemplateLanguage.Tree.Ancestry
import TemplateLanguage.Tree.Expression

/-!
# Templates

A template is a tree with a root and perhaps a header, together with what is
known about it: the strict flag, diagnostics, the registry of macros, declared
names, and the escaped forms of interpolations and escape blocks.

Diagnostics come from two sides.  The host may record some at any time, and an
analysis appends its own; `analysisStart` remembers how many there were when
the last analysis began, so that the next one can discard what it appended.
-/

namespace TemplateLanguage

/-- Where a name is declared. -/
inductive Scope where
  | template
  | block (id : NodeId)
  deriving DecidableEq, Repr

/-- A template and what is known about it. -/
structure Template where
  name : String
  tree : Tree
  root : NodeId
  header : Option NodeId
  strict : Bool
  diagnostics : Array Diagnostic
  macros : Entries String NodeId
  names : Names
  blockNames : Entries NodeId Names
  escaped : Array (Option Expr)
  analysisStart : Option Nat
  escaped_size : escaped.size = tree.size

namespace Template

/-- A template about which nothing is known. -/
def ofTree (name : String) (tree : Tree) (root : NodeId) (header : Option NodeId) : Template :=
  { name, tree, root, header
    strict := false
    diagnostics := #[]
    macros := []
    names := []
    blockNames := []
    escaped := Array.replicate tree.size none
    analysisStart := none
    escaped_size := by simp }

/-- The escaped form of an interpolation or an escape block. -/
def escaped? (template : Template) (id : NodeId) : Option Expr :=
  template.escaped[id]?.join

/-! ## The tree -/

/-- Create a node that adopts its children. -/
def add? (template : Template) (kind : NodeKind) (span : Span) (children : List NodeId) :
    Option Template :=
  match added : template.tree.add? kind span children with
  | none => none
  | some tree =>
      some { template with
        tree
        escaped := template.escaped.push none
        escaped_size := by simp [template.escaped_size, Tree.size_of_add? added] }

/-- Change the span of a node. -/
def setSpan (template : Template) (id : NodeId) (span : Span) : Template :=
  { template with
    tree := template.tree.setSpan id span
    escaped_size := by simp [template.escaped_size, Tree.size_setSpan] }

/-! ## Diagnostics -/

/-- Append a diagnostic. -/
def record (template : Template) (diagnostic : Diagnostic) : Template :=
  { template with diagnostics := template.diagnostics.push diagnostic }

/-- Remove all diagnostics. -/
def clearDiagnostics (template : Template) : Template :=
  { template with diagnostics := #[] }

/-- Whether there are diagnostics. -/
def hasProblems (template : Template) : Bool :=
  !template.diagnostics.isEmpty

/-- Discard what the last analysis declared, registered and appended, and
remember where the next one begins. -/
def resetAnalysis (template : Template) : Template :=
  let kept :=
    match template.analysisStart with
    | some start => template.diagnostics.take start
    | none => template.diagnostics
  { template with
    diagnostics := kept
    analysisStart := some kept.size
    macros := []
    names := []
    blockNames := [] }

/-! ## Macros and names -/

/-- Register a macro; a later macro of the same name replaces it. -/
def addMacro (template : Template) (name : String) (node : NodeId) : Template :=
  { template with macros := Entries.put name node template.macros }

/-- The macro registered under a name. -/
def macro? (template : Template) (name : String) : Option NodeId :=
  template.macros.lookup name

/-- The names declared in a scope, in order of declaration. -/
def declared (template : Template) : Scope → Names
  | .template => template.names
  | .block id => (template.blockNames.lookup id).getD []

/-- Whether a name is declared in a scope itself. -/
def declares (template : Template) (scope : Scope) (name : String) : Bool :=
  name ∈ template.declared scope

/-- Declare a name in a scope. -/
def declare (template : Template) (scope : Scope) (name : String) : Template :=
  let names := Names.add name (template.declared scope)
  match scope with
  | .template => { template with names }
  | .block id => { template with blockNames := Entries.put id names template.blockNames }

/-- Whether a name resolves at a node: in the node itself or an ancestor, if
that is a block, or in the template scope. -/
def resolves (template : Template) (id : NodeId) (name : String) : Bool :=
  ((id :: template.tree.ancestors id).any fun block =>
    template.tree.hasKind NodeKind.isBlock block && template.declares (.block block) name)
  || template.declares .template name

end Template

end TemplateLanguage
