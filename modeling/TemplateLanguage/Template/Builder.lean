import TemplateLanguage.Template.Basic

/-!
# Building templates

A template is built from the leaves up.  Every construction creates one node,
after a block for its body where it has one, and yields the number of the
node.  A new node spans one byte, at the offset that is its own number, on the
line that was set last.

A construction fails where a child is missing or already in use.
-/

namespace TemplateLanguage

/-- A template that is being built. -/
structure Builder where
  name : String
  tree : Tree
  header : Option NodeId
  line : Nat

/-- A construction of some nodes that yields a value. -/
abbrev Build :=
  StateT Builder Option

namespace Builder

/-- The builder of an empty template. -/
def new (name : String) : Builder :=
  { name, tree := .empty, header := none, line := 1 }

end Builder

namespace Build

/-- Set the line of the nodes created from now on. -/
def atLine (line : Nat) : Build Unit :=
  modify fun builder => { builder with line }

/-- Create a node. -/
def node (kind : NodeKind) (children : List NodeId) : Build NodeId := fun builder =>
  let id := builder.tree.size
  (builder.tree.add? kind ⟨id, id + 1, builder.line⟩ children).map fun tree =>
    (id, { builder with tree })

/-- Create a block of statements. -/
def block (statements : List NodeId) : Build NodeId :=
  node .block statements

/-- Create a node whose last child is a block of statements. -/
def withBody (kind : NodeKind) (operands body : List NodeId) : Build NodeId := do
  let body ← block body
  node kind (operands ++ [body])

/-- Create an assignment of values to targets. -/
def assignment (directive : AssignDirective) (pairs : List (NodeId × NodeId)) : Build NodeId :=
  node (.assignment directive (pairs.map Prod.fst))
    (pairs.flatMap fun pair => [pair.1, pair.2])

/-- Create a header, which becomes the header of the template.  A repeated key
keeps its first place and its last value. -/
def header (parameters : List (String × NodeId)) : Build NodeId := do
  let id ← node (.header (Entries.ofList parameters)) (parameters.map Prod.snd)
  modify fun builder => { builder with header := some id }
  return id

/-- Put statements into a block at the root. -/
def finish (statements : List NodeId) : Build Template := do
  let root ← block statements
  let builder ← get
  return Template.ofTree builder.name builder.tree root builder.header

/-- Use a node as the root. -/
def finishAt (root : NodeId) (header : Option NodeId) : Build Template := do
  let builder ← get
  return Template.ofTree builder.name builder.tree root header

end Build

end TemplateLanguage
