import TemplateLanguage.Analysis.Problem
import TemplateLanguage.Tree.Ancestry
import TemplateLanguage.Tree.Tour

/-!
# Declarations

Names are declared in blocks and in the template as a whole:

* a macro declares its name in the template if the template is strict;
* a declaration of variables declares them in the block that holds it, or in
  the template if no block does;
* an import declares its namespace in the template;
* a list declares its loop variables in the block that is its body.

A clash is reported for a macro or an import in a strict template whose name
the template declares already, and for a variable that its block declares
already.  Every macro enters the registry, where the last one of a name stays.
-/

namespace TemplateLanguage

/-- The names that a list declares for one loop variable. -/
def loopVariableNames (name : String) : List String :=
  [name, name ++ "_has_next", name ++ "_index"]

/-- The names declared so far, and the macros registered so far. -/
structure Scopes where
  names : Names
  blockNames : Entries NodeId Names
  macros : Entries String NodeId
  deriving DecidableEq, Repr

/-- Names after a declaration, and the problems that it brings. -/
structure Declared where
  scopes : Scopes
  problems : List Problem
  deriving Repr

namespace Scopes

/-- Nothing declared. -/
def start : Scopes :=
  ⟨[], [], []⟩

/-- The names of a block. -/
def block (scopes : Scopes) (id : NodeId) : Names :=
  (scopes.blockNames.lookup id).getD []

/-- Declare names in a block. -/
def declareIn (scopes : Scopes) (id : NodeId) (names : List String) : Scopes :=
  match names with
  | [] => scopes
  | names =>
      { scopes with
        blockNames := Entries.put id (Names.addAll names (scopes.block id)) scopes.blockNames }

/-- Define a macro. -/
def defineMacro (strict : Bool) (scopes : Scopes) (name : String) (id : NodeId) : Declared :=
  { scopes :=
      { scopes with
        names := if strict then Names.add name scopes.names else scopes.names
        macros := Entries.put name id scopes.macros }
    problems :=
      if strict ∧ name ∈ scopes.names then
        [.macroNameInUse name (scopes.macros.lookup name)]
      else
        [] }

/-- Import a namespace. -/
def importName (strict : Bool) (scopes : Scopes) (name : String) : Declared :=
  { scopes := { scopes with names := Names.add name scopes.names }
    problems := if strict ∧ name ∈ scopes.names then [.importNameInUse name] else [] }

/-- The names among the added ones that were declared before. -/
def repeated (declared : Names) : List String → List String
  | [] => []
  | name :: rest =>
      if name ∈ declared then name :: repeated declared rest
      else repeated (Names.add name declared) rest

/-- Declare variables in a block, or in the template. -/
def declareVariables (scopes : Scopes) (block : Option NodeId) (names : List String) :
    Declared :=
  match block with
  | none =>
      { scopes := { scopes with names := Names.addAll names scopes.names }, problems := [] }
  | some id =>
      { scopes := scopes.declareIn id names
        problems := (repeated (scopes.block id) names).map .variableInUse }

/-- Declare the loop variables of a list in its body. -/
def declareLoop (scopes : Scopes) (body : Option NodeId) (index : String)
    (value : Option String) : Scopes :=
  match body with
  | none => scopes
  | some id => scopes.declareIn id ((index :: value.toList).flatMap loopVariableNames)

/-- The effect of one step of a tour. -/
def step (tree : Tree) (strict : Bool) (scopes : Scopes) : Visit → Declared
  | .leave _ => ⟨scopes, []⟩
  | .enter id =>
      match tree.kind? id with
      | some (.macroDefinition name _) => scopes.defineMacro strict name id
      | some (.importDirective _ name) => scopes.importName strict name
      | some (.declaration names) =>
          scopes.declareVariables
            ((tree.parent? id).filter (tree.hasKind NodeKind.isBlock)) names
      | some (.listBlock index value) =>
          ⟨scopes.declareLoop (tree.body? id) index value, []⟩
      | _ => ⟨scopes, []⟩

end Scopes

end TemplateLanguage
