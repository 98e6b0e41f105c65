import TemplateLanguage.Analysis.Problem
import TemplateLanguage.Tree.Ancestry
import TemplateLanguage.Tree.Tour

/-!
# Placement of directives

Some directives are only allowed inside certain others.  Each rule looks at
the ancestors of a node:

* a break needs a list, a noescape block needs an escape block;
* a return needs a macro, and the nearest one decides about its value;
* an assignment to local variables needs a macro, and a strict template may
  use no assignment but `set`;
* in a strict template, every ancestor of a macro must admit macros.

Macros and noescape blocks are judged on entry, the others on leaving.
-/

namespace TemplateLanguage.Placement

/-- The kind of the nearest macro around a node. -/
def enclosingMacro? (tree : Tree) (id : NodeId) : Option MacroKind :=
  (tree.ancestors id).findSome? fun ancestor => (tree.kind? ancestor).bind NodeKind.macroKind?

/-- The problems of a macro: one for each ancestor that admits no macros. -/
def macroProblems (tree : Tree) (strict : Bool) (name : String) (id : NodeId) : List Problem :=
  if strict then
    ((tree.ancestors id).filterMap tree.kind?).filterMap fun kind =>
      if kind.admitsMacros then none else some (.macroWithin name kind)
  else
    []

/-- The problems of a noescape block. -/
def noEscapeProblems (tree : Tree) (id : NodeId) : List Problem :=
  if (tree.firstAncestor? NodeKind.isEscape id).isSome then [] else [.noEscapeOutsideEscape]

/-- The problems of a break. -/
def breakProblems (tree : Tree) (id : NodeId) : List Problem :=
  if (tree.firstAncestor? NodeKind.isList id).isSome then [] else [.breakOutsideList]

/-- The problems of a return inside a macro of some kind, or inside none. -/
def returnProblems (enclosing : Option MacroKind) (hasValue : Bool) : List Problem :=
  match enclosing, hasValue with
  | none, _ => [.returnOutsideMacro]
  | some .procedure, true => [.valueFromProcedure]
  | some .function, false => [.noValueFromFunction]
  | some .procedure, false | some .function, true => []

/-- The problems of the word that an assignment uses. -/
def directiveProblems (strict insideMacro : Bool) (directive : AssignDirective) :
    List Problem :=
  if strict then
    if directive = .set then [] else [.deprecated directive]
  else
    if directive = .setLocal ∧ ¬insideMacro then [.localOutsideMacro] else []

/-- The problems of the word of an assignment at a node. -/
def assignmentProblems (tree : Tree) (strict : Bool) (directive : AssignDirective)
    (id : NodeId) : List Problem :=
  directiveProblems strict (enclosingMacro? tree id).isSome directive

/-- The problems that one step of a tour shows. -/
def problems (tree : Tree) (strict : Bool) : Visit → List Problem
  | .enter id =>
      match tree.kind? id with
      | some (.macroDefinition name _) => macroProblems tree strict name id
      | some .noEscapeBlock => noEscapeProblems tree id
      | _ => []
  | .leave id =>
      match tree.kind? id with
      | some .breakDirective => breakProblems tree id
      | some .returnDirective =>
          returnProblems (enclosingMacro? tree id) !(tree.children id).isEmpty
      | some (.assignment directive _) => assignmentProblems tree strict directive id
      | some (.blockAssignment directive _) => assignmentProblems tree strict directive id
      | _ => []

end TemplateLanguage.Placement
