import TemplateLanguage.Analysis.Problem

/-!
# The header of a template

A header may set the strict flag, directly or through its opposite, the legacy
flag; the last parameter that can be read decides.  A parameter that does not
exist or cannot be read is reported and changes nothing.
-/

namespace TemplateLanguage

/-- The parameters that a header may set. -/
inductive HeaderParameter where
  | strictVars
  | legacySyntax
  /-- Means nothing to the analysis. -/
  | encoding
  deriving DecidableEq, Repr

namespace HeaderParameter

/-- The parameter with a given name. -/
def ofKey? (key : String) : Option HeaderParameter :=
  if key = "strict_vars" then some strictVars
  else if key = "legacy_syntax" then some legacySyntax
  else if key = "encoding" then some encoding
  else none

end HeaderParameter

/-- What a header says. -/
structure HeaderReading where
  strict : Bool
  problems : List Problem
  deriving Repr

namespace HeaderReading

/-- Read one flag of a header; `ofFlag` turns its value into the strict flag. -/
def readFlag (tree : Tree) (header : NodeId) (key : String) (ofFlag : Bool → Bool)
    (reading : HeaderReading) : HeaderReading :=
  match tree.booleanParameter header key with
  | .ok value => { reading with strict := ofFlag value }
  | .error error =>
      { reading with problems := reading.problems ++ [.invalidParameter error] }

/-- Read one parameter of a header. -/
def readParameter (tree : Tree) (header : NodeId) (reading : HeaderReading) (key : String) :
    HeaderReading :=
  match HeaderParameter.ofKey? key with
  | none => { reading with problems := reading.problems ++ [.unknownParameter key] }
  | some .encoding => reading
  | some .strictVars => readFlag tree header key id reading
  | some .legacySyntax => readFlag tree header key not reading

/-- Read a header, given the strict flag that holds if it sets none. -/
def ofHeader (tree : Tree) (strict : Bool) (header : NodeId) : HeaderReading :=
  match tree.kind? header with
  | some (.header parameters) =>
      (parameters.map Prod.fst).foldl (readParameter tree header) ⟨strict, []⟩
  | _ => ⟨strict, []⟩

end HeaderReading

end TemplateLanguage
