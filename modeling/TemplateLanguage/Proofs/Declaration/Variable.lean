import TemplateLanguage.Proofs.Declaration.Clash

/-!
# Variables declared twice

A statement of a block reports each of its variables that the block declares
already, once for each time that it names it.  Which ones these are can be read
off the names that the statements of the block list, by place: a name is reported
where it comes again, or where it is the name of a loop variable of the block.

What other blocks or the template declare does not matter, however the walk
comes to it between two statements.
-/

namespace TemplateLanguage

/-- Whether a node declares variables. -/
def NodeKind.isDeclaration : NodeKind → Bool
  | declaration _ => true
  | _ => false

namespace Tree

/-- The statements of a block that declare variables. -/
def declarations (tree : Tree) (block : NodeId) : List NodeId :=
  (tree.children block).filter (tree.hasKind NodeKind.isDeclaration)

/-- The variables that some nodes list, each with its node. -/
def entries (tree : Tree) (nodes : List NodeId) : List (NodeId × String) :=
  nodes.flatMap fun id => (tree.variableNames id).map fun name => (id, name)

/-- The diagnostic of a variable that its block declares already. -/
def variableClash (tree : Tree) (entry : NodeId × String) : Diagnostic :=
  { kind := .duplicateDeclaration
    span := tree.span entry.1
    message := "The variable " ++ entry.2 ++ " has already been declared in this block."
    labels := [] }

theorem map_snd_entries (tree : Tree) (nodes : List NodeId) :
    (tree.entries nodes).map Prod.snd = nodes.flatMap tree.variableNames := by
  rw [entries, List.map_flatMap]
  apply List.flatMap_congr
  intro id _
  rw [List.map_map]
  exact List.map_id _

theorem entries_append_singleton (tree : Tree) (nodes : List NodeId) (id : NodeId) :
    tree.entries (nodes ++ [id]) =
      tree.entries nodes ++ (tree.variableNames id).map fun name => (id, name) := by
  rw [entries, List.flatMap_append, List.flatMap_singleton]
  rfl

theorem variableNames_of_hasKind_eq_false {tree : Tree} {id : NodeId}
    (other : tree.hasKind NodeKind.isDeclaration id = false) : tree.variableNames id = [] := by
  rw [variableNames]
  split
  · rename_i names kind
    rw [hasKind, kind] at other
    cases other
  · rfl

end Tree

/-! ## Names by place -/

/-- The entries whose name is known or stands at an earlier place. -/
def surplus (known : List String) (entries : List (NodeId × String)) : List (NodeId × String) :=
  (entries.zipIdx.filter fun place =>
    place.1.2 ∈ known ∨ place.1.2 ∈ (entries.take place.2).map Prod.snd).map Prod.fst

theorem surplus_append_singleton (known : List String) (entries : List (NodeId × String))
    (entry : NodeId × String) :
    surplus known (entries ++ [entry]) =
      surplus known entries
        ++ if entry.2 ∈ known ++ entries.map Prod.snd then [entry] else [] := by
  have before : entries.zipIdx.filter (fun place =>
        place.1.2 ∈ known ∨ place.1.2 ∈ ((entries ++ [entry]).take place.2).map Prod.snd) =
      entries.zipIdx.filter fun place =>
        place.1.2 ∈ known ∨ place.1.2 ∈ (entries.take place.2).map Prod.snd := by
    apply List.filter_congr
    rintro ⟨other, index⟩ member
    have inside := (List.mem_zipIdx' member).1
    rw [List.take_append_of_le_length (Nat.le_of_lt inside)]
  rw [surplus, surplus, List.zipIdx_append, List.filter_append, before, List.map_append]
  congr 1
  by_cases present : entry.2 ∈ known ++ entries.map Prod.snd <;> simp_all

namespace Scopes

theorem repeated_cons (declared : Names) (name : String) (rest : List String) :
    repeated declared (name :: rest) =
      (if name ∈ declared then [name] else []) ++ repeated (Names.add name declared) rest := by
  rw [repeated]
  by_cases present : name ∈ declared <;> simp [Names.add, present]

/-- Going through names one by one finds those that come again. -/
theorem surplus_append_map (known : List String) (entries : List (NodeId × String)) (id : NodeId)
    (names : List String) :
    surplus known (entries ++ names.map fun name => (id, name)) =
      surplus known entries
        ++ (repeated (known ++ entries.map Prod.snd).eraseDups names).map fun name =>
            (id, name) := by
  induction names generalizing entries with
  | nil => simp [repeated]
  | cons name rest ih =>
      have next : (known ++ (entries ++ [(id, name)]).map Prod.snd).eraseDups =
          Names.add name (known ++ entries.map Prod.snd).eraseDups := by
        rw [Names.add_eraseDups]
        simp
      calc surplus known (entries ++ (name :: rest).map fun name => (id, name))
          = surplus known ((entries ++ [(id, name)]) ++ rest.map fun name => (id, name)) := by
            simp
        _ = surplus known (entries ++ [(id, name)])
              ++ (repeated (Names.add name (known ++ entries.map Prod.snd).eraseDups) rest).map
                fun name => (id, name) := by rw [ih, next]
        _ = _ := by
            rw [surplus_append_singleton, repeated_cons, List.map_append, List.append_assoc]
            simp only [List.mem_eraseDups]
            split <;> rfl

end Scopes

/-! ## Statements of a block -/

namespace Template

variable {template : Template} {options : AnalysisOptions} {block : NodeId}

/-- Where the walk comes to a statement of a block, the block declares its loop
variables and those of its statements so far. -/
theorem flatMap_blockNames_of_walk_eq {earlier later : List NodeId} {id : NodeId}
    (cut : template.walk = earlier ++ id :: later)
    (statement : template.tree.block? id = some block) :
    earlier.flatMap (template.tree.blockNames block) =
      template.loopNames block
        ++ (earlier.filter fun id => template.tree.block? id = some block).flatMap
          template.tree.variableNames := by
  have ordered := template.tree.pairwise_body?_preorder (Survey.descends template.tree)
    template.root block
  have owners := template.tree.filter_body?_preorder (Survey.descends template.tree)
    template.root block
  rw [← walk, cut] at ordered
  obtain ⟨before, behind, _⟩ := List.pairwise_append.mp ordered
  -- The list around the block comes before its statements, so all of it is seen.
  have notBody : template.tree.body? id ≠ some block := by
    intro body
    have lower := Tree.lt_of_mem_children (Tree.block?_eq_some_iff.mp statement).1
    have upper := Tree.lt_of_mem_children (List.mem_of_find?_eq_some body)
    exact Nat.lt_asymm lower upper
  have rest : (id :: later).filter (fun id => template.tree.body? id = some block) = [] := by
    rw [List.filter_eq_nil_iff]
    intro other member body
    rcases List.mem_cons.mp member with rfl | member
    · exact notBody (of_decide_eq_true body)
    · exact (List.pairwise_cons.mp behind).1 other member statement (of_decide_eq_true body)
  rw [← walk, cut, List.filter_append, rest, List.append_nil, ← cut] at owners
  rw [Tree.flatMap_blockNames before, owners, loopNames]

/-- A statement of a block reports its variables that come again. -/
theorem duplicates_of_block? {earlier later : List NodeId} {id : NodeId}
    (cut : template.walk = earlier ++ id :: later)
    (statement : template.tree.block? id = some block)
    (declaration : template.tree.hasKind NodeKind.isDeclaration id = true) :
    template.duplicates options id =
      ((Scopes.repeated
        (template.loopNames block
          ++ (earlier.filter fun id => template.tree.block? id = some block).flatMap
            template.tree.variableNames).eraseDups
        (template.tree.variableNames id)).map fun name => (id, name)).map
          template.tree.variableClash := by
  rw [duplicates_of_walk_eq cut, ← flatMap_blockNames_of_walk_eq cut statement,
    ← Scopes.block_after]
  rw [Tree.block?] at statement
  rw [Tree.hasKind, Option.any_eq_true] at declaration
  obtain ⟨kind, found, isDeclaration⟩ := declaration
  cases kind with
  | declaration names =>
      simp only [Scopes.step, Tree.variableNames, found, statement, Scopes.declareVariables,
        List.map_map]
      rfl
  | _ => cases isDeclaration

/-- The statements of a block that the walk has come to report the variables that
come again among theirs. -/
theorem flatMap_duplicates_of_walk_eq (options : AnalysisOptions) (block : NodeId)
    {nodes later : List NodeId} (cut : template.walk = nodes ++ later) :
    ((nodes.filter fun id => template.tree.block? id = some block).filter
        (template.tree.hasKind NodeKind.isDeclaration)).flatMap (template.duplicates options) =
      (surplus (template.loopNames block)
        (template.tree.entries
          (nodes.filter fun id => template.tree.block? id = some block))).map
        template.tree.variableClash := by
  -- The walk is taken node by node: what comes before a statement decides about it,
  -- and a node that is none, wherever it stands, changes neither side.
  induction nodes using List.reverseRecOn generalizing later with
  | nil => rfl
  | append_singleton nodes id ih =>
      have cut : template.walk = nodes ++ id :: later := by rw [cut, List.append_assoc]; rfl
      have ih := ih cut
      rw [List.filter_append]
      by_cases statement : template.tree.block? id = some block
      · have only : [id].filter (fun id => template.tree.block? id = some block) = [id] := by
          simp [statement]
        rw [only, List.filter_append, List.flatMap_append, ih, Tree.entries_append_singleton]
        cases declaration : template.tree.hasKind NodeKind.isDeclaration id with
        | true =>
            have here : template.duplicates options id = _ :=
              duplicates_of_block? cut statement declaration
            rw [Scopes.surplus_append_map, Tree.map_snd_entries, List.map_append, ← here]
            simp [declaration]
        | false =>
            rw [Tree.variableNames_of_hasKind_eq_false declaration]
            simp [declaration]
      · have aside : [id].filter (fun id => template.tree.block? id = some block) = [] := by
          simp [statement]
        rw [aside, List.append_nil, ih]

/-- In a block that an analysis comes to, the statements report one variable for
each place where a name comes again or is that of a loop variable, in order.
Other blocks, the template scope and what the template holds from elsewhere have
no part in it. -/
theorem duplicates_analyze_of_block (template : Template) (options : AnalysisOptions)
    {block : NodeId} (reached : block ∈ template.walk)
    (isBlock : template.tree.kind? block = some .block) :
    (template.analyze options).2.recorded.filter (fun diagnostic =>
        diagnostic.kind = .duplicateDeclaration) =
        template.walk.flatMap (template.duplicates options) ∧
      (template.tree.declarations block).Sublist template.walk ∧
      (template.tree.declarations block).flatMap (template.duplicates options) =
        (surplus (template.loopNames block)
          (template.tree.entries (template.tree.children block))).map
          template.tree.variableClash := by
  have down := descends_of_block isBlock
  have all := flatMap_duplicates_of_walk_eq options block (List.append_nil template.walk).symm
  rw [walk, Tree.filter_block?_preorder reached down isBlock] at all
  exact ⟨filter_recorded_analyze_duplicate template options,
    List.filter_sublist.trans (Tree.children_sublist_preorder reached down), all⟩

/-- A list whose body declares variables around a block that does so as well. -/
def repetitive : Build Template := do
  let first ← Build.node (.declaration ["x", "k", "x"]) []
  let inner ← Build.node (.declaration ["x"]) []
  let nested ← Build.block [inner]
  let last ← Build.node (.declaration ["y", "x"]) []
  let sequence ← Build.node (.expression (.identifier "xs")) []
  let list ← Build.withBody (.listBlock "k" none) [sequence] [first, nested, last]
  Build.finish [list]

/-- The template of `repetitive`. -/
def repetitiveTemplate : Template :=
  (repetitive (.new "repetitive")).get (by decide) |>.1

/-- The body reports the loop variable and both repetitions of its own variable, but
not the variable of the block inside. -/
theorem duplicates_analyze_repetitiveTemplate :
    5 ∈ repetitiveTemplate.walk ∧ repetitiveTemplate.tree.kind? 5 = some .block ∧
      (repetitiveTemplate.tree.declarations 5).flatMap (repetitiveTemplate.duplicates {}) =
        [(0, "k"), (0, "x"), (3, "x")].map repetitiveTemplate.tree.variableClash := by
  have reached : 5 ∈ repetitiveTemplate.walk := by decide +kernel
  have isBlock : repetitiveTemplate.tree.kind? 5 = some .block := by decide
  refine ⟨reached, isBlock, ?_⟩
  rw [(duplicates_analyze_of_block repetitiveTemplate {} reached isBlock).2.2]
  decide +kernel

end Template

end TemplateLanguage
