import OrderPipeline.Keyed
import OrderPipeline.Toml.Tree

/-!
# Changes that do not look at values

The changes that the lines of a file make look at tables, but not at the values in them. So two
trees that differ in one value only (`Tree.DifferAt`) are changed alike (`Change.keeps_foldlM`), and
what they stand for differs in that value only (`build?_swap`).
-/

namespace OrderPipeline.Toml

/-! ## Looking up -/

/-- What stands under a name after a tree was put under one. -/
theorem Branch.lookup_put (name other : String) (tree : Tree) (branch : Branch) :
    (Branch.put name tree branch).lookup other =
      if other = name then some tree else branch.lookup other := by
  induction branch with
  | nil => rw [Branch.put, Keyed.lookup_entry]
  | cons entry rest ih =>
    obtain ⟨first, old⟩ := entry
    by_cases found : name = first
    · subst found
      simp only [Branch.put, if_true, Keyed.lookup_entry]
      split <;> rfl
    · simp only [Branch.put, if_neg found, Keyed.lookup_entry, ih]
      by_cases same : other = first
      · have different : other ≠ name := fun isName => found (isName.symm.trans same)
        rw [if_pos same, if_neg different, if_pos same]
      · rw [if_neg same, if_neg same]

/-- The entries of a finished table are its parts, finished. -/
theorem lookup_toEntries (name : String) (branch : Branch) :
    (Tree.toEntries branch).lookup name = (branch.lookup name).map Tree.toValue := by
  induction branch with
  | nil => rfl
  | cons entry rest ih =>
    obtain ⟨first, tree⟩ := entry
    simp only [Tree.toEntries, Keyed.lookup_entry, ih]
    split <;> rfl

/-! ## Two trees -/

/-- Two trees differ at a path only, where they have two values. Where the path leads through a
list of tables, tables before the last may differ in any way. -/
inductive Tree.DifferAt (x y : Value) : List String → Tree → Tree → Prop
  /-- The path leads here. -/
  | value : DifferAt x y [] (.value x) (.value y)
  /-- The path leads on through an entry of a table. -/
  | table {origin : Origin} {name : String} {path : List String} {branch branch' : Branch}
    {tree tree' : Tree} (own : branch.lookup name = some tree)
    (own' : branch'.lookup name = some tree') (inside : DifferAt x y path tree tree')
    (others : ∀ other ≠ name, branch.lookup other = branch'.lookup other) :
    DifferAt x y (name :: path) (.table origin branch) (.table origin branch')
  /-- The path leads on through the last table of a list. -/
  | last {path : List String} {earlier earlier' : List Branch} {last last' : Branch}
    (inside : DifferAt x y path (.table .defined last) (.table .defined last')) :
    DifferAt x y path (.tables earlier last) (.tables earlier' last')
  /-- The path leads to a table of a list before the last one. -/
  | earlier {path : List String} {earlier earlier' : List Branch} {last : Branch} :
    DifferAt x y path (.tables earlier last) (.tables earlier' last)

/-- The entries of two tables differ at a path only. -/
def Branch.DifferAt (x y : Value) (path : List String) (branch branch' : Branch) : Prop :=
  Tree.DifferAt x y path (.table .defined branch) (.table .defined branch')

section Differ

variable {x y : Value} {path : List String} {branch branch' : Branch} {origin : Origin}

/-- Two tables differ where their entries do. -/
theorem Branch.DifferAt.toTable (differ : Branch.DifferAt x y path branch branch')
    (origin : Origin) : Tree.DifferAt x y path (.table origin branch) (.table origin branch') := by
  cases differ with
  | table own own' inside others => exact .table own own' inside others

end Differ

/-! ## Changes of one entry -/

namespace Change

/-- The change of the entry under a name. -/
def under (name : String) (edit : Origin → Option Tree → Option Tree) : Change :=
  fun origin branch =>
    (edit origin (branch.lookup name)).map fun tree => (origin, Branch.put name tree branch)

/-- The tree that a change makes of the one that a path begins with, if there is one. -/
def within (change : Change) (made : Origin) (path : List String) : Option Tree → Option Tree
  | none => (along change made path made []).map fun found => .table found.1 found.2
  | some (.value _) => none
  | some (.tables earlier last) =>
    (along change made path .defined last).map fun found => .tables earlier found.2
  | some (.table inner entries) =>
    if made = .dotted ∧ inner = .defined then none
    else (along change made path inner entries).map fun found => .table found.1 found.2

/-- A change along a path changes the entry that the path begins with. -/
theorem along_cons (change : Change) (made : Origin) (name : String) (path : List String) :
    along change made (name :: path) = under name fun _ => within change made path := by
  funext origin branch
  rw [along, under]
  cases branch.lookup name with
  | none => simp [within]; rfl
  | some tree =>
    cases tree with
    | value => rfl
    | tables earlier last => simp [within]; rfl
    | table inner entries =>
      by_cases closed : made = .dotted ∧ inner = .defined
      · simp [within, closed]
      · simp [within, closed]; rfl

theorem add_eq (isDotted : Bool) (name : String) (value : Value) :
    add isDotted name value = under name fun origin tree =>
      if (origin == .dotted) != isDotted || tree.isSome then none else some (.value value) := by
  funext origin branch
  rw [add, under]
  split <;> rfl

theorem define_eq (name : String) :
    define name = under name fun _ tree =>
      match tree with
      | none => some (.table .defined [])
      | some (.table .implied entries) => some (.table .defined entries)
      | some _ => none := by
  funext origin branch
  rw [define, under]
  cases branch.lookup name with
  | none => rfl
  | some tree => cases tree with
    | table origin entries => cases origin <;> rfl
    | value | tables => rfl

theorem extend_eq (name : String) :
    extend name = under name fun _ tree =>
      match tree with
      | none => some (.tables [] [])
      | some (.tables earlier last) => some (.tables (earlier ++ [last]) [])
      | some _ => none := by
  funext origin branch
  rw [extend, under]
  cases branch.lookup name with
  | none => rfl
  | some tree => cases tree <;> rfl

/-! ## Changes of two trees -/

variable {x y : Value} {change change' : Change}

/-- Whether a change that is made to a table is made to every table that differs from it in a value,
and leads to tables that still differ in that value only. -/
structure Keeps (x y : Value) (change : Change) : Prop where
  /-- It is made to the other table as well. -/
  made {path : List String} {origin origin₁ : Origin} {branch branch' branch₁ : Branch} :
    Branch.DifferAt x y path branch branch' → change origin branch = some (origin₁, branch₁) →
      ∃ branch₁', change origin branch' = some (origin₁, branch₁') ∧
        Branch.DifferAt x y path branch₁ branch₁'

/-- A change of one entry keeps a difference that it keeps within that entry. -/
theorem keeps_under {name : String} {edit : Origin → Option Tree → Option Tree}
    (keeps : ∀ {path origin tree tree' tree₁}, Tree.DifferAt x y path tree tree' →
      edit origin (some tree) = some tree₁ →
        ∃ tree₁', edit origin (some tree') = some tree₁' ∧ Tree.DifferAt x y path tree₁ tree₁') :
    Keeps x y (under name edit) := by
  refine ⟨fun {path origin origin₁ branch branch' branch₁} differ changed => ?_⟩
  obtain ⟨tree₁, edited, same⟩ := Option.map_eq_some_iff.1 changed
  cases same
  cases differ with
  | @table _ entry path _ _ tree tree' own own' inside others =>
    -- the entry that changes is the one that leads to the difference, or stands beside it
    by_cases same : name = entry
    · subst same
      rw [own] at edited
      obtain ⟨tree₁', edited', inside⟩ := keeps inside edited
      refine ⟨Branch.put name tree₁' branch', by rw [under, own', edited']; rfl, ?_⟩
      refine .table (by rw [Branch.lookup_put, if_pos rfl]) (by rw [Branch.lookup_put, if_pos rfl])
        inside fun other different => ?_
      rw [Branch.lookup_put, Branch.lookup_put, if_neg different, if_neg different,
        others other different]
    · have apart : entry ≠ name := Ne.symm same
      refine ⟨Branch.put name tree₁ branch', by rw [under, ← others name same, edited]; rfl, ?_⟩
      refine .table (by rw [Branch.lookup_put, if_neg apart, own])
        (by rw [Branch.lookup_put, if_neg apart, own']) inside fun other different => ?_
      rw [Branch.lookup_put, Branch.lookup_put, others other different]

/-- A name that stands for a tree is taken. -/
theorem keeps_add (isDotted : Bool) (name : String) (value : Value) :
    Keeps x y (add isDotted name value) := by
  rw [add_eq]
  refine keeps_under fun {path origin tree tree' tree₁} _ edited => ?_
  simp at edited

theorem keeps_define (name : String) : Keeps x y (define name) := by
  rw [define_eq]
  refine keeps_under fun {path origin tree tree' tree₁} differ edited => ?_
  split at edited
  · next same => cases same
  · next entries same =>
    cases same
    cases edited
    cases differ with
    | table own own' inside others => exact ⟨_, rfl, .table own own' inside others⟩
  · cases edited

theorem keeps_extend (name : String) : Keeps x y (extend name) := by
  rw [extend_eq]
  refine keeps_under fun {path origin tree tree' tree₁} differ edited => ?_
  split at edited
  · next same => cases same
  · next earlier last same =>
    cases same
    cases edited
    cases differ with
    | last | earlier => exact ⟨_, rfl, .earlier⟩
  · cases edited

/-- What a change keeps it keeps along a path. -/
theorem Keeps.along (keeps : Keeps x y change) (made : Origin) (path : List String) :
    Keeps x y (along change made path) := by
  induction path with
  | nil => exact keeps
  | cons name path ih =>
    rw [along_cons]
    refine keeps_under fun {path₀ origin tree tree' tree₁} differ edited => ?_
    -- a path does not lead on through a value, so the change never gets to the difference itself
    cases differ with
    | value => cases edited
    | @table inner entry rest branch branch' _ _ own own' inside others =>
      dsimp only [within] at edited ⊢
      split at edited
      · cases edited
      · next opens =>
        obtain ⟨⟨inner₁, branch₁⟩, changed, same⟩ := Option.map_eq_some_iff.1 edited
        cases same
        obtain ⟨branch₁', changed', differ⟩ := ih.made (.table own own' inside others) changed
        exact ⟨.table inner₁ branch₁', by rw [if_neg opens, changed']; rfl, differ.toTable inner₁⟩
    | last inside =>
      obtain ⟨⟨inner₁, branch₁⟩, changed, same⟩ := Option.map_eq_some_iff.1 edited
      cases same
      obtain ⟨branch₁', changed', differ⟩ := ih.made inside changed
      exact ⟨.tables _ branch₁', by rw [within, changed']; rfl, .last differ⟩
    | earlier =>
      obtain ⟨⟨inner₁, branch₁⟩, changed, same⟩ := Option.map_eq_some_iff.1 edited
      cases same
      exact ⟨.tables _ branch₁, by rw [within, changed]; rfl, .earlier⟩

/-- Whether two changes are made to the same tables, and lead to tables that differ at a path only,
where they have two values. -/
structure Part (x y : Value) (path : List String) (change change' : Change) : Prop where
  /-- The other change is made as well. -/
  made {origin origin₁ : Origin} {branch branch₁ : Branch} :
    change origin branch = some (origin₁, branch₁) →
      ∃ branch₁', change' origin branch = some (origin₁, branch₁') ∧
        Branch.DifferAt x y path branch₁ branch₁'

/-- Changes of one entry part where they part within that entry. -/
theorem part_under {name : String} {path : List String}
    {edit edit' : Origin → Option Tree → Option Tree}
    (part : ∀ {origin found tree₁}, edit origin found = some tree₁ →
      ∃ tree₁', edit' origin found = some tree₁' ∧ Tree.DifferAt x y path tree₁ tree₁') :
    Part x y (name :: path) (under name edit) (under name edit') := by
  refine ⟨fun {origin origin₁ branch branch₁} changed => ?_⟩
  obtain ⟨tree₁, edited, same⟩ := Option.map_eq_some_iff.1 changed
  cases same
  obtain ⟨tree₁', edited', differ⟩ := part edited
  refine ⟨Branch.put name tree₁' branch, by rw [under, edited']; rfl, ?_⟩
  refine .table (by rw [Branch.lookup_put, if_pos rfl]) (by rw [Branch.lookup_put, if_pos rfl])
    differ fun other different => ?_
  rw [Branch.lookup_put, Branch.lookup_put, if_neg different, if_neg different]

/-- Adding one value or another under a name. -/
theorem part_add (isDotted : Bool) (name : String) (x y : Value) :
    Part x y [name] (add isDotted name x) (add isDotted name y) := by
  rw [add_eq, add_eq]
  refine part_under fun {origin found tree₁} edited => ?_
  split at edited
  · cases edited
  · next free =>
    cases edited
    exact ⟨_, if_neg free, .value⟩

/-- Changes that part still do so along a path. -/
theorem Part.along {path : List String} (part : Part x y path change change') (made : Origin)
    (front : List String) :
    Part x y (front ++ path) (along change made front) (along change' made front) := by
  induction front with
  | nil => exact part
  | cons name front ih =>
    rw [along_cons, along_cons]
    refine part_under fun {origin found tree₁} edited => ?_
    cases found with
    | none =>
      obtain ⟨⟨inner₁, branch₁⟩, changed, same⟩ := Option.map_eq_some_iff.1 edited
      cases same
      obtain ⟨branch₁', changed', differ⟩ := ih.made changed
      exact ⟨.table inner₁ branch₁', by rw [within, changed']; rfl, differ.toTable inner₁⟩
    | some tree =>
      cases tree with
      | value => cases edited
      | tables earlier last =>
        obtain ⟨⟨inner₁, branch₁⟩, changed, same⟩ := Option.map_eq_some_iff.1 edited
        cases same
        obtain ⟨branch₁', changed', differ⟩ := ih.made changed
        exact ⟨.tables earlier branch₁', by rw [within, changed']; rfl, .last differ⟩
      | table inner entries =>
        dsimp only [within] at edited ⊢
        split at edited
        · cases edited
        · next opens =>
          obtain ⟨⟨inner₁, branch₁⟩, changed, same⟩ := Option.map_eq_some_iff.1 edited
          cases same
          obtain ⟨branch₁', changed', differ⟩ := ih.made changed
          exact ⟨.table inner₁ branch₁', by rw [if_neg opens, changed']; rfl,
            differ.toTable inner₁⟩

end Change

/-! ## Two values -/

/-- Two values differ at a path only, where they have two parts. Where the path leads to a list of
tables, the tables may differ in any way. -/
inductive Value.DifferAt (x y : Value) : List String → Value → Value → Prop
  /-- The path leads here. -/
  | here : DifferAt x y [] x y
  /-- The path leads on through an entry of a table. -/
  | table {name : String} {path : List String} {entries entries' : List (String × Value)}
    {value value' : Value} (own : entries.lookup name = some value)
    (own' : entries'.lookup name = some value') (inside : DifferAt x y path value value')
    (others : ∀ other ≠ name, entries.lookup other = entries'.lookup other) :
    DifferAt x y (name :: path) (.table entries) (.table entries')
  /-- The path leads to a list of tables. -/
  | array {path : List String} {first : List (String × Value)} {items items' : List Value} :
    DifferAt x y path (.array (.table first :: items)) (.array items')

/-- What two trees stand for differs where the trees do. -/
theorem Tree.DifferAt.toValue {x y : Value} {path : List String} {tree tree' : Tree}
    (differ : Tree.DifferAt x y path tree tree') :
    Value.DifferAt x y path tree.toValue tree'.toValue := by
  have listed (path : List String) (earlier earlier' : List Branch) (last last' : Branch) :
      Value.DifferAt x y path (Tree.tables earlier last).toValue
        (Tree.tables earlier' last').toValue := by
    cases earlier <;> exact .array
  induction differ with
  | value => exact .here
  | table own own' _ others ih =>
    refine .table (by rw [lookup_toEntries, own]; rfl) (by rw [lookup_toEntries, own']; rfl) ih
      fun other different => ?_
    rw [lookup_toEntries, lookup_toEntries, others other different]
  | last | earlier => exact listed _ _ _ _ _

/-- Parts that differ differ within the whole. -/
theorem Value.DifferAt.within {x y a b : Value} {path inner : List String} {value value' : Value}
    (outer : Value.DifferAt a b path value value') (inside : Value.DifferAt x y inner a b) :
    Value.DifferAt x y (path ++ inner) value value' := by
  induction outer with
  | here => exact inside
  | table own own' _ others ih => exact .table own own' ih others
  | array => exact .array

/-- What some changes keep, making one after the other keeps. -/
theorem Change.keeps_foldlM {x y : Value} {changes : List Change}
    (keeps : ∀ change ∈ changes, Keeps x y change) {path : List String} {origin origin₁ : Origin}
    {branch branch' branch₁ : Branch} (differ : Branch.DifferAt x y path branch branch')
    (changed : changes.foldlM (fun (origin, branch) change => change origin branch)
      (origin, branch) = some (origin₁, branch₁)) :
    ∃ branch₁', changes.foldlM (fun (origin, branch) change => change origin branch)
        (origin, branch') = some (origin₁, branch₁') ∧
      Branch.DifferAt x y path branch₁ branch₁' := by
  induction changes generalizing origin branch branch' with
  | nil =>
    cases changed
    exact ⟨branch', rfl, differ⟩
  | cons change changes ih =>
    obtain ⟨first, later⟩ := List.forall_mem_cons.1 keeps
    rw [List.foldlM_cons] at changed
    obtain ⟨⟨origin₂, branch₂⟩, changed, others⟩ := Option.bind_eq_some_iff.1 changed
    obtain ⟨branch₂', changed', differ⟩ := first.made differ changed
    obtain ⟨branch₁', others', differ⟩ := ih later differ others
    refine ⟨branch₁', ?_, differ⟩
    rw [List.foldlM_cons]
    exact Option.bind_eq_some_iff.2 ⟨_, changed', others'⟩

/-- A whole that is built with one of two changes that part can be built with the other, and what
is built differs where they part. -/
theorem build?_swap {x y : Value} {path : List String} {change change' : Change}
    {before after : List Change} {value : Value} (part : Change.Part x y path change change')
    (keeps : ∀ other ∈ after, Change.Keeps x y other)
    (built : build? (before ++ change :: after) = some value) :
    ∃ value', build? (before ++ change' :: after) = some value' ∧
      Value.DifferAt x y path value value' := by
  unfold build? at built ⊢
  obtain ⟨⟨origin, branch⟩, changed, same⟩ := Option.bind_eq_some_iff.1 built
  cases same
  rw [List.foldlM_append] at changed
  obtain ⟨⟨origin₁, branch₁⟩, earlier, changed⟩ := Option.bind_eq_some_iff.1 changed
  rw [List.foldlM_cons] at changed
  obtain ⟨⟨origin₂, branch₂⟩, first, later⟩ := Option.bind_eq_some_iff.1 changed
  obtain ⟨branch₂', first', differ⟩ := part.made first
  obtain ⟨branch', later', differ⟩ := Change.keeps_foldlM keeps differ later
  refine ⟨_, ?_, (differ.toTable .defined).toValue⟩
  simp only [List.foldlM_append, List.foldlM_cons]
  exact Option.bind_eq_some_iff.2 ⟨_, Option.bind_eq_some_iff.2 ⟨_, earlier,
    Option.bind_eq_some_iff.2 ⟨_, first', later'⟩⟩, rfl⟩

end OrderPipeline.Toml
