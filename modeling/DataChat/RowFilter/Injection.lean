import DataChat.RowFilter.Definitions

/-!
# What the injector does to a statement

The injector is a loop over mutable expression objects. This file describes its result without
a store: `withConjuncts f statement` is the statement in which the `WHERE` of each select has
got the conjuncts that `f` gives for it, and `injectStatement_eq` says that the result of the
injector is `withConjuncts` for the function `addedTo`.

A select gets the conditions of its direct tables, unless it stands below the `WHERE` of a
select which itself gets conditions: that `WHERE` is replaced by one that holds a copy of the
old condition, and what is set on the selects of the original later on is lost.
-/

namespace DataChat.RowFilter

open Sql Outcome

variable {env : Env} {statement result : Expr}

/-! ## The description -/

/-- The conditions of a table, when they can be built. -/
def conditionsOf (env : Env) (occ : Occ) : List Expr :=
  match tableConditions env occ with
  | .ok conditions => conditions
  | .error _ => []

/-- The conditions of the tables that stand directly in a select. -/
def selectConditions (env : Env) (select : Occ) : List Expr :=
  (getDirectTables select).flatMap (conditionsOf env)

def conjunction : List Expr → Option Expr
  | [] => none
  | e :: es => some (es.foldl andExpr e)

/-- The allowed table that a reference names, if it is not ambiguous. -/
def matchedEntry (env : Env) (table : TableRef) : Option AllowedTable :=
  match matchedTable env.py env.schema table with
  | .ok matched => matched
  | .error _ => none

/-- The table stands outside CTE bodies and names an allowed table with row filters. -/
def hasFilters (env : Env) (occ : Occ) : Bool :=
  !insideCte occ && ((tableOf occ).bind (matchedEntry env)).any (fun t => !t.row_filters.isEmpty)

/-- Some table that stands directly in the select has filters. -/
def getsFilters (env : Env) (select : Occ) : Bool :=
  (getDirectTables select).any (hasFilters env)

/-- Some step leaves the `WHERE` of a select that gets filters. -/
def detachedFrom (env : Env) : List (Step Node) → Bool
  | [] => false
  | s :: above =>
    (s.parent.label.kind.isSelect && decide (argAt s.parent s.index = some .where_) &&
      getsFilters env ⟨s.parent, above⟩) || detachedFrom env above

/-- The conjuncts that a select has in the result and did not have in the statement. -/
def addedTo (env : Env) (select : Occ) : List Expr :=
  if detachedFrom env select.above then [] else selectConditions env select

/-- Joins conjuncts to the `WHERE` of an expression. -/
def addConjuncts (conjuncts : List Expr) (e : Expr) : Expr :=
  match conjunction conjuncts with
  | none => e
  | some condition => setArg e .where_ (whereWith e condition)

/-- The statement with further conjuncts in the `WHERE` of each select. -/
def withConjuncts (f : Occ → List Expr) (statement : Expr) : Expr :=
  (Cursor.root statement).rebuild
    (fun place e => addConjuncts (if place.node.label.kind.isSelect then f place else []) e)

/-! ## The selects that are visited -/

theorem uniqueSelects_sublist (seen : List (List Nat)) (selects : List Occ) :
    List.Sublist (uniqueSelects seen selects) selects := by
  induction selects generalizing seen with
  | nil => exact List.Sublist.slnil
  | cons s rest ih =>
    rw [uniqueSelects]
    split
    · exact (ih seen).cons s
    · exact (ih _).cons_cons s

theorem uniqueSelects_new (seen : List (List Nat)) (selects : List Occ) :
    (∀ s ∈ uniqueSelects seen selects, s.address ∉ seen) ∧
      (uniqueSelects seen selects).Pairwise (fun s t => s.address ≠ t.address) := by
  induction selects generalizing seen with
  | nil => exact ⟨fun s hs => absurd hs List.not_mem_nil, List.Pairwise.nil⟩
  | cons s rest ih =>
    rw [uniqueSelects]
    split
    · exact ih seen
    · rename_i hs
      obtain ⟨hnew, hdistinct⟩ := ih (s.address :: seen)
      refine ⟨fun t ht => ?_, List.Pairwise.cons (fun t ht heq => ?_) hdistinct⟩
      · rcases List.mem_cons.mp ht with rfl | ht
        · exact hs
        · exact fun hmem => hnew t ht (List.mem_cons_of_mem _ hmem)
      · have hfresh := hnew t ht
        rw [← heq] at hfresh
        exact hfresh List.mem_cons_self

theorem uniqueSelects_complete (seen : List (List Nat)) {selects : List Occ} {s : Occ}
    (hs : s ∈ selects) :
    s.address ∈ seen ∨ ∃ t ∈ uniqueSelects seen selects, t.address = s.address := by
  induction selects generalizing seen with
  | nil => cases hs
  | cons r rest ih =>
    rw [uniqueSelects]
    rcases List.mem_cons.mp hs with rfl | hs
    · split
      · rename_i hmem
        exact Or.inl hmem
      · exact Or.inr ⟨s, List.mem_cons_self, rfl⟩
    · split
      · exact ih seen hs
      · rcases ih (r.address :: seen) hs with hseen | ⟨t, ht, heq⟩
        · rcases List.mem_cons.mp hseen with heq | hseen
          · exact Or.inr ⟨r, List.mem_cons_self, heq.symm⟩
          · exact Or.inl hseen
        · exact Or.inr ⟨t, List.mem_cons_of_mem _ ht, heq⟩

/-- The selects in the order in which the injector visits them. -/
def visited (statement : Expr) : List Occ := uniqueSelects [] (selectExpressions statement)

theorem mem_selectExpressions {s : Occ} :
    s ∈ selectExpressions statement ↔
      Cursor.Within statement s ∧ s.node.label.kind.isSelect = true := by
  unfold selectExpressions
  split
  · rename_i hroot
    rw [List.mem_cons, mem_findAll]
    constructor
    · rintro (rfl | h)
      · exact ⟨.root, hroot⟩
      · exact h
    · exact Or.inr
  · exact mem_findAll

theorem visited_of_select {s : Occ} (hs : Cursor.Within statement s)
    (hselect : s.node.label.kind.isSelect = true) : s ∈ visited statement := by
  have hmem : s ∈ selectExpressions statement := mem_selectExpressions.mpr ⟨hs, hselect⟩
  rcases uniqueSelects_complete [] hmem with hseen | ⟨t, ht, heq⟩
  · cases hseen
  · have htmem := (uniqueSelects_sublist [] _).subset ht
    have hts : t = s := Cursor.cursor_ext (mem_selectExpressions.mp htmem).1 hs heq
    exact hts ▸ ht

theorem select_of_visited {s : Occ} (hs : s ∈ visited statement) :
    Cursor.Within statement s ∧ s.node.label.kind.isSelect = true :=
  mem_selectExpressions.mp ((uniqueSelects_sublist [] _).subset hs)

/-- Outer selects are visited before inner ones. -/
theorem visited_sorted (statement : Expr) :
    (visited statement).Pairwise (fun s t => s.depth ≤ t.depth) := by
  refine List.Pairwise.sublist (uniqueSelects_sublist [] _) ?_
  have hfound : (findAll Kind.isSelect statement).Pairwise (fun s t => s.depth ≤ t.depth) :=
    List.Pairwise.filter _ (Rose.walk_sorted statement)
  unfold selectExpressions
  split
  · exact List.Pairwise.cons (fun t _ => Nat.zero_le _) hfound
  · exact hfound

/-! ## The security expression of a select -/

theorem conditionsOf_eq {occ : Occ} {conditions : List Expr}
    (h : tableConditions env occ = .ok conditions) : conditionsOf env occ = conditions := by
  unfold conditionsOf
  rw [h]

theorem matchedEntry_eq_some_iff {table : TableRef} {allowedTable : AllowedTable} :
    matchedEntry env table = some allowedTable ↔
      matchedTable env.py env.schema table = .ok (some allowedTable) := by
  unfold matchedEntry
  split
  · rename_i matched hmatched
    rw [hmatched, Except.ok.injEq]
  · rename_i e he
    rw [he]
    constructor
    · intro h
      cases h
    · intro h
      cases h

/-- What building the conditions of a table has done. -/
theorem tableConditions_ok {occ : Occ} {conditions : List Expr}
    (h : tableConditions env occ = .ok conditions) :
    (hasFilters env occ = false ∧ conditions = []) ∨
    (∃ table allowedTable, tableOf occ = some table ∧ insideCte occ = false ∧
      matchedEntry env table = some allowedTable ∧
      allowedTable.row_filters.mapM
        (buildFilterGroupExpression env allowedTable (tableReference table)) = .ok conditions) := by
  unfold tableConditions at h
  cases htable : tableOf occ with
  | none =>
    rw [htable] at h
    exact Or.inl ⟨by simp [hasFilters, htable], (pure_ok_iff.mp h).symm⟩
  | some table =>
    rw [htable] at h
    obtain ⟨resolved, hresolved, h⟩ := bind_ok_iff.mp h
    unfold resolveSelectTable at hresolved
    cases hcte : insideCte occ with
    | true =>
      rw [if_pos hcte] at hresolved
      obtain rfl := pure_ok_iff.mp hresolved
      exact Or.inl ⟨by simp [hasFilters, htable, hcte], (pure_ok_iff.mp h).symm⟩
    | false =>
      rw [if_neg (by simp [hcte])] at hresolved
      obtain ⟨matched, hmatched, hresolved⟩ := bind_ok_iff.mp hresolved
      cases matched with
      | none =>
        obtain rfl := pure_ok_iff.mp hresolved
        have hentry : matchedEntry env table = none := by
          unfold matchedEntry
          rw [hmatched]
        exact Or.inl ⟨by simp [hasFilters, htable, hentry], (pure_ok_iff.mp h).symm⟩
      | some allowedTable =>
        obtain rfl := pure_ok_iff.mp hresolved
        exact Or.inr ⟨table, allowedTable, rfl, rfl, matchedEntry_eq_some_iff.mpr hmatched, h⟩

theorem conditions_eq_nil_iff {occ : Occ} {conditions : List Expr}
    (h : tableConditions env occ = .ok conditions) :
    conditions = [] ↔ hasFilters env occ = false := by
  rcases tableConditions_ok h with ⟨hno, hnil⟩ | ⟨table, allowed, htable, hcte, hmatched, hall⟩
  · exact ⟨fun _ => hno, fun _ => hnil⟩
  · have hlength := (mapM_ok_iff.mp hall).length_eq
    rw [← List.length_eq_zero_iff, ← hlength, List.length_eq_zero_iff]
    simp [hasFilters, htable, hcte, hmatched]

theorem flatten_eq_flatMap {tables : List Occ} {conditions : List (List Expr)}
    (h : List.Forall₂ (fun t cs => tableConditions env t = .ok cs) tables conditions) :
    conditions.flatten = tables.flatMap (conditionsOf env) := by
  induction h with
  | nil => rfl
  | cons hhead _ ih =>
    rw [List.flatten_cons, List.flatMap_cons, ih, conditionsOf_eq hhead]

theorem buildSelectSecurityExpression_ok {select : Occ} {security : Option Expr}
    (h : buildSelectSecurityExpression env select = .ok security) :
    security = conjunction (selectConditions env select) := by
  unfold buildSelectSecurityExpression at h
  obtain ⟨conditions, hconditions, h⟩ := bind_ok_iff.mp h
  have hflat := flatten_eq_flatMap (mapM_ok_iff.mp hconditions)
  unfold selectConditions
  rw [← hflat]
  split at h
  · rename_i hnil
    rw [hnil]
    exact (pure_ok_iff.mp h).symm
  · rename_i securityExpressions hne
    cases hcons : conditions.flatten with
    | nil => exact absurd hcons hne
    | cons e es =>
      rw [hcons] at h
      cases h
      rfl

/-- A select whose security expression could be built: all conditions of its tables could. -/
theorem directTables_ok {select : Occ} {security : Option Expr}
    (h : buildSelectSecurityExpression env select = .ok security) :
    ∀ t ∈ getDirectTables select, ∃ conditions, tableConditions env t = .ok conditions := by
  unfold buildSelectSecurityExpression at h
  obtain ⟨conditions, hconditions, -⟩ := bind_ok_iff.mp h
  intro t ht
  obtain ⟨built, -, hbuilt⟩ := mapM_ok_left hconditions ht
  exact ⟨built, hbuilt⟩

theorem selectConditions_eq_nil_iff {select : Occ} {security : Option Expr}
    (h : buildSelectSecurityExpression env select = .ok security) :
    selectConditions env select = [] ↔ getsFilters env select = false := by
  have hok := directTables_ok h
  unfold selectConditions getsFilters
  rw [List.flatMap_eq_nil_iff, List.any_eq_false]
  refine forall₂_congr (fun t ht => ?_)
  obtain ⟨conditions, hconditions⟩ := hok t ht
  rw [conditionsOf_eq hconditions, conditions_eq_nil_iff hconditions, Bool.not_eq_true]

/-! ## One pass of the loop -/

/-- Nothing has been set on the selects from `s` downwards. -/
theorem current_eq_self {store : Store} {s : Occ}
    (h : ∀ address, s.address <+: address → store.get address = none) :
    current store s = s.node := by
  refine Cursor.rebuild_eq_self (Q := fun c => s.address <+: c.address) ?_ ?_ s
    List.prefix_rfl
  · intro c hc d hd
    obtain ⟨i, t, -, rfl⟩ := Cursor.mem_down.mp hd
    rw [Cursor.address_child]
    exact hc.trans (List.prefix_append _ _)
  · intro c hc e
    simp only [h c.address hc]

/-- What the store holds after some of the selects were visited. -/
structure Holds (env : Env) (done : List Occ) (store : Store) : Prop where
  built : ∀ s ∈ done, ∃ security, buildSelectSecurityExpression env s = .ok security
  visited : ∀ s ∈ done, store.get s.address =
    (conjunction (selectConditions env s)).map (whereWith s.node)
  other : ∀ address, (∀ s ∈ done, s.address ≠ address) → store.get address = none

theorem injectSelect_holds {done : List Occ} {store store' : Store} {s : Occ}
    (hstore : Holds env done store) (hdepth : ∀ d ∈ done, d.depth ≤ s.depth)
    (hnew : ∀ d ∈ done, d.address ≠ s.address)
    (hpass : injectSelect env store s = .ok store') : Holds env (done ++ [s]) store' := by
  have huntouched : current store s = s.node := by
    refine current_eq_self (fun address hprefix => hstore.other address (fun d hd heq => ?_))
    have hlength := hprefix.length_le
    have hd' := hdepth d hd
    rw [← heq, Cursor.length_address, Cursor.length_address] at hlength
    have hsame : s.address = address := by
      refine hprefix.eq_of_length ?_
      rw [← heq, Cursor.length_address, Cursor.length_address]
      omega
    exact hnew d hd (heq.trans hsame.symm)
  have hfree : store.get s.address = none := hstore.other _ hnew
  unfold injectSelect at hpass
  obtain ⟨security, hsecurity, hpass⟩ := bind_ok_iff.mp hpass
  have hconj := buildSelectSecurityExpression_ok hsecurity
  have hbuilt : ∀ t ∈ done ++ [s], ∃ security, buildSelectSecurityExpression env t =
      .ok security := by
    intro t ht
    rcases List.mem_append.mp ht with ht | ht
    · exact hstore.built t ht
    · exact ⟨security, List.mem_singleton.mp ht ▸ hsecurity⟩
  cases security with
  | none =>
    obtain rfl := pure_ok_iff.mp hpass
    refine ⟨hbuilt, fun t ht => ?_, fun address haddress => ?_⟩
    · rcases List.mem_append.mp ht with ht | ht
      · exact hstore.visited t ht
      · rw [List.mem_singleton.mp ht, ← hconj, hfree]
        rfl
    · exact hstore.other address (fun d hd => haddress d (List.mem_append_left _ hd))
  | some security =>
    obtain rfl := pure_ok_iff.mp hpass
    unfold injectFilterIntoSelect
    rw [huntouched]
    refine ⟨hbuilt, fun t ht => ?_, fun address haddress => ?_⟩
    · rcases List.mem_append.mp ht with ht | ht
      · rw [Dict.get_set_ne _ _ (hnew t ht)]
        exact hstore.visited t ht
      · rw [List.mem_singleton.mp ht, Dict.get_set_self, ← hconj]
        rfl
    · have hne : s.address ≠ address :=
        haddress s (List.mem_append_right _ List.mem_cons_self)
      rw [Dict.get_set_ne _ _ hne.symm]
      exact hstore.other address (fun d hd => haddress d (List.mem_append_left _ hd))

theorem loop_holds {store : Store}
    (h : (visited statement).foldlM (injectSelect env) Dict.empty = .ok store) :
    Holds env (visited statement) store := by
  refine foldlM_ok_induction (fun done store => Holds env done store)
    ⟨fun s hs => absurd hs List.not_mem_nil, fun s hs => absurd hs List.not_mem_nil,
      fun address _ => rfl⟩ ?_ h
  intro done s rest store store' hsplit hstore hpass
  have hsorted := visited_sorted statement
  have hdistinct := (uniqueSelects_new [] (selectExpressions statement)).2
  change (visited statement).Pairwise _ at hdistinct
  rw [← hsplit] at hsorted hdistinct
  refine injectSelect_holds hstore (fun d hd => ?_) (fun d hd => ?_) hpass
  · exact (List.pairwise_append.mp hsorted).2.2 d hd s List.mem_cons_self
  · exact (List.pairwise_append.mp hdistinct).2.2 d hd s List.mem_cons_self

/-! ## Reading the result -/

@[simp] theorem label_setArg (e value : Expr) (name : Arg) :
    (setArg e name value).label = e.label :=
  rfl

theorem label_addConjuncts (conjuncts : List Expr) (e : Expr) :
    (addConjuncts conjuncts e).label = e.label := by
  unfold addConjuncts
  split <;> rfl

theorem label_current (store : Store) (c : Occ) : (current store c).label = c.node.label := by
  unfold current
  rw [Cursor.rebuild_eq]
  split <;> rfl

/-- The expression at an occurrence, with the further conjuncts. -/
def conjunctsAt (f : Occ → List Expr) (c : Occ) : Expr :=
  c.rebuild (fun place e => addConjuncts (if place.node.label.kind.isSelect then f place else []) e)

theorem conjunctsAt_eq (f : Occ → List Expr) (c : Occ) :
    conjunctsAt f c = addConjuncts (if c.node.label.kind.isSelect then f c else [])
      (.node c.node.label (c.down.map (conjunctsAt f))) := Cursor.rebuild_eq _ c

theorem label_conjunctsAt (f : Occ → List Expr) (c : Occ) :
    (conjunctsAt f c).label = c.node.label := by
  rw [conjunctsAt_eq, label_addConjuncts]
  rfl

/-- Setting an argument forgets the old value: children that only differ there become equal. -/
theorem setChildren_congr {name : Arg} {value : Expr} {cs ds : List Expr}
    (h : List.Forall₂ (fun c d => c = d ∨ (c.label.argKey = name ∧ d.label.argKey = name)) cs ds) :
    setChildren name value cs = setChildren name value ds := by
  have hfilter : ∀ {xs ys : List Expr},
      List.Forall₂ (fun c d => c = d ∨ (c.label.argKey = name ∧ d.label.argKey = name)) xs ys →
      xs.filter (fun d => d.label.argKey ≠ name) = ys.filter (fun d => d.label.argKey ≠ name) := by
    intro xs ys hxy
    induction hxy with
    | nil => rfl
    | @cons c d _ _ hcd _ ih =>
      rw [List.filter_cons, List.filter_cons, ih]
      rcases hcd with rfl | ⟨hc, hd⟩
      · rfl
      · simp [hc, hd]
  induction h with
  | nil => rfl
  | @cons c d _ _ hcd hrest ih =>
    rw [setChildren, setChildren, ih, hfilter hrest]
    rcases hcd with rfl | ⟨hc, hd⟩
    · rfl
    · simp [hc, hd]

/-- Below the `WHERE` of a select with conditions nothing is added. -/
theorem conjunctsAt_detached {c : Occ} (h : detachedFrom env c.above = true) :
    conjunctsAt (addedTo env) c = c.node := by
  refine Cursor.rebuild_eq_self (Q := fun c => detachedFrom env c.above = true) ?_ ?_ c h
  · intro c hc d hd
    obtain ⟨i, t, -, rfl⟩ := Cursor.mem_down.mp hd
    show (_ || detachedFrom env c.above) = true
    rw [hc, Bool.or_true]
  · intro c hc e
    have hnone : addedTo env c = [] := by
      unfold addedTo
      rw [if_pos hc]
    rw [hnone, ite_self]
    rfl

theorem argAt_child {c : Occ} {i : Nat} {t : Expr} (ht : c.node.children[i]? = some t) :
    argAt c.node i = some t.label.argKey := by
  rw [argAt, ht]
  rfl

/-- The children of a select as they stand after the loop, and with the conjuncts: they only
differ in the old `WHERE`. -/
theorem children_agree {store : Store} {c : Occ}
    (ih : ∀ d ∈ c.down, detachedFrom env d.above = false →
      current store d = conjunctsAt (addedTo env) d)
    (hc : detachedFrom env c.above = false) :
    List.Forall₂ (fun x y => x = y ∨ (x.label.argKey = .where_ ∧ y.label.argKey = .where_))
      (c.down.map (current store)) (c.down.map (conjunctsAt (addedTo env))) := by
  rw [List.forall₂_map_left_iff, List.forall₂_map_right_iff, List.forall₂_same]
  intro d hd
  by_cases hkey : d.node.label.argKey = .where_
  · exact Or.inr ⟨by rw [label_current, hkey], by rw [label_conjunctsAt, hkey]⟩
  · refine Or.inl (ih d hd ?_)
    obtain ⟨i, t, ht, rfl⟩ := Cursor.mem_down.mp hd
    have harg : ¬ argAt c.node i = some .where_ := by
      rw [argAt_child ht]
      exact fun h => hkey (Option.some.inj h)
    show (_ || detachedFrom env c.above) = false
    rw [hc, Bool.or_false]
    simp [harg]

/-- A select with conditions keeps its old `WHERE` as it was. -/
theorem whereWith_conjunctsAt {c : Occ} (hselect : c.node.label.kind.isSelect = true)
    (hfilters : getsFilters env c = true) (condition : Expr) :
    whereWith (.node c.node.label (c.down.map (conjunctsAt (addedTo env)))) condition =
      whereWith c.node condition := by
  have hwhere : ∀ d ∈ c.down, d.node.label.argKey = .where_ →
      conjunctsAt (addedTo env) d = d.node := by
    intro d hd hkey
    refine conjunctsAt_detached ?_
    obtain ⟨i, t, ht, rfl⟩ := Cursor.mem_down.mp hd
    have harg : argAt c.node i = some .where_ := by
      rw [argAt_child ht]
      exact congrArg some hkey
    have hgets : getsFilters env ⟨c.node, c.above⟩ = true := hfilters
    show (_ || detachedFrom env c.above) = true
    simp [hselect, harg, hgets]
  have hfind : ∀ ds : List Occ, (∀ d ∈ ds, d ∈ c.down) →
      (ds.map (conjunctsAt (addedTo env))).find? (fun e => e.label.argKey = .where_) =
        (ds.map Cursor.node).find? (fun e => e.label.argKey = .where_) := by
    intro ds
    induction ds with
    | nil => exact fun _ => rfl
    | cons d ds ih =>
      intro hds
      have hrest := ih (fun e he => hds e (List.mem_cons_of_mem _ he))
      have hd := hds d List.mem_cons_self
      rw [List.map_cons, List.map_cons, List.find?_cons, List.find?_cons, hrest,
        label_conjunctsAt]
      by_cases hkey : d.node.label.argKey = .where_
      · rw [hwhere d hd hkey]
      · simp [hkey]
  have harg : arg (.node c.node.label (c.down.map (conjunctsAt (addedTo env)))) .where_ =
      arg c.node .where_ := by
    unfold arg
    rw [Rose.children_node, hfind c.down (fun d hd => hd), Cursor.map_node_down]
  unfold whereWith
  rw [harg]

theorem current_eq_conjunctsAt {store : Store} (hstore : Holds env (visited statement) store) :
    ∀ c, Cursor.Within statement c → detachedFrom env c.above = false →
      current store c = conjunctsAt (addedTo env) c := by
  refine Cursor.down_induction (fun c ih hc hattached => ?_)
  have ih' : ∀ d ∈ c.down, detachedFrom env d.above = false →
      current store d = conjunctsAt (addedTo env) d := fun d hd => ih d hd (.down hc hd)
  have hcurrent : current store c =
      match store.get c.address with
      | none => .node c.node.label (c.down.map (current store))
      | some newWhere => setArg (.node c.node.label (c.down.map (current store))) .where_ newWhere :=
    Cursor.rebuild_eq _ c
  -- without new conditions all children are attached
  have hsame : getsFilters env c = false ∨ c.node.label.kind.isSelect = false →
      c.down.map (current store) = c.down.map (conjunctsAt (addedTo env)) := by
    intro hno
    refine List.map_congr_left (fun d hd => ih' d hd ?_)
    obtain ⟨i, t, -, rfl⟩ := Cursor.mem_down.mp hd
    show (_ || detachedFrom env c.above) = false
    rw [hattached, Bool.or_false]
    rcases hno with hno | hno
    · have hgets : getsFilters env ⟨c.node, c.above⟩ = false := hno
      simp [hgets]
    · simp [hno]
  by_cases hselect : c.node.label.kind.isSelect = true
  · have hvisited := visited_of_select hc hselect
    have hget := hstore.visited c hvisited
    obtain ⟨security, hsecurity⟩ := hstore.built c hvisited
    have hempty := selectConditions_eq_nil_iff hsecurity
    have hadded : addedTo env c = selectConditions env c := by
      unfold addedTo
      rw [hattached]
      rfl
    rw [conjunctsAt_eq, if_pos hselect, hadded, hcurrent, hget]
    cases hconditions : selectConditions env c with
    | nil =>
      rw [hsame (Or.inl (hempty.mp hconditions))]
      rfl
    | cons e es =>
      have hgets : getsFilters env c = true := by
        by_contra hno
        rw [hempty.mpr (Bool.not_eq_true _ ▸ hno)] at hconditions
        cases hconditions
      have hwhere := whereWith_conjunctsAt hselect hgets (es.foldl andExpr e)
      show setArg _ .where_ _ = setArg _ .where_ _
      rw [hwhere]
      exact congrArg (Rose.node c.node.label) (setChildren_congr (children_agree ih' hattached))
  · have hnone : store.get c.address = none := by
      refine hstore.other _ (fun s hs heq => hselect ?_)
      obtain ⟨hwithin, hkind⟩ := select_of_visited hs
      exact Cursor.cursor_ext hwithin hc heq ▸ hkind
    rw [Bool.not_eq_true] at hselect
    rw [conjunctsAt_eq, hcurrent, hnone, hselect, hsame (Or.inr hselect)]
    rfl

/-- The result of the injector is the statement with the conjuncts of `addedTo`. -/
theorem injectStatement_eq (h : injectStatement env statement = .ok result) :
    result = withConjuncts (addedTo env) statement := by
  unfold injectStatement at h
  obtain ⟨store, hloop, h⟩ := bind_ok_iff.mp h
  have hresult := pure_ok_iff.mp h
  rw [← hresult]
  exact current_eq_conjunctsAt (loop_holds hloop) _ .root rfl

end DataChat.RowFilter
