import DataChat.RowFilter.Definitions

/-!
# The condition of a filter group

A filter group becomes an expression over the columns of one table. The tables of a select are
told apart by the qualifier of these columns, so what matters is that every column of the
expression has the qualifier, and that there is one (`groupExpression_qualified`): from the
expression it can be read off which reference it is about.
-/

namespace DataChat.RowFilter

open Sql Outcome

variable {env : Env} {name : Ident}

/-- A column of this class is qualified by the name. -/
def QualifiedBy (name : Ident) (k : Kind) : Prop := ∀ ref, k = .column ref → ref.table = some name

/-- All columns of the expression are qualified by the name, and there is one. -/
structure Qualified (name : Ident) (e : Expr) : Prop where
  all : AllKinds (QualifiedBy name) e
  some : ¬ AllKinds (fun k => k.isColumn = false) e

theorem fail_ne_ok {α : Type} {message : String} {a : α} :
    (fail message : Injection α) ≠ .ok a := throw_ne_ok

theorem allKinds_build {q : Kind → Prop} {kind : Kind} {args : List (Arg × Expr)} :
    AllKinds q (build kind args) ↔ q kind ∧ ∀ a ∈ args, AllKinds q a.2 := by
  unfold build
  rw [allKinds_node, List.forall_mem_map]
  simp only [allKinds_withArgKey]

theorem allKinds_leaf {q : Kind → Prop} {kind : Kind} : AllKinds q (leaf kind) ↔ q kind := by
  unfold leaf
  rw [allKinds_node]
  exact ⟨fun h => h.1, fun h => ⟨h, fun c hc => absurd hc List.not_mem_nil⟩⟩

/-! ## Values -/

def NoColumn (e : Expr) : Prop := AllKinds (fun k => k.isColumn = false) e

mutual

theorem noColumn_convert : ∀ value, NoColumn (convert value)
  | .null => allKinds_leaf.mpr rfl
  | .bool _ => allKinds_leaf.mpr rfl
  | .number negative magnitude => by
    rw [convert]
    split
    · refine allKinds_build.mpr ⟨rfl, fun a ha => ?_⟩
      rw [List.mem_singleton.mp ha]
      exact allKinds_leaf.mpr rfl
    · exact allKinds_leaf.mpr rfl
  | .string _ => allKinds_leaf.mpr rfl
  | .array items => allKinds_build.mpr ⟨rfl, noColumn_convertItems items⟩
  | .object fields => by
    rw [convert]
    refine allKinds_build.mpr ⟨rfl, fun a ha => ?_⟩
    rcases List.mem_cons.mp ha with rfl | ha
    · refine allKinds_build.mpr ⟨rfl, fun b hb => ?_⟩
      obtain ⟨f, -, rfl⟩ := List.mem_map.mp hb
      exact allKinds_leaf.mpr rfl
    · rw [List.mem_singleton.mp ha]
      exact allKinds_build.mpr ⟨rfl, noColumn_convertFields fields⟩

theorem noColumn_convertItems : ∀ items, ∀ a ∈ convertItems items, NoColumn a.2
  | [] => fun a ha => absurd ha List.not_mem_nil
  | item :: items => by
    intro a ha
    rcases List.mem_cons.mp ha with rfl | ha
    · exact noColumn_convert item
    · exact noColumn_convertItems items a ha

theorem noColumn_convertFields : ∀ fields, ∀ a ∈ convertFields fields, NoColumn a.2
  | [] => fun a ha => absurd ha List.not_mem_nil
  | (_, value) :: fields => by
    intro a ha
    rcases List.mem_cons.mp ha with rfl | ha
    · exact noColumn_convert value
    · exact noColumn_convertFields fields a ha

end

theorem qualifiedBy_of_noColumn {e : Expr} (h : NoColumn e) : AllKinds (QualifiedBy name) e := by
  intro occ hocc ref hkind
  have hcolumn := h occ hocc
  rw [hkind] at hcolumn
  cases hcolumn

/-! ## Building expressions -/

theorem qualified_column (column reference : String) :
    Qualified (toIdentifier env.glot reference) (columnExpr env.glot column reference) := by
  refine ⟨allKinds_leaf.mpr ?_, fun h => ?_⟩
  · intro ref hkind
    cases hkind
    rfl
  · cases allKinds_leaf.mp h

/-- A node over a qualified operand and operands without columns. -/
theorem qualified_build {kind : Kind} {e : Expr} {key : Arg} {args : List (Arg × Expr)}
    (hkind : kind.isColumn = false) (he : Qualified name e) (hargs : ∀ a ∈ args, NoColumn a.2) :
    Qualified name (build kind ((key, e) :: args)) := by
  refine ⟨allKinds_build.mpr ⟨?_, fun a ha => ?_⟩, fun h => ?_⟩
  · intro ref href
    rw [href] at hkind
    cases hkind
  · rcases List.mem_cons.mp ha with rfl | ha
    · exact he.all
    · exact qualifiedBy_of_noColumn (hargs a ha)
  · exact he.some ((allKinds_build.mp h).2 _ List.mem_cons_self)

theorem qualified_comparison {e result : Expr} {operator : String} {value : Json}
    (he : Qualified name e) (h : buildComparisonExpression e operator value = .ok result) :
    Qualified name result := by
  unfold buildComparisonExpression at h
  split at h
  · exact absurd h fail_ne_ok
  · split at h
    · split at h
      · rename_i item items
        have hin : Qualified name (build .in_ ((.this, e) :: convertItems (item :: items))) :=
          qualified_build rfl he (noColumn_convertItems _)
        split at h
        · obtain rfl := pure_ok_iff.mp h
          exact qualified_build rfl hin (fun a ha => absurd ha List.not_mem_nil)
        · obtain rfl := pure_ok_iff.mp h
          exact hin
      · exact absurd h fail_ne_ok
    · obtain rfl := pure_ok_iff.mp h
      refine qualified_build rfl he (fun a ha => ?_)
      rw [List.mem_singleton.mp ha]
      exact noColumn_convert value

theorem qualified_wrap {e : Expr} (he : Qualified name e) : Qualified name (wrapConnector e) := by
  unfold wrapConnector
  split
  · exact qualified_build rfl he (fun a ha => absurd ha List.not_mem_nil)
  · exact he

theorem qualified_connector {kind : Kind} {l r : Expr} (hkind : kind.isColumn = false)
    (hl : Qualified name l) (hr : Qualified name r) :
    Qualified name
      (build kind [(.this, wrapConnector l), (.expression, wrapConnector r)]) := by
  have hl' := qualified_wrap hl
  have hr' := qualified_wrap hr
  refine ⟨allKinds_build.mpr ⟨?_, fun a ha => ?_⟩, fun h => ?_⟩
  · intro ref href
    rw [href] at hkind
    cases hkind
  · rcases List.mem_cons.mp ha with rfl | ha
    · exact hl'.all
    · rw [List.mem_singleton.mp ha]
      exact hr'.all
  · exact hl'.some ((allKinds_build.mp h).2 _ List.mem_cons_self)

theorem qualified_foldl {f : Expr → Expr → Expr}
    (hf : ∀ l r, Qualified name l → Qualified name r → Qualified name (f l r)) {rest : List Expr}
    (hrest : ∀ e ∈ rest, Qualified name e) {first : Expr} (hfirst : Qualified name first) :
    Qualified name (rest.foldl f first) := by
  induction rest generalizing first with
  | nil => exact hfirst
  | cons e rest ih =>
    have he := hrest e List.mem_cons_self
    exact ih (fun d hd => hrest d (List.mem_cons_of_mem _ hd)) (hf first e hfirst he)

theorem qualified_combine {expressions : List Expr} {match_ : Json} {result : Expr}
    (hall : ∀ e ∈ expressions, Qualified name e)
    (h : combineExpressions expressions match_ = .ok result) : Qualified name result := by
  unfold combineExpressions at h
  split at h
  · exact absurd h fail_ne_ok
  · rename_i first rest
    have hfirst := hall first List.mem_cons_self
    have hrest : ∀ e ∈ rest, Qualified name e := fun e he => hall e (List.mem_cons_of_mem _ he)
    obtain ⟨known, -, h⟩ := bind_ok_iff.mp h
    split at h
    · exact absurd h fail_ne_ok
    · split at h
      · obtain rfl := pure_ok_iff.mp h
        exact qualified_foldl (fun l r => qualified_connector rfl) hrest hfirst
      · obtain rfl := pure_ok_iff.mp h
        exact qualified_foldl (fun l r => qualified_connector rfl) hrest hfirst

theorem qualified_rule {allowedTable : AllowedTable} {reference : String} {rule : Json}
    {result : Expr} (h : buildRuleExpression env allowedTable reference rule = .ok result) :
    Qualified (toIdentifier env.glot reference) result := by
  unfold buildRuleExpression at h
  split at h
  · split at h
    · obtain ⟨allowedColumn, -, h⟩ := bind_ok_iff.mp h
      obtain ⟨value, -, h⟩ := bind_ok_iff.mp h
      exact qualified_comparison (qualified_column _ _) h
    · exact absurd h fail_ne_ok
    · exact absurd h fail_ne_ok
  · exact absurd h fail_ne_ok

/-- Every column of the expression of a group has the reference as its qualifier. -/
theorem groupExpression_qualified {allowedTable : AllowedTable} {reference : String}
    {filterGroup : JsonObject} {result : Expr}
    (h : buildFilterGroupExpression env allowedTable reference filterGroup = .ok result) :
    Qualified (toIdentifier env.glot reference) result := by
  unfold buildFilterGroupExpression at h
  simp only at h
  split at h
  · obtain ⟨expressions, hexpressions, h⟩ := bind_ok_iff.mp h
    refine qualified_combine (fun e he => ?_) h
    obtain ⟨rule, -, hrule⟩ := mapM_ok_right hexpressions he
    exact qualified_rule hrule
  · exact absurd h fail_ne_ok

end DataChat.RowFilter
