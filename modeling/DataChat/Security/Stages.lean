import DataChat.Security.Definitions
import DataChat.Validator.Acceptance

/-!
# The stages of a prepared query

`prepared_stages` reads a successful call of `prepare_validated_sql` backwards: two accepted
validations, and the injection between them. `prepares_exists` names the statement that the second
validation parses and the one whose text is returned.
-/

namespace DataChat.Security

open Sql Validator RowFilter Outcome

variable {env : Env} {maximumRows : Int} {sql : String} {secure : SecureQueryResult}

theorem callValidator_ok_iff {result : SQLValidationResult} :
    callValidator env maximumRows sql = .ok result ↔
      validateSql env.py env.glot env.schema maximumRows sql = .ok result := by
  unfold callValidator
  cases validateSql env.py env.glot env.schema maximumRows sql with
  | ok result' =>
    constructor
    · intro h
      cases h
      rfl
    · intro h
      cases h
      rfl
  | error e =>
    constructor
    · intro h
      cases h
    · intro h
      cases h

theorem callInjector_ok_iff {securedSql : String} :
    callInjector env sql = .ok securedSql ↔ injectMandatoryRowFilters env sql = .ok securedSql := by
  unfold callInjector
  cases injectMandatoryRowFilters env sql with
  | ok securedSql' =>
    constructor
    · intro h
      cases h
      rfl
    · intro h
      cases h
      rfl
  | error e =>
    constructor
    · intro h
      cases e <;> cases h
    · intro h
      cases h

theorem requireValidResult_ok_iff {result : SQLValidationResult} {stage : String} :
    requireValidResult result stage = .ok () ↔ result.is_valid = true := by
  unfold requireValidResult
  split
  · rename_i hvalid
    exact ⟨fun _ => hvalid, fun _ => rfl⟩
  · rename_i hvalid
    exact ⟨fun h => absurd h throw_ne_ok, fun h => absurd h hvalid⟩

theorem prepared_stages (h : prepareValidatedSql env maximumRows sql = .ok secure) :
    ∃ initial normalizedSql securedSql final,
      validateSql env.py env.glot env.schema maximumRows sql = .ok initial ∧
      initial.is_valid = true ∧ initial.normalized_sql = some normalizedSql ∧
      injectMandatoryRowFilters env normalizedSql = .ok securedSql ∧
      validateSql env.py env.glot env.schema maximumRows securedSql = .ok final ∧
      final.is_valid = true ∧ final.normalized_sql = some secure.sql ∧
      secure.row_filters_applied =
        env.schema.tables.values.any (fun table => !table.row_filters.isEmpty) := by
  unfold prepareValidatedSql at h
  split at h
  · exact absurd h throw_ne_ok
  · obtain ⟨initial, hinitial, h⟩ := bind_ok_iff.mp h
    obtain ⟨⟨⟩, hvalid, h⟩ := bind_ok_iff.mp h
    split at h
    · exact absurd h throw_ne_ok
    · rename_i normalizedSql hnormalized
      obtain ⟨securedSql, hsecured, h⟩ := bind_ok_iff.mp h
      obtain ⟨final, hfinal, h⟩ := bind_ok_iff.mp h
      obtain ⟨⟨⟩, hfinalValid, h⟩ := bind_ok_iff.mp h
      refine ⟨initial, normalizedSql, securedSql, final, callValidator_ok_iff.mp hinitial,
        requireValidResult_ok_iff.mp hvalid, hnormalized, callInjector_ok_iff.mp hsecured,
        callValidator_ok_iff.mp hfinal, requireValidResult_ok_iff.mp hfinalValid, ?_⟩
      split at h
      · exact absurd h throw_ne_ok
      · exact absurd h throw_ne_ok
      · rename_i finalSql appliedLimit hnormalized' hlimit
        rw [hnormalized', ← pure_ok_iff.mp h]
        exact ⟨rfl, rfl⟩

/-- The second validation parses `final`, and the text of `executed` is returned. -/
structure Prepares (env : Env) (maximumRows : Int) (sql : String) (secure : SecureQueryResult)
    (final executed : Expr) : Prop where
  prepared : prepareValidatedSql env maximumRows sql = .ok secure
  validated : ∃ initial normalizedSql securedSql result,
    validateSql env.py env.glot env.schema maximumRows sql = .ok initial ∧
    initial.normalized_sql = some normalizedSql ∧
    injectMandatoryRowFilters env normalizedSql = .ok securedSql ∧
    Accepts env.py env.glot env.schema maximumRows securedSql final result
  limited : ∃ limit, applyRowLimit final maximumRows = .ok (limit, executed)
  text : secure.sql = env.glot.sql executed

theorem prepares_exists (h : prepareValidatedSql env maximumRows sql = .ok secure) :
    ∃ final executed, Prepares env maximumRows sql secure final executed := by
  obtain ⟨initial, normalizedSql, securedSql, result, hinitial, -, hnormalized, hinjected, hfinal,
    hvalid, htext, -⟩ := prepared_stages h
  obtain ⟨final, haccepts⟩ := accepts_of_valid hfinal hvalid
  obtain ⟨referenced, limit, executed, hrun⟩ := haccepts.run
  refine ⟨final, executed, h, ⟨initial, normalizedSql, securedSql, result, hinitial, hnormalized,
    hinjected, haccepts⟩, ⟨limit, hrun.rowLimit⟩, ?_⟩
  rw [hrun.output] at htext
  exact (Option.some.inj htext).symm

end DataChat.Security
