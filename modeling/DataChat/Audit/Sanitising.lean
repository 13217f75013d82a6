import DataChat.Audit.Definitions

/-!
# What sanitising leaves

`sanitize_audit_metadata` looks into dictionaries, and into the dictionaries that are items of a
list. A list that is an item of a list is kept as it is.

* `sanitize_sameElsewhere`: nothing changes but the values under sensitive keys.
* `sanitize_idem`: sanitising again changes nothing.
* `sanitized_iff`: no secret is left exactly when the lists that are items of a list hold none.
* `listed_password_kept`: a secret that is left.
-/

namespace DataChat.Audit

/-! ## What should hold -/

def redacted : Json := .string "[REDACTED]"

mutual

/-- Every sensitive key, at any depth, has the value `[REDACTED]`. -/
def CleanFields (py : Casing) : List (String × Json) → Prop
  | [] => True
  | (key, value) :: fields =>
    (py.lower key ∈ sensitiveMetadataKeys → value = redacted) ∧ Clean py value ∧
      CleanFields py fields

def Clean (py : Casing) : Json → Prop
  | .object fields => CleanFields py fields
  | .array items => CleanItems py items
  | _ => True

def CleanItems (py : Casing) : List Json → Prop
  | [] => True
  | item :: items => Clean py item ∧ CleanItems py items

end

mutual

/-- The same keys in the same places, and the same values under keys that are not sensitive. -/
def SameFields (py : Casing) : List (String × Json) → List (String × Json) → Prop
  | [], [] => True
  | (key, value) :: fields, (key', value') :: results =>
    key' = key ∧ (py.lower key ∉ sensitiveMetadataKeys → SameValue py value value') ∧
      SameFields py fields results
  | _, _ => False

def SameValue (py : Casing) : Json → Json → Prop
  | .object fields, .object results => SameFields py fields results
  | .array items, .array results => SameItems py items results
  | value, result => result = value

def SameItems (py : Casing) : List Json → List Json → Prop
  | [], [] => True
  | item :: items, result :: results => SameValue py item result ∧ SameItems py items results
  | _, _ => False

end

/-- No secret is left, all else is kept, and sanitising again changes nothing. -/
def Sanitized (py : Casing) (metadata : List (String × Json)) : Prop :=
  CleanFields py (sanitizeAuditMetadata py metadata) ∧
    SameFields py metadata (sanitizeAuditMetadata py metadata) ∧
    sanitizeAuditMetadata py (sanitizeAuditMetadata py metadata) =
      sanitizeAuditMetadata py metadata

mutual

/-- The lists that are items of a list hold no secret. What stands under a sensitive key does not
matter. -/
def InnerListsCleanFields (py : Casing) : List (String × Json) → Prop
  | [] => True
  | (key, value) :: fields =>
    (py.lower key ∉ sensitiveMetadataKeys → InnerListsClean py value) ∧
      InnerListsCleanFields py fields

def InnerListsClean (py : Casing) : Json → Prop
  | .object fields => InnerListsCleanFields py fields
  | .array items => InnerListsCleanItems py items
  | _ => True

def InnerListsCleanItems (py : Casing) : List Json → Prop
  | [] => True
  | .object fields :: items => InnerListsCleanFields py fields ∧ InnerListsCleanItems py items
  | .array inner :: items => CleanItems py inner ∧ InnerListsCleanItems py items
  | _ :: items => InnerListsCleanItems py items

end

/-! ## Sanitising again -/

mutual

theorem sanitize_idem (py : Casing) : ∀ metadata,
    sanitizeAuditMetadata py (sanitizeAuditMetadata py metadata) =
      sanitizeAuditMetadata py metadata
  | [] => rfl
  | (key, value) :: metadata => by
    have hvalue := sanitizeValue_idem py value
    have hrest := sanitize_idem py metadata
    by_cases hkey : py.lower key ∈ sensitiveMetadataKeys
    · simp [sanitizeAuditMetadata, hkey, hrest]
    · simp [sanitizeAuditMetadata, hkey, hrest, hvalue]

theorem sanitizeValue_idem (py : Casing) : ∀ value,
    sanitizeAuditValue py (sanitizeAuditValue py value) = sanitizeAuditValue py value
  | .null | .bool _ | .number _ _ | .string _ => rfl
  | .object fields => congrArg Json.object (sanitize_idem py fields)
  | .array items => congrArg Json.array (sanitizeItems_idem py items)

theorem sanitizeItems_idem (py : Casing) : ∀ items,
    sanitizeAuditItems py (sanitizeAuditItems py items) = sanitizeAuditItems py items
  | [] => rfl
  | .object fields :: items => by
    simp [sanitizeAuditItems, sanitize_idem py fields, sanitizeItems_idem py items]
  | .null :: items | .bool _ :: items | .number _ _ :: items | .string _ :: items
  | .array _ :: items => by
    simp [sanitizeAuditItems, sanitizeItems_idem py items]

end

/-! ## What is kept -/

mutual

theorem sameValue_refl (py : Casing) : ∀ value, SameValue py value value
  | .null | .bool _ | .number _ _ | .string _ => by simp [SameValue]
  | .object fields => sameFields_refl py fields
  | .array items => sameItems_refl py items

theorem sameFields_refl (py : Casing) : ∀ fields, SameFields py fields fields
  | [] => trivial
  | (_, value) :: fields => ⟨rfl, fun _ => sameValue_refl py value, sameFields_refl py fields⟩

theorem sameItems_refl (py : Casing) : ∀ items, SameItems py items items
  | [] => trivial
  | item :: items => ⟨sameValue_refl py item, sameItems_refl py items⟩

end

mutual

/-- Nothing changes but the values under sensitive keys. -/
theorem sanitize_sameElsewhere (py : Casing) : ∀ metadata,
    SameFields py metadata (sanitizeAuditMetadata py metadata)
  | [] => trivial
  | (key, value) :: metadata => by
    refine ⟨rfl, fun hkey => ?_, sanitize_sameElsewhere py metadata⟩
    rw [if_neg hkey]
    exact sanitizeValue_sameElsewhere py value

theorem sanitizeValue_sameElsewhere (py : Casing) : ∀ value,
    SameValue py value (sanitizeAuditValue py value)
  | .null | .bool _ | .number _ _ | .string _ => by simp [SameValue, sanitizeAuditValue]
  | .object fields => sanitize_sameElsewhere py fields
  | .array items => sanitizeItems_sameElsewhere py items

theorem sanitizeItems_sameElsewhere (py : Casing) : ∀ items,
    SameItems py items (sanitizeAuditItems py items)
  | [] => trivial
  | .object fields :: items =>
    ⟨sanitize_sameElsewhere py fields, sanitizeItems_sameElsewhere py items⟩
  | .null :: items | .bool _ :: items | .number _ _ :: items | .string _ :: items
  | .array _ :: items => ⟨sameValue_refl py _, sanitizeItems_sameElsewhere py items⟩

end

/-! ## What is left -/

mutual

theorem cleanFields_iff (py : Casing) : ∀ metadata,
    CleanFields py (sanitizeAuditMetadata py metadata) ↔ InnerListsCleanFields py metadata
  | [] => Iff.rfl
  | (key, value) :: metadata => by
    have hvalue := clean_iff py value
    have hrest := cleanFields_iff py metadata
    simp only [sanitizeAuditMetadata, CleanFields, InnerListsCleanFields, hrest]
    by_cases hkey : py.lower key ∈ sensitiveMetadataKeys
    · simp [hkey, redacted, Clean]
    · simp [hkey, hvalue]

theorem clean_iff (py : Casing) : ∀ value,
    Clean py (sanitizeAuditValue py value) ↔ InnerListsClean py value
  | .null | .bool _ | .number _ _ | .string _ => Iff.rfl
  | .object fields => cleanFields_iff py fields
  | .array items => cleanItems_iff py items

theorem cleanItems_iff (py : Casing) : ∀ items,
    CleanItems py (sanitizeAuditItems py items) ↔ InnerListsCleanItems py items
  | [] => Iff.rfl
  | .object fields :: items =>
    and_congr (cleanFields_iff py fields) (cleanItems_iff py items)
  | .array _ :: items => and_congr Iff.rfl (cleanItems_iff py items)
  | .null :: items | .bool _ :: items | .number _ _ :: items | .string _ :: items => by
    simp [sanitizeAuditItems, CleanItems, Clean, InnerListsCleanItems, cleanItems_iff py items]

end

/-- No secret is left exactly when the lists that are items of a list hold none. -/
theorem sanitized_iff (py : Casing) (metadata : List (String × Json)) :
    Sanitized py metadata ↔ InnerListsCleanFields py metadata := by
  have hclean := cleanFields_iff py metadata
  constructor
  · intro h
    exact hclean.mp h.1
  · intro h
    exact ⟨hclean.mpr h, sanitize_sameElsewhere py metadata, sanitize_idem py metadata⟩

/-- A password in a list of lists. -/
theorem listed_password_kept :
    ¬ Sanitized asciiCasing
      [("items", .array [.array [.object [("password", .string "unsafe-password")]]])] := by
  intro h
  have hvalue := h.1.2.1.1.1.1 (by decide +kernel)
  exact absurd hvalue (by simp [redacted])

end DataChat.Audit
