import DataChat.Executor.Rows

/-!
# Serialised values and strict JSON

`json.dumps` writes `NaN` and `Infinity`, which strict JSON does not have, and a dictionary
comprehension over `str(key)` has one entry for all keys with the same text.

* `length_dictOf_iff`: a dictionary comprehension keeps all entries exactly when the keys are
  distinct.
* `strictlySerialized_iff`: a value is serialised to strict JSON of the same shape exactly when no
  float in it is infinite or NaN and no two keys of a dictionary in it have the same text.
* `nan_kept`: a value that one consumer accepts and the other does not.
-/

namespace DataChat.Executor

/-! ## Strict JSON -/

def FiniteFloat : PyFloat → Prop
  | .finite _ => True
  | _ => False

mutual

/-- `null`, booleans, finite numbers, strings, lists, and dictionaries with string keys. -/
def StrictJson : PyValue → Prop
  | .none | .bool _ | .int _ | .str _ => True
  | .float f => FiniteFloat f
  | .list items => StrictItems items
  | .dict items => StrictFields items
  | _ => False

def StrictItems : List PyValue → Prop
  | [] => True
  | item :: items => StrictJson item ∧ StrictItems items

def StrictFields : List (PyValue × PyValue) → Prop
  | [] => True
  | (key, value) :: items => (∃ s, key = .str s) ∧ StrictJson value ∧ StrictFields items

end

/-- A value without parts. -/
def IsLeaf : PyValue → Prop
  | .tuple _ | .list _ | .dict _ => False
  | _ => True

mutual

/-- A container becomes a container whose entries are those of the value, one by one. -/
def SameShape (rt : PyRuntime) : PyValue → PyValue → Prop
  | .tuple items, .list results => SameItems rt items results
  | .list items, .list results => SameItems rt items results
  | .dict items, .dict results => SameFields rt items results
  | .tuple _, _ => False
  | .list _, _ => False
  | .dict _, _ => False
  | _, result => IsLeaf result

def SameItems (rt : PyRuntime) : List PyValue → List PyValue → Prop
  | [], [] => True
  | item :: items, result :: results => SameShape rt item result ∧ SameItems rt items results
  | _, _ => False

def SameFields (rt : PyRuntime) :
    List (PyValue × PyValue) → List (PyValue × PyValue) → Prop
  | [], [] => True
  | (key, value) :: items, (key', value') :: results =>
    key' = .str (pyStr rt key) ∧ SameShape rt value value' ∧ SameFields rt items results
  | _, _ => False

end

mutual

/-- No infinite float and no NaN is met. -/
def allFinite : PyValue → Bool
  | .float (.finite _) => true
  | .float _ => false
  | .tuple items | .list items => allFiniteItems items
  | .dict items => allFiniteFields items
  | _ => true

def allFiniteItems : List PyValue → Bool
  | [] => true
  | item :: items => allFinite item && allFiniteItems items

def allFiniteFields : List (PyValue × PyValue) → Bool
  | [] => true
  | (key, value) :: items => allFinite key && allFinite value && allFiniteFields items

end

/-- `JSONResponse.render`: `json.dumps(content, allow_nan=False)`, which raises a `ValueError` at
an infinite float or NaN. -/
def renderResponse (content : PyValue) : Option String :=
  if allFinite content then jsonDumps content else none

/-- The serialised value is strict JSON of the same shape, and both consumers accept it. -/
def StrictlySerialized (rt : PyRuntime) (value : PyValue) : Prop :=
  StrictJson (serializeDatabaseValue rt value) ∧
    SameShape rt value (serializeDatabaseValue rt value) ∧
    (jsonDumps (serializeDatabaseValue rt value)).isSome = true ∧
    (renderResponse (serializeDatabaseValue rt value)).isSome = true

mutual

/-- No float in the value is infinite or NaN, and no two keys of a dictionary in it have the same
text. -/
def Representable (rt : PyRuntime) : PyValue → Prop
  | .float f => FiniteFloat f
  | .tuple items => RepresentableItems rt items
  | .list items => RepresentableItems rt items
  | .dict items =>
    (items.map (fun item => pyStr rt item.1)).Nodup ∧ RepresentableFields rt items
  | _ => True

def RepresentableItems (rt : PyRuntime) : List PyValue → Prop
  | [] => True
  | item :: items => Representable rt item ∧ RepresentableItems rt items

def RepresentableFields (rt : PyRuntime) : List (PyValue × PyValue) → Prop
  | [] => True
  | (_, value) :: items => Representable rt value ∧ RepresentableFields rt items

end

/-! ## The dictionary comprehension -/

theorem items_dictOf {ν : Type} {items : List (String × ν)}
    (hdistinct : (items.map Prod.fst).Nodup) : (dictOf items).items = items := by
  have hall : ∀ (rest : List (String × ν)) (d : Dict String ν),
      ((d.items ++ rest).map Prod.fst).Nodup →
        (rest.foldl (fun d item => d.set item.1 item.2) d).items = d.items ++ rest := by
    intro rest
    induction rest with
    | nil => exact fun d _ => (List.append_nil _).symm
    | cons item rest ih =>
      intro d hnodup
      have hkeys : (d.keys ++ item.1 :: rest.map Prod.fst).Nodup := by
        rwa [List.map_append, List.map_cons] at hnodup
      have hitems := Dict.items_set_of_nodup d item.2 hkeys
      have hlater : (((d.set item.1 item.2).items ++ rest).map Prod.fst).Nodup := by
        rw [hitems, List.append_assoc]
        exact hnodup
      rw [List.foldl_cons, ih _ hlater, hitems, List.append_assoc]
      rfl
  exact hall items Dict.empty hdistinct

/-- A dictionary comprehension keeps all entries exactly when the keys are distinct. -/
theorem length_dictOf_iff {ν : Type} {items : List (String × ν)} :
    (dictOf items).items.length = items.length ↔ (items.map Prod.fst).Nodup := by
  constructor
  · intro hlength
    refine nodup_of_nodup_subset (dictOf items).nodup (fun key hkey => ?_) ?_
    · obtain ⟨p, hp, rfl⟩ := List.mem_map.mp hkey
      exact List.mem_map_of_mem (mem_dictOf hp)
    · rw [List.length_map, List.length_map, hlength]
  · intro hdistinct
    rw [items_dictOf hdistinct]

/-! ## Serialisation -/

variable {rt : PyRuntime}

theorem sameFields_length : ∀ {items results : List (PyValue × PyValue)},
    SameFields rt items results → results.length = items.length
  | [], [], _ => rfl
  | (_, _) :: items, (_, _) :: results, h => by
    rw [List.length_cons, List.length_cons, sameFields_length h.2.2]

theorem serializeFields_keys (rt : PyRuntime) (items : List (PyValue × PyValue)) :
    (serializeFields rt items).map Prod.fst = items.map (fun item => pyStr rt item.1) := by
  induction items with
  | nil => rfl
  | cons item items ih =>
    rw [serializeFields, List.map_cons, List.map_cons, ih]

/-- The fields of a serialised dictionary. -/
def stringFields (fields : List (String × PyValue)) : List (PyValue × PyValue) :=
  fields.map (fun item => (.str item.1, item.2))

mutual

theorem serialize_iff (rt : PyRuntime) : ∀ value,
    StrictJson (serializeDatabaseValue rt value) ∧
        SameShape rt value (serializeDatabaseValue rt value) ↔ Representable rt value
  | .none | .bool _ | .int _ | .float _ | .str _ | .bytes _ | .uuid _ | .datetime _ | .date _
  | .decimal _ | .other _ => by
    simp [serializeDatabaseValue, StrictJson, SameShape, IsLeaf, Representable]
  | .tuple items => serializeItems_iff rt items
  | .list items => serializeItems_iff rt items
  | .dict items => by
    have hfields := serializeFields_iff rt items
    have hkeys := serializeFields_keys rt items
    have hdict : serializeDatabaseValue rt (.dict items) =
      .dict (stringFields (dictOf (serializeFields rt items)).items) := rfl
    rw [hdict]
    show StrictFields (stringFields (dictOf (serializeFields rt items)).items) ∧
      SameFields rt items (stringFields (dictOf (serializeFields rt items)).items) ↔
      (items.map (fun item => pyStr rt item.1)).Nodup ∧ RepresentableFields rt items
    rw [← hkeys]
    by_cases hdistinct : ((serializeFields rt items).map Prod.fst).Nodup
    · rw [items_dictOf hdistinct, hfields, and_iff_right hdistinct]
    · refine iff_of_false (fun h => hdistinct ?_) (fun h => hdistinct h.1)
      have hcount := sameFields_length h.2
      have hsame := congrArg List.length hkeys
      rw [List.length_map, List.length_map] at hsame
      rw [stringFields, List.length_map, ← hsame] at hcount
      exact length_dictOf_iff.mp hcount

theorem serializeItems_iff (rt : PyRuntime) : ∀ items,
    StrictItems (serializeItems rt items) ∧ SameItems rt items (serializeItems rt items) ↔
      RepresentableItems rt items
  | [] => by simp [serializeItems, StrictItems, SameItems, RepresentableItems]
  | item :: items => by
    have hitem := serialize_iff rt item
    have hitems := serializeItems_iff rt items
    simp only [serializeItems, StrictItems, SameItems, RepresentableItems]
    rw [← hitem, ← hitems, and_and_and_comm]

theorem serializeFields_iff (rt : PyRuntime) : ∀ items,
    StrictFields (stringFields (serializeFields rt items)) ∧
        SameFields rt items (stringFields (serializeFields rt items)) ↔
      RepresentableFields rt items
  | [] => by simp [serializeFields, stringFields, StrictFields, SameFields, RepresentableFields]
  | (key, value) :: items => by
    have hvalue := serialize_iff rt value
    have hitems := serializeFields_iff rt items
    have hcons : stringFields (serializeFields rt ((key, value) :: items)) =
      (.str (pyStr rt key), serializeDatabaseValue rt value) ::
        stringFields (serializeFields rt items) := rfl
    rw [hcons]
    simp only [StrictFields, SameFields, RepresentableFields]
    rw [← hvalue, ← hitems]
    constructor
    · rintro ⟨⟨-, hstrict, hstricts⟩, -, hshape, hshapes⟩
      exact ⟨⟨hstrict, hshape⟩, hstricts, hshapes⟩
    · rintro ⟨⟨hstrict, hshape⟩, hstricts, hshapes⟩
      exact ⟨⟨⟨_, rfl⟩, hstrict, hstricts⟩, trivial, hshape, hshapes⟩

end

mutual

theorem allFinite_of_strictJson : ∀ value, StrictJson value → allFinite value = true
  | .none, _ | .bool _, _ | .int _, _ | .str _, _ => rfl
  | .float (.finite _), _ => rfl
  | .list items, h => allFinite_of_strictItems items h
  | .dict items, h => allFinite_of_strictFields items h

theorem allFinite_of_strictItems : ∀ items, StrictItems items → allFiniteItems items = true
  | [], _ => rfl
  | item :: items, h => by
    rw [allFiniteItems, allFinite_of_strictJson item h.1, allFinite_of_strictItems items h.2]
    rfl

theorem allFinite_of_strictFields : ∀ items, StrictFields items → allFiniteFields items = true
  | [], _ => rfl
  | (_, value) :: items, h => by
    obtain ⟨⟨s, rfl⟩, hvalue, hitems⟩ := h
    rw [allFiniteFields, allFinite_of_strictJson value hvalue,
      allFinite_of_strictFields items hitems]
    rfl

end

/-- A value is serialised to strict JSON of the same shape exactly when no float in it is infinite
or NaN and no two keys of a dictionary in it have the same text. -/
theorem strictlySerialized_iff (rt : PyRuntime) (value : PyValue) :
    StrictlySerialized rt value ↔ Representable rt value := by
  have hiff := serialize_iff rt value
  constructor
  · intro h
    exact hiff.mp ⟨h.1, h.2.1⟩
  · intro h
    obtain ⟨hstrict, hshape⟩ := hiff.mpr h
    have hjson := hasJson_serialize rt value
    refine ⟨hstrict, hshape, hjson, ?_⟩
    unfold renderResponse
    rw [if_pos (allFinite_of_strictJson _ hstrict)]
    exact hjson

/-- A `double precision` column may hold NaN: the size is calculated and the response is not
rendered. -/
theorem nan_kept : ¬ StrictlySerialized plainRuntime (.float .nan) ∧
    (jsonDumps (serializeDatabaseValue plainRuntime (.float .nan))).isSome = true ∧
    renderResponse (serializeDatabaseValue plainRuntime (.float .nan)) = none := by
  refine ⟨fun h => h.1, rfl, rfl⟩

/-- Two keys with one text. -/
example : ¬ StrictlySerialized plainRuntime
    (.dict [(.int 1, .str "one"), (.str "1", .str "two")]) := by
  intro h
  have hfields := h.2.1
  exact absurd (sameFields_length hfields) (by decide +kernel)

end DataChat.Executor
