import Mathlib.Data.List.Basic

/-!
# Codecs

Texts are lists of characters, encoded files are lists of bytes, and a decoder fails by returning
`none`. UTF-8 is that of Lean's core; UTF-16 has a byte order and surrogate pairs; a character map
has one byte for each character.

* `decodeUtf8_encodeUtf8`, `decodeUtf16_encodeUtf16`, `decodeMap_of_encodeMap`: what has been
  encoded is decoded.
* `decodeUtf8_bom`: a byte-order mark is a character like any other to UTF-8.
* `decodeUtf8_none`: no text in UTF-8 begins with a byte of the byte-order mark of UTF-16.
* `length_decodeUtf16`: in UTF-16 a character takes at least two bytes.
-/

namespace DataChat.Codecs

/-! ## UTF-8 -/

def encodeUtf8 (text : List Char) : List UInt8 := text.flatMap String.utf8EncodeChar

def decodeUtf8 (bytes : List UInt8) : Option (List Char) :=
  bytes.toByteArray.utf8Decode?.map Array.toList

/-- The byte-order mark. -/
def bom : Char := Char.ofNat 0xFEFF

def utf8Bom : List UInt8 := [0xEF, 0xBB, 0xBF]

theorem toByteArray_encodeUtf8 (text : List Char) :
    (encodeUtf8 text).toByteArray = text.utf8Encode := rfl

theorem decodeUtf8_encodeUtf8 (text : List Char) : decodeUtf8 (encodeUtf8 text) = some text := by
  unfold decodeUtf8
  rw [toByteArray_encodeUtf8, List.utf8Decode?_utf8Encode]
  rfl

theorem utf8Bom_eq : utf8Bom.toByteArray = [bom].utf8Encode := by
  rw [List.utf8Encode_singleton]
  exact congrArg List.toByteArray (by decide +kernel)

/-- A byte-order mark is a character like any other. -/
theorem decodeUtf8_bom (bytes : List UInt8) :
    decodeUtf8 (utf8Bom ++ bytes) = (decodeUtf8 bytes).map (bom :: ·) := by
  unfold decodeUtf8
  rw [List.toByteArray_append, utf8Bom_eq, ByteArray.utf8Decode?_utf8Encode_singleton_append,
    Option.map_map, Option.map_map]
  refine congrArg (fun f => Option.map f bytes.toByteArray.utf8Decode?) ?_
  funext chars
  simp

/-- No text begins with a byte that begins no character. -/
theorem decodeUtf8_none {first : UInt8} (hfirst : ¬ first.IsUTF8FirstByte) (bytes : List UInt8) :
    decodeUtf8 (first :: bytes) = none := by
  cases hdecode : decodeUtf8 (first :: bytes) with
  | none => rfl
  | some text =>
    obtain ⟨chars, hchars, -⟩ := Option.map_eq_some_iff.mp hdecode
    have hvalid : (first :: bytes).toByteArray.utf8Decode?.isSome = true := by
      rw [hchars]
      rfl
    have hbyte := (ByteArray.isSome_utf8Decode?_iff.mp hvalid).isUTF8FirstByte_getElem_zero
      (by simp)
    rw [List.getElem_toByteArray] at hbyte
    exact absurd hbyte hfirst

/-- UTF-8, where a byte-order mark at the beginning is left out. -/
def decodeUtf8Sig (bytes : List UInt8) : Option (List Char) :=
  if bytes.take 3 = utf8Bom then decodeUtf8 (bytes.drop 3) else decodeUtf8 bytes

theorem decodeUtf8Sig_bom (bytes : List UInt8) :
    decodeUtf8Sig (utf8Bom ++ bytes) = decodeUtf8 bytes := rfl

/-- With and without its byte-order mark a file fails alike. -/
theorem decodeUtf8Sig_eq_none_iff {bytes : List UInt8} :
    decodeUtf8Sig bytes = none ↔ decodeUtf8 bytes = none := by
  unfold decodeUtf8Sig
  by_cases h : bytes.take 3 = utf8Bom
  · rw [if_pos h]
    have hsplit := List.take_append_drop 3 bytes
    rw [h] at hsplit
    have hbom := decodeUtf8_bom (bytes.drop 3)
    rw [hsplit] at hbom
    rw [hbom, Option.map_eq_none_iff]
  · rw [if_neg h]

/-- A text that does not begin with a byte-order mark. -/
theorem decodeUtf8Sig_encodeUtf8 {text : List Char} (h : text.head? ≠ some bom) :
    decodeUtf8Sig (encodeUtf8 text) = some text := by
  have hdecode := decodeUtf8_encodeUtf8 text
  unfold decodeUtf8Sig
  by_cases hmark : (encodeUtf8 text).take 3 = utf8Bom
  · have hsplit := List.take_append_drop 3 (encodeUtf8 text)
    rw [hmark] at hsplit
    rw [← hsplit, decodeUtf8_bom] at hdecode
    obtain ⟨rest, -, rfl⟩ := Option.map_eq_some_iff.mp hdecode
    exact absurd rfl h
  · rw [if_neg hmark]
    exact hdecode

/-! ## UTF-16 -/

inductive ByteOrder
  | little
  | big
deriving DecidableEq

/-- A code unit from its two bytes. -/
def unitOf : ByteOrder → UInt8 → UInt8 → Nat
  | .little, a, b => a.toNat + 256 * b.toNat
  | .big, a, b => 256 * a.toNat + b.toNat

def unitBytes : ByteOrder → Nat → List UInt8
  | .little, u => [UInt8.ofNat (u % 256), UInt8.ofNat (u / 256)]
  | .big, u => [UInt8.ofNat (u / 256), UInt8.ofNat (u % 256)]

/-- The code units of a file, whose length is even. -/
def readUnits (order : ByteOrder) : List UInt8 → Option (List Nat)
  | [] => some []
  | [_] => none
  | a :: b :: bytes => (readUnits order bytes).map (unitOf order a b :: ·)

def IsSurrogate (u : Nat) : Prop := 0xD800 ≤ u ∧ u < 0xE000

instance (u : Nat) : Decidable (IsSurrogate u) := inferInstanceAs (Decidable (_ ∧ _))

/-- The character of a surrogate pair. -/
def pairChar (high low : Nat) : Char :=
  Char.ofNat (0x10000 + (high - 0xD800) * 0x400 + (low - 0xDC00))

def decodeUnits : List Nat → Option (List Char)
  | [] => some []
  | [u] => if IsSurrogate u then none else some [Char.ofNat u]
  | u :: v :: units =>
    if IsSurrogate u then
      if u < 0xDC00 ∧ 0xDC00 ≤ v ∧ v < 0xE000 then (decodeUnits units).map (pairChar u v :: ·)
      else none
    else (decodeUnits (v :: units)).map (Char.ofNat u :: ·)

def charUnits (c : Char) : List Nat :=
  if c.toNat < 0x10000 then [c.toNat]
  else [0xD800 + (c.toNat - 0x10000) / 0x400, 0xDC00 + (c.toNat - 0x10000) % 0x400]

/-- The byte-order mark is the first code unit. -/
def encodeUtf16 (order : ByteOrder) (text : List Char) : List UInt8 :=
  (0xFEFF :: text.flatMap charUnits).flatMap (unitBytes order)

/-- Without a byte-order mark a file is little-endian. -/
def decodeUtf16 (bytes : List UInt8) : Option (List Char) :=
  if bytes.take 2 = [0xFF, 0xFE] then (readUnits .little (bytes.drop 2)).bind decodeUnits
  else if bytes.take 2 = [0xFE, 0xFF] then (readUnits .big (bytes.drop 2)).bind decodeUnits
  else (readUnits .little bytes).bind decodeUnits

theorem readUnits_flatMap (order : ByteOrder) {units : List Nat} (h : ∀ u ∈ units, u < 0x10000) :
    readUnits order (units.flatMap (unitBytes order)) = some units := by
  induction units with
  | nil => rfl
  | cons u units ih =>
    have hu := h u List.mem_cons_self
    have hlow : (UInt8.ofNat (u % 256)).toNat = u % 256 := by
      rw [UInt8.toNat_ofNat']
      omega
    have hhigh : (UInt8.ofNat (u / 256)).toNat = u / 256 := by
      rw [UInt8.toNat_ofNat']
      omega
    have hunit : ∃ a b, unitBytes order u = [a, b] ∧ unitOf order a b = u := by
      cases order with
      | little =>
        refine ⟨_, _, rfl, ?_⟩
        rw [unitOf, hlow, hhigh]
        omega
      | big =>
        refine ⟨_, _, rfl, ?_⟩
        rw [unitOf, hlow, hhigh]
        omega
    obtain ⟨a, b, hbytes, hsame⟩ := hunit
    rw [List.flatMap_cons, hbytes, List.cons_append, List.cons_append, List.nil_append, readUnits,
      ih (fun v hv => h v (List.mem_cons_of_mem u hv)), hsame]
    rfl

theorem toNat_valid (c : Char) :
    c.toNat < 0xD800 ∨ (0xE000 ≤ c.toNat ∧ c.toNat < 0x110000) := c.valid

theorem charUnits_lt (c : Char) : ∀ u ∈ charUnits c, u < 0x10000 := by
  have hvalid := toNat_valid c
  unfold charUnits
  split
  · simpa
  · intro u hu
    simp only [List.mem_cons, List.not_mem_nil, or_false] at hu
    rcases hu with hu | hu
    · omega
    · omega

theorem decodeUnits_cons {u : Nat} (h : ¬ IsSurrogate u) (units : List Nat) :
    decodeUnits (u :: units) = (decodeUnits units).map (Char.ofNat u :: ·) := by
  cases units with
  | nil => simp [decodeUnits, h]
  | cons v units => rw [decodeUnits, if_neg h]

/-- A character comes back from its units. -/
theorem decodeUnits_charUnits (c : Char) (units : List Nat) :
    decodeUnits (charUnits c ++ units) = (decodeUnits units).map (c :: ·) := by
  have hvalid := toNat_valid c
  unfold charUnits
  split
  · have hscalar : ¬ IsSurrogate c.toNat := by
      unfold IsSurrogate
      omega
    rw [List.singleton_append, decodeUnits_cons hscalar, Char.ofNat_toNat]
  · rename_i hlarge
    obtain ⟨k, hk⟩ : ∃ k, c.toNat = 0x10000 + k := ⟨c.toNat - 0x10000, by omega⟩
    have hhigh : IsSurrogate (0xD800 + k / 0x400) := by
      unfold IsSurrogate
      omega
    have hpair : pairChar (0xD800 + k / 0x400) (0xDC00 + k % 0x400) = c := by
      have hsum : 0x10000 + (0xD800 + k / 0x400 - 0xD800) * 0x400 +
          (0xDC00 + k % 0x400 - 0xDC00) = c.toNat := by omega
      rw [pairChar, hsum, Char.ofNat_toNat]
    rw [hk, Nat.add_sub_cancel_left, List.cons_append, List.singleton_append, decodeUnits,
      if_pos hhigh, if_pos (by omega), hpair]

theorem decodeUnits_flatMap (text : List Char) :
    decodeUnits (text.flatMap charUnits) = some text := by
  induction text with
  | nil => rfl
  | cons c text ih =>
    rw [List.flatMap_cons, decodeUnits_charUnits, ih]
    rfl

theorem decodeUtf16_little (bytes : List UInt8) :
    decodeUtf16 ([0xFF, 0xFE] ++ bytes) = (readUnits .little bytes).bind decodeUnits := rfl

theorem decodeUtf16_big (bytes : List UInt8) :
    decodeUtf16 ([0xFE, 0xFF] ++ bytes) = (readUnits .big bytes).bind decodeUnits := rfl

/-- What has been encoded in UTF-16 is decoded. -/
theorem decodeUtf16_encodeUtf16 (order : ByteOrder) (text : List Char) :
    decodeUtf16 (encodeUtf16 order text) = some text := by
  have hunits : readUnits order ((text.flatMap charUnits).flatMap (unitBytes order)) =
      some (text.flatMap charUnits) := by
    refine readUnits_flatMap order (fun u hu => ?_)
    obtain ⟨c, -, hc⟩ := List.mem_flatMap.mp hu
    exact charUnits_lt c u hc
  unfold encodeUtf16
  rw [List.flatMap_cons]
  cases order with
  | little =>
    have hbom : unitBytes .little 0xFEFF = [0xFF, 0xFE] := by decide
    rw [hbom, decodeUtf16_little, hunits]
    exact decodeUnits_flatMap text
  | big =>
    have hbom : unitBytes .big 0xFEFF = [0xFE, 0xFF] := by decide
    rw [hbom, decodeUtf16_big, hunits]
    exact decodeUnits_flatMap text

theorem length_readUnits {order : ByteOrder} {bytes : List UInt8} {units : List Nat}
    (h : readUnits order bytes = some units) : 2 * units.length = bytes.length := by
  induction bytes using readUnits.induct generalizing units with
  | case1 =>
    cases h
    rfl
  | case2 _ => cases h
  | case3 a b bytes ih =>
    rw [readUnits] at h
    obtain ⟨rest, hrest, rfl⟩ := Option.map_eq_some_iff.mp h
    have := ih hrest
    simp only [List.length_cons]
    omega

theorem length_decodeUnits {units : List Nat} {text : List Char}
    (h : decodeUnits units = some text) : text.length ≤ units.length := by
  induction units using decodeUnits.induct generalizing text with
  | case1 =>
    cases h
    exact Nat.le_refl _
  | case2 u hu =>
    rw [decodeUnits, if_pos hu] at h
    cases h
  | case3 u hu =>
    rw [decodeUnits, if_neg hu] at h
    cases h
    exact Nat.le_refl _
  | case4 u v units hu hpair ih =>
    rw [decodeUnits, if_pos hu, if_pos hpair] at h
    obtain ⟨rest, hrest, rfl⟩ := Option.map_eq_some_iff.mp h
    have := ih hrest
    simp only [List.length_cons]
    omega
  | case5 u v units hu hpair =>
    rw [decodeUnits, if_pos hu, if_neg hpair] at h
    cases h
  | case6 u v units hu ih =>
    rw [decodeUnits, if_neg hu] at h
    obtain ⟨rest, hrest, rfl⟩ := Option.map_eq_some_iff.mp h
    have := ih hrest
    simp only [List.length_cons] at this ⊢
    omega

/-- In UTF-16 a character takes at least two bytes. -/
theorem length_decodeUtf16 {bytes : List UInt8} {text : List Char}
    (h : decodeUtf16 bytes = some text) : 2 * text.length ≤ bytes.length := by
  have hpart : ∀ {order : ByteOrder} {part : List UInt8}, part.length ≤ bytes.length →
      (readUnits order part).bind decodeUnits = some text → 2 * text.length ≤ bytes.length := by
    intro order part hle hpart
    obtain ⟨units, hunits, htext⟩ := Option.bind_eq_some_iff.mp hpart
    have hbytes := length_readUnits hunits
    have hchars := length_decodeUnits htext
    omega
  have hdrop : (bytes.drop 2).length ≤ bytes.length := by
    rw [List.length_drop]
    omega
  unfold decodeUtf16 at h
  split at h
  · exact hpart hdrop h
  · split at h
    · exact hpart hdrop h
    · exact hpart (Nat.le_refl _) h

/-! ## Character maps -/

/-- The characters of the bytes; a byte may have none. -/
abbrev CharMap := UInt8 → Option Char

def allBytes : List UInt8 := (List.range 256).map UInt8.ofNat

def decodeMap (chars : CharMap) : List UInt8 → Option (List Char)
  | [] => some []
  | byte :: bytes => do
    let c ← chars byte
    let text ← decodeMap chars bytes
    pure (c :: text)

def encodeMap (chars : CharMap) : List Char → Option (List UInt8)
  | [] => some []
  | c :: text => do
    let byte ← allBytes.find? (fun byte => chars byte = some c)
    let bytes ← encodeMap chars text
    pure (byte :: bytes)

/-- What has been encoded is decoded. -/
theorem decodeMap_of_encodeMap {chars : CharMap} {text : List Char} {bytes : List UInt8}
    (h : encodeMap chars text = some bytes) : decodeMap chars bytes = some text := by
  induction text generalizing bytes with
  | nil =>
    cases h
    rfl
  | cons c text ih =>
    obtain ⟨byte, hbyte, h⟩ := Option.bind_eq_some_iff.mp h
    obtain ⟨rest, hrest, h⟩ := Option.bind_eq_some_iff.mp h
    cases h
    have hchar : chars byte = some c := by simpa using List.find?_some hbyte
    simp [decodeMap, hchar, ih hrest]

/-- The characters of Windows-1252 for the bytes from 0x80 to 0x9F, of which five have none. -/
def cp1252Specials : List (Option Char) :=
  [some '€', none, some '‚', some 'ƒ', some '„', some '…', some '†', some '‡', some 'ˆ', some '‰',
    some 'Š', some '‹', some 'Œ', none, some 'Ž', none, none, some '‘', some '’', some '“',
    some '”', some '•', some '–', some '—', some '˜', some '™', some 'š', some '›', some 'œ', none,
    some 'ž', some 'Ÿ']

/-- The other bytes are those of Latin-1. -/
def cp1252 : CharMap := fun byte =>
  if byte.toNat < 0x80 ∨ 0xA0 ≤ byte.toNat then some (Char.ofNat byte.toNat)
  else cp1252Specials.getD (byte.toNat - 0x80) none

theorem length_decodeMap {chars : CharMap} {bytes : List UInt8} {text : List Char}
    (h : decodeMap chars bytes = some text) : text.length = bytes.length := by
  induction bytes generalizing text with
  | nil =>
    cases h
    rfl
  | cons byte bytes ih =>
    obtain ⟨c, -, h⟩ := Option.bind_eq_some_iff.mp h
    obtain ⟨rest, hrest, h⟩ := Option.bind_eq_some_iff.mp h
    cases h
    rw [List.length_cons, List.length_cons, ih hrest]

end DataChat.Codecs
