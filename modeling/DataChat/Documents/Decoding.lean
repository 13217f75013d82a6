import DataChat.Documents.Extraction

/-!
# Decoding a text file

`decode_text_file` tries its codecs in a fixed order. UTF-8 is tried first and rejects what it has
not encoded, and a file in UTF-16 with a byte-order mark begins with a byte that begins no character
of UTF-8. But without a byte-order mark `utf-16` accepts most files of an even length, and it is
tried before `cp1252`.

* `decodeTextFile_of_not_utf8`: what becomes of a file that is not UTF-8.
* `decodesBack_iff`: all four encodings are decoded exactly when `utf-16` rejects the text in
  `cp1252`, unless UTF-8 accepts it.
* `cafe_not_decoded`: a text in `cp1252` that is taken for UTF-16.
-/

namespace DataChat.Documents

open Codecs

variable {content bytes : List UInt8} {text : List Char}

/-! ## The order of the codecs -/

theorem decodeTextFile_of_utf8Sig (h : decodeUtf8Sig content = some text) :
    decodeTextFile content = .ok (String.ofList text) := by
  simp [decodeTextFile, encodings, h]
  rfl

/-- A file that is not UTF-8 goes to the last two codecs. -/
theorem decodeTextFile_of_not_utf8 (h : decodeUtf8 content = none) :
    decodeTextFile content =
      match (decodeUtf16 content).or (decodeMap cp1252 content) with
      | some text => pure (String.ofList text)
      | none => throw ⟨"The text file encoding is not supported."⟩ := by
  have hsig := decodeUtf8Sig_eq_none_iff.mpr h
  unfold decodeTextFile encodings
  simp only [List.findSome?_cons, hsig, h, List.findSome?_nil]
  cases decodeUtf16 content with
  | none => cases decodeMap cp1252 content <;> rfl
  | some text => rfl

theorem decodeTextFile_utf16 (h : decodeUtf8 content = none)
    (hdecode : decodeUtf16 content = some text) :
    decodeTextFile content = .ok (String.ofList text) := by
  rw [decodeTextFile_of_not_utf8 h, hdecode]
  rfl

theorem decodeTextFile_cp1252 (h : decodeUtf8 content = none) (hnone : decodeUtf16 content = none)
    (hdecode : decodeMap cp1252 content = some text) :
    decodeTextFile content = .ok (String.ofList text) := by
  rw [decodeTextFile_of_not_utf8 h, hnone, hdecode]
  rfl

/-! ## What should hold -/

/-- The text is decoded from each of its encodings. -/
structure DecodesBack (text : List Char) : Prop where
  utf8 : decodeTextFile (encodeUtf8 text) = .ok (String.ofList text)
  utf8Sig : decodeTextFile (utf8Bom ++ encodeUtf8 text) = .ok (String.ofList text)
  utf16 : ∀ order, decodeTextFile (encodeUtf16 order text) = .ok (String.ofList text)
  cp1252 : ∀ bytes, encodeMap cp1252 text = some bytes → decodeUtf8 bytes = none →
    decodeTextFile bytes = .ok (String.ofList text)

/-- The byte-order mark of UTF-16 begins no text in UTF-8. -/
theorem decodeUtf8_encodeUtf16 (order : ByteOrder) (text : List Char) :
    decodeUtf8 (encodeUtf16 order text) = none := by
  cases order with
  | little => exact decodeUtf8_none (by decide) _
  | big => exact decodeUtf8_none (by decide) _

/-- In UTF-16 a file has fewer characters than in `cp1252`. -/
theorem decodeUtf16_ne (hencode : encodeMap cp1252 text = some bytes)
    (hutf8 : decodeUtf8 bytes = none) : decodeUtf16 bytes ≠ some text := by
  intro hdecode
  have hhalf := length_decodeUtf16 hdecode
  have hsame := length_decodeMap (decodeMap_of_encodeMap hencode)
  have hnil : bytes = [] := List.length_eq_zero_iff.mp (by omega)
  subst hnil
  cases hutf8

/-- All encodings are decoded exactly when `utf-16` rejects the text in `cp1252`, unless UTF-8
accepts it. -/
theorem decodesBack_iff (text : List Char) (hbom : text.head? ≠ some bom) :
    DecodesBack text ↔
      ∀ bytes, encodeMap cp1252 text = some bytes → decodeUtf8 bytes = none →
        decodeUtf16 bytes = none := by
  constructor
  · intro h bytes hencode hutf8
    cases hdecode : decodeUtf16 bytes with
    | none => rfl
    | some other =>
      have hother := decodeTextFile_utf16 hutf8 hdecode
      rw [h.cp1252 bytes hencode hutf8] at hother
      have hsame := String.ofList_injective (Except.ok.inj hother)
      rw [← hsame] at hdecode
      exact absurd hdecode (decodeUtf16_ne hencode hutf8)
  · intro h
    refine ⟨?_, ?_, ?_, ?_⟩
    · exact decodeTextFile_of_utf8Sig (decodeUtf8Sig_encodeUtf8 hbom)
    · exact decodeTextFile_of_utf8Sig ((decodeUtf8Sig_bom _).trans (decodeUtf8_encodeUtf8 text))
    · intro order
      exact decodeTextFile_utf16 (decodeUtf8_encodeUtf16 order text)
        (decodeUtf16_encodeUtf16 order text)
    · intro bytes hencode hutf8
      exact decodeTextFile_cp1252 hutf8 (h bytes hencode hutf8) (decodeMap_of_encodeMap hencode)

def dessert : List Char := "Crème brûlée.".toList

def dessertBytes : List UInt8 :=
  [0x43, 0x72, 0xE8, 0x6D, 0x65, 0x20, 0x62, 0x72, 0xFB, 0x6C, 0xE9, 0x65, 0x2E]

/-- An odd number of bytes is not a file in UTF-16. -/
theorem accent_decoded : DecodesBack dessert := by
  refine (decodesBack_iff dessert (by decide +kernel)).mpr (fun bytes hencode _ => ?_)
  have hbytes : encodeMap cp1252 dessert = some dessertBytes := by decide +kernel
  rw [hbytes] at hencode
  obtain rfl := Option.some.inj hencode
  decide +kernel

/-- `café` in `cp1252`. -/
def cafeBytes : List UInt8 := [0x63, 0x61, 0x66, 0xE9]

theorem cafe_not_utf8 : decodeUtf8 cafeBytes = none := by
  decide +kernel

/-- Four bytes are two characters of UTF-16. -/
theorem cafe_not_decoded :
    encodeMap cp1252 ['c', 'a', 'f', 'é'] = some cafeBytes ∧
      decodeTextFile cafeBytes = .ok (String.ofList [Char.ofNat 0x6163, Char.ofNat 0xE966]) ∧
      ¬ DecodesBack ['c', 'a', 'f', 'é'] := by
  have hencode : encodeMap cp1252 ['c', 'a', 'f', 'é'] = some cafeBytes := by decide +kernel
  have hdecode : decodeTextFile cafeBytes =
      .ok (String.ofList [Char.ofNat 0x6163, Char.ofNat 0xE966]) :=
    decodeTextFile_utf16 cafe_not_utf8 (by decide +kernel)
  refine ⟨hencode, hdecode, fun h => ?_⟩
  have hback := h.cp1252 cafeBytes hencode cafe_not_utf8
  rw [hdecode] at hback
  have hsame := String.ofList_injective (Except.ok.inj hback)
  exact absurd hsame (by decide)

end DataChat.Documents
