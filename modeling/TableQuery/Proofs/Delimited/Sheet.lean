import Mathlib.Data.List.Infix
import TableQuery.Delimited.Sheet
import TableQuery.Proofs.Delimited.Format

/-!
# Sheets read back from their bytes

A sheet that satisfies `Sheet.Writable` is what its bytes are read as (`ofBytes_toBytes`). Its texts
come back because UTF-8 can be decoded, its records because delimited text can be read back. Two
things could still go wrong at the start of the file: bytes that are all white space stand for a
sheet without columns, and a byte-order mark is dropped. A visible character in the header and a
first column that does not start with the mark rule them out. Without the former a sheet with
columns is `Sheet.Regular`, and it comes back unless all its bytes are white space.
-/

namespace TableQuery

namespace Sheet

/-! ## Texts as bytes -/

/-- The bytes of a text are those of its characters. -/
lemma bytesOf_eq_flatMap (text : String) :
    bytesOf text = text.toList.flatMap String.utf8EncodeChar := by
  unfold bytesOf String.toUTF8
  rw [← String.utf8Encode_toList, List.utf8Encode, List.data_toByteArray]

/-- A text is read back from its bytes. -/
lemma textOf?_bytesOf (text : String) : textOf? (bytesOf text) = some text := by
  have hbytes : (⟨(bytesOf text).toArray⟩ : ByteArray) = text.toByteArray := rfl
  unfold textOf? String.fromUTF8?
  rw [hbytes, dif_pos text.isValidUTF8]
  rfl

/-- Texts are read back from their bytes. -/
lemma mapM_textOf? (texts : List String) :
    (texts.map bytesOf).mapM textOf? = some texts := by
  induction texts with
  | nil => rfl
  | cons text texts ih =>
    rw [List.map_cons, List.mapM_cons, textOf?_bytesOf, ih]
    rfl

/-- Records of texts are read back from their bytes. -/
lemma mapM_mapM_textOf? (records : List (List String)) :
    (records.map (·.map bytesOf)).mapM (·.mapM textOf?) = some records := by
  induction records with
  | nil => rfl
  | cons record records ih =>
    rw [List.map_cons, List.mapM_cons, mapM_textOf?, ih]
    rfl

/-! ## White space and byte-order marks -/

/-- Whether a character is ASCII white space. -/
def isBlankChar (c : Char) : Bool := [' ', '\t', '\n', '\x0c', '\r'].contains c

/-- Which bytes are white space, by their numbers. -/
lemma isBlankByte_ofNat {n : Nat} (h : n < 256) :
    isBlankByte (UInt8.ofNat n) = [0x20, 0x09, 0x0a, 0x0c, 0x0d].contains n := by
  have hbyte (b : UInt8) : (UInt8.ofNat n == b) = (n == b.toNat) := by
    rw [Bool.eq_iff_iff, beq_iff_eq, beq_iff_eq, ← UInt8.toNat_inj, UInt8.toNat_ofNat_of_lt' h]
  simp only [isBlankByte, hbyte, List.contains_cons, List.contains_nil, Bool.or_false,
    Bool.or_assoc]
  rfl

/-- A character that is no ASCII white space has a byte that is none: itself if it is ASCII, and
else its first byte, which marks a longer character. -/
lemma exists_visible_byte {c : Char} (h : isBlankChar c = false) :
    ∃ b ∈ String.utf8EncodeChar c, isBlankByte b = false := by
  have hlead {n : Nat} (hlow : 0xc0 ≤ n) (hhigh : n < 256) :
      isBlankByte (UInt8.ofNat n) = false := by
    rw [isBlankByte_ofNat hhigh]
    simp only [List.contains_cons, List.contains_nil, Bool.or_false, Bool.or_eq_false_iff,
      beq_eq_false_iff_ne]
    omega
  unfold String.utf8EncodeChar
  dsimp only
  split_ifs
  · refine ⟨_, List.mem_singleton_self _, ?_⟩
    rw [isBlankByte_ofNat (by omega)]
    simpa [isBlankChar, ← Char.toNat_inj] using h
  · exact ⟨_, List.mem_cons_self, hlead (by omega) (by omega)⟩
  · exact ⟨_, List.mem_cons_self, hlead (by omega) (by omega)⟩
  · exact ⟨_, List.mem_cons_self, hlead (by omega) (by omega)⟩

/-- Characters whose bytes start alike are the same. -/
lemma eq_of_utf8EncodeChar_append {c d : Char} {x y : List UInt8}
    (h : String.utf8EncodeChar c ++ x = String.utf8EncodeChar d ++ y) : c = d := by
  have hbytes := congrArg List.toByteArray h
  rw [List.toByteArray_append, List.toByteArray_append] at hbytes
  have hc := ByteArray.utf8DecodeChar?_utf8EncodeChar_append (b := x.toByteArray) (c := c)
  have hd := ByteArray.utf8DecodeChar?_utf8EncodeChar_append (b := y.toByteArray) (c := d)
  rw [hbytes, hd] at hc
  exact (Option.some.inj hc).symm

/-- The character that a byte-order mark spells. -/
def byteOrderChar : Char := '\ufeff'

/-- The bytes of a text start as a character does. -/
lemma isUTF8FirstByte_of_bytesOf {text : String} {b : UInt8} {rest : List UInt8}
    (h : bytesOf text = b :: rest) : b.IsUTF8FirstByte := by
  rw [bytesOf_eq_flatMap] at h
  cases htext : text.toList with
  | nil =>
    rw [htext] at h
    cases h
  | cons c chars =>
    have hfirst := UInt8.isUTF8FirstByte_getElem_zero_utf8EncodeChar (c := c)
    obtain ⟨first, others, hbytes⟩ :=
      List.exists_cons_of_ne_nil (String.utf8EncodeChar_ne_nil (c := c))
    rw [htext, List.flatMap_cons, hbytes] at h
    simp only [hbytes, List.getElem_cons_zero] at hfirst
    exact (List.cons.inj h).1 ▸ hfirst

/-- The bytes of a text that is not empty start with a byte-order mark, whatever comes after them,
only if the text does. -/
lemma head?_of_byteOrderMark_append {text : String} (hne : text ≠ "") {rest : List UInt8}
    (h : Delimited.byteOrderMark <+: bytesOf text ++ rest) :
    text.toList.head? = some byteOrderChar := by
  obtain ⟨tail, htail⟩ := h
  rw [bytesOf_eq_flatMap] at htail
  cases htext : text.toList with
  | nil => exact absurd (String.toList_eq_nil_iff.mp htext) hne
  | cons c chars =>
    rw [htext, List.flatMap_cons, List.append_assoc] at htail
    have hmark : Delimited.byteOrderMark = String.utf8EncodeChar byteOrderChar := by decide
    rw [hmark] at htail
    rw [eq_of_utf8EncodeChar_append htail]
    rfl

/-- What comes after a first text that is empty does not start with a byte-order mark, even if the
delimiter is the first byte of the mark: no character goes on with the second. -/
lemma unmarked_writeRest (delimiter : UInt8) (texts : List String) (rest : List UInt8) :
    ¬ Delimited.byteOrderMark <+: Delimited.writeRest delimiter (texts.map bytesOf) ++ rest := by
  rintro ⟨tail, htail⟩
  cases texts with
  | nil => exact absurd (List.cons.inj htail).1 (by decide)
  | cons text texts =>
    have hrest : Delimited.writeRest delimiter ((text :: texts).map bytesOf) ++ rest =
        delimiter :: (Delimited.writeField delimiter (bytesOf text) ++
          (Delimited.writeRest delimiter (texts.map bytesOf) ++ rest)) := by
      simp [Delimited.writeRest]
    rw [hrest] at htail
    obtain ⟨hdelimiter, htail⟩ := List.cons.inj htail
    unfold Delimited.writeField at htail
    split at htail
    · exact absurd (List.cons.inj htail).1 (by decide)
    cases hbytes : bytesOf text with
    | nil =>
      obtain ⟨b, others, hothers, hb, -⟩ :=
        Delimited.writeRest_starts delimiter (texts.map bytesOf)
      rw [hbytes, hothers] at htail
      have hsecond : 0xbb = b := (List.cons.inj htail).1
      rcases hb with rfl | rfl
      · exact absurd (hdelimiter.trans hsecond.symm) (by decide)
      · exact absurd hsecond (by decide)
    | cons b others =>
      rw [hbytes] at htail
      have hsecond : 0xbb = b := (List.cons.inj htail).1
      exact absurd (hsecond ▸ isUTF8FirstByte_of_bytesOf hbytes) (by decide)

/-! ## Sheets -/

/-- What a sheet has to be so that its records can be told from its bytes: it has columns, its
records are as wide as its header, no cell is an empty text, and the first column does not start
with a byte-order mark. -/
structure Regular (sheet : Sheet) : Prop where
  named : sheet.columns ≠ []
  width : ∀ record ∈ sheet.records, record.length = sheet.columns.length
  cells : ∀ record ∈ sheet.records, some "" ∉ record
  unmarked : ∀ first ∈ sheet.columns.head?, first.toList.head? ≠ some byteOrderChar

/-- What a sheet has to be so that its bytes stand for it: its records are as wide as its header, no
cell is an empty text, a character of the header is visible, and the first column does not start
with a byte-order mark. -/
structure Writable (sheet : Sheet) : Prop where
  width : ∀ record ∈ sheet.records, record.length = sheet.columns.length
  cells : ∀ record ∈ sheet.records, some "" ∉ record
  visible : ∃ column ∈ sheet.columns, ∃ c ∈ column.toList, isBlankChar c = false
  unmarked : ∀ first ∈ sheet.columns.head?, first.toList.head? ≠ some byteOrderChar

/-- The texts of the header and of the records, as they are written. -/
def texts (sheet : Sheet) : List (List String) :=
  sheet.columns :: sheet.records.map fun record => record.map fun cell => cell.getD ""

/-- A sheet with columns is written as the texts of its header and of its records. -/
lemma toBytes_eq_write {sheet : Sheet} (h : sheet.columns ≠ []) (delimiter : UInt8) :
    sheet.toBytes delimiter =
      Delimited.write delimiter (sheet.texts.map fun record => record.map bytesOf) := by
  unfold toBytes texts
  rw [if_neg (by simpa using h)]
  simp [Function.comp_def]

/-- A cell that is no empty text is read back from its text. -/
lemma cell_getD {written : Option String} (h : written ≠ some "") :
    cell (written.getD "") = written := by
  cases written with
  | none => rfl
  | some text =>
    have hne : text.isEmpty = false := by
      rw [Bool.eq_false_iff, Ne, String.isEmpty_iff]
      rintro rfl
      exact h rfl
    simp [cell, hne]

/-- A record without empty texts is read back from its texts. -/
lemma map_cell_getD {record : List (Option String)} (h : some "" ∉ record) :
    (record.map fun cell => cell.getD "").map cell = record := by
  rw [List.map_map]
  refine (List.map_congr_left fun written hwritten => ?_).trans (List.map_id record)
  exact cell_getD fun hempty => h (hempty ▸ hwritten)

/-! ## Bytes read back -/

/-- Bytes that hold a header of texts and records of texts as wide as it are read as their sheet. -/
lemma ofBytes_of_records {delimiter : UInt8} {bytes : List UInt8} {columns : List String}
    {records : List (List String)} (hvisible : bytes.all isBlankByte = false)
    (hrecords : Delimited.records delimiter bytes =
      (columns :: records).map fun record => record.map bytesOf)
    (hwidth : ∀ record ∈ records, record.length = columns.length) :
    ofBytes delimiter bytes = .ok ⟨columns, records.map (·.map cell)⟩ := by
  have hall : (records.all fun record => record.length == columns.length) = true :=
    List.all_eq_true.mpr fun record hrecord => beq_iff_eq.mpr (hwidth record hrecord)
  unfold ofBytes
  rw [if_neg (by rw [hvisible]; decide), hrecords, mapM_mapM_textOf?]
  simp only [hall, ↓reduceIte]

namespace Regular

variable {sheet : Sheet} (h : sheet.Regular)

include h in
/-- No record of texts is empty. -/
lemma texts_ne_nil : ∀ record ∈ sheet.texts.map fun record => record.map bytesOf, record ≠ [] := by
  intro bytes hbytes
  obtain ⟨record, hrecord, rfl⟩ := List.mem_map.mp hbytes
  rw [Ne, List.map_eq_nil_iff]
  rcases List.mem_cons.mp hrecord with rfl | hrecord
  · exact h.named
  · obtain ⟨cells, hcells, rfl⟩ := List.mem_map.mp hrecord
    rw [List.map_eq_nil_iff, ← List.length_eq_zero_iff, h.width cells hcells,
      List.length_eq_zero_iff]
    exact h.named

include h in
/-- The bytes do not start with a byte-order mark: a first column in quotes starts with a quote, and
any other with its own bytes. -/
lemma toBytes_unmarked (delimiter : UInt8) :
    Delimited.byteOrderMark.isPrefixOf (sheet.toBytes delimiter) = false := by
  obtain ⟨first, columns, hcolumns⟩ := List.exists_cons_of_ne_nil h.named
  have hfirst : first.toList.head? ≠ some byteOrderChar := h.unmarked first (by rw [hcolumns]; rfl)
  have hquoted (rest : List UInt8) :
      ¬ Delimited.byteOrderMark <+: Delimited.quote :: rest := by
    rintro ⟨tail, htail⟩
    exact absurd (List.cons.inj htail).1 (by decide)
  rw [Bool.eq_false_iff, Ne, List.isPrefixOf_iff_prefix, toBytes_eq_write h.named, texts,
    hcolumns, List.map_cons, List.map_cons, Delimited.write, List.flatMap_cons]
  by_cases hlone : bytesOf first :: columns.map bytesOf = [[]]
  · rw [hlone]
    exact hquoted _
  rw [Delimited.writeRecord_cons hlone, Delimited.writeField, List.append_assoc]
  split
  · exact hquoted _
  by_cases hempty : first = ""
  · rw [hempty]
    exact unmarked_writeRest delimiter columns _
  · exact fun hmark => hfirst (head?_of_byteOrderMark_append hempty hmark)

variable {delimiter : UInt8} (hdelimiter : Delimited.Separates delimiter)

include h hdelimiter in
/-- The records of the bytes are those of the texts. -/
lemma records_toBytes :
    Delimited.records delimiter (sheet.toBytes delimiter) =
      sheet.texts.map fun record => record.map bytesOf := by
  unfold Delimited.records
  rw [h.toBytes_unmarked delimiter, toBytes_eq_write h.named]
  exact Delimited.recordsFrom_write hdelimiter h.texts_ne_nil

include h in
/-- The records are read back from their texts. -/
lemma map_cell_records :
    (sheet.records.map fun record => record.map fun cell => cell.getD "").map (·.map cell) =
      sheet.records := by
  rw [List.map_map]
  refine (List.map_congr_left fun record hrecord => ?_).trans (List.map_id _)
  exact map_cell_getD (h.cells record hrecord)

include h hdelimiter in
/-- The sheet is read back from its bytes unless they are all white space. -/
lemma ofBytes_of_visible (hvisible : (sheet.toBytes delimiter).all isBlankByte = false) :
    ofBytes delimiter (sheet.toBytes delimiter) = .ok sheet := by
  have hwidth : ∀ record ∈ sheet.records.map fun record => record.map fun cell => cell.getD "",
      record.length = sheet.columns.length := by
    intro texts htexts
    obtain ⟨record, hrecord, rfl⟩ := List.mem_map.mp htexts
    rw [List.length_map]
    exact h.width record hrecord
  have hread := ofBytes_of_records hvisible (h.records_toBytes hdelimiter) hwidth
  rwa [h.map_cell_records] at hread

end Regular

namespace Writable

variable {sheet : Sheet} (h : sheet.Writable)

include h in
/-- A sheet that can be written is regular: a visible character stands in some column. -/
lemma regular : sheet.Regular where
  named := by
    obtain ⟨column, hcolumn, -⟩ := h.visible
    exact List.ne_nil_of_mem hcolumn
  width := h.width
  cells := h.cells
  unmarked := h.unmarked

include h in
/-- The bytes are not all white space: those of the visible character are not. -/
lemma toBytes_visible (delimiter : UInt8) : (sheet.toBytes delimiter).all isBlankByte = false := by
  obtain ⟨column, hcolumn, c, hc, hvisible⟩ := h.visible
  obtain ⟨b, hb, hblank⟩ := exists_visible_byte hvisible
  have hbytes : b ∈ bytesOf column := by
    rw [bytesOf_eq_flatMap]
    exact List.mem_flatMap.mpr ⟨c, hc, hb⟩
  have hrecord : b ∈ Delimited.writeRecord delimiter (sheet.columns.map bytesOf) :=
    Delimited.mem_writeRecord (List.mem_map_of_mem hcolumn) hbytes
  have hfile : b ∈ sheet.toBytes delimiter := by
    rw [toBytes_eq_write h.regular.named, texts, List.map_cons]
    exact List.mem_flatMap.mpr ⟨_, List.mem_cons_self, hrecord⟩
  exact List.all_eq_false.mpr ⟨b, hfile, by simp [hblank]⟩

end Writable

/-- A sheet is read back from its bytes, cell text for cell text, under the delimiter that they were
written with. -/
theorem ofBytes_toBytes {delimiter : UInt8} (hdelimiter : Delimited.IsDelimiter delimiter)
    {sheet : Sheet} (h : sheet.Writable) :
    ofBytes delimiter (sheet.toBytes delimiter) = .ok sheet :=
  h.regular.ofBytes_of_visible hdelimiter.separates (h.toBytes_visible delimiter)

/-- One column of notes: an empty cell, which would look like an empty line, and a cell with the
delimiter, quotes and a line end. -/
theorem ofBytes_toBytes_of_notes :
    let sheet : Sheet := ⟨["note"], [[none], [some "a, \"b\"\r\n"], [some " "]]⟩
    Delimited.IsDelimiter 0x2c ∧ sheet.Writable ∧
      ofBytes 0x2c (sheet.toBytes 0x2c) = .ok sheet := by
  intro sheet
  have hdelimiter : Delimited.IsDelimiter 0x2c := ⟨by decide, by decide, by decide⟩
  have hsheet : sheet.Writable := by
    refine ⟨by decide, by decide, ⟨"note", by decide, 'n', by decide, by decide⟩, ?_⟩
    intro first hfirst
    obtain rfl := Option.mem_some.mp hfirst
    decide
  exact ⟨hdelimiter, hsheet, ofBytes_toBytes hdelimiter hsheet⟩

end Sheet

end TableQuery
