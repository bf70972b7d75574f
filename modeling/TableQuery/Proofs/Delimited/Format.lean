import Mathlib.Data.List.Infix
import TableQuery.Delimited.Format

/-!
# Delimited text read back

The reader takes the writer's bytes apart again. A written field leads the reader to the byte that
closes it with the bytes of the field in hand (`writeField_reads`), whether it was quoted or not;
from there fields make up records and records files (`recordsFrom_write`). What a field holds does
not matter: delimiters, quotes and line ends inside it are quoted.
-/

namespace TableQuery

namespace Delimited

/-- A byte that the reader can tell from what else ends a field: neither a quote nor the end of a
line. -/
structure Separates (delimiter : UInt8) : Prop where
  ne_quote : delimiter ≠ quote
  not_lineEnd : isLineEnd delimiter = false

/-- A byte that can stand between two fields: ASCII, and neither a quote nor the end of a line. -/
structure IsDelimiter (delimiter : UInt8) : Prop where
  ascii : delimiter < 0x80
  ne_quote : delimiter ≠ quote
  not_lineEnd : isLineEnd delimiter = false

/-- An ASCII delimiter separates fields. -/
lemma IsDelimiter.separates {delimiter : UInt8} (h : IsDelimiter delimiter) :
    Separates delimiter :=
  ⟨h.ne_quote, h.not_lineEnd⟩

/-- Whether the writer puts a byte after a field: between two fields or after the last one. -/
def Closes (delimiter b : UInt8) : Prop := b = delimiter ∨ b = newline

/-! ## Moves of the reader -/

/-- The reader goes on as its move on the next byte says. -/
lemma recordsFrom_cons (delimiter : UInt8) (place : Place) (record : List Field) (field : Field)
    (b : UInt8) (rest : List UInt8) :
    recordsFrom delimiter place record field (b :: rest) =
      match move delimiter place b with
      | .skip place => recordsFrom delimiter place record field rest
      | .copy place => recordsFrom delimiter place record (b :: field) rest
      | .endField => recordsFrom delimiter .fieldStart (field.reverse :: record) [] rest
      | .endRecord =>
        (field.reverse :: record).reverse :: recordsFrom delimiter .recordStart [] [] rest := by
  cases place <;> rfl

variable {delimiter : UInt8} (hdelimiter : Separates delimiter)

include hdelimiter in
/-- The writer never puts a quote after a field. -/
lemma Closes.ne_quote {b : UInt8} (hb : Closes delimiter b) : b ≠ quote := by
  rcases hb with rfl | rfl
  · exact hdelimiter.ne_quote
  · decide

/-- A closing byte does the same after a quoted part as after plain bytes. -/
lemma move_afterQuote {b : UInt8} (hb : b ≠ quote) :
    move delimiter .afterQuote b = move delimiter .plain b := by
  simp [move, hb]

/-- A byte other than a quote does the same at the start of a field as after plain bytes. -/
lemma move_fieldStart {b : UInt8} (hb : b ≠ quote) :
    move delimiter .fieldStart b = move delimiter .plain b := by
  simp [move, hb]

/-- A byte that ends no line does the same at the start of a record as at the start of a field. -/
lemma move_recordStart {b : UInt8} (hb : isLineEnd b = false) :
    move delimiter .recordStart b = move delimiter .fieldStart b := by
  simp [move, hb]

/-- Bytes that need no quotes are copied. -/
lemma move_plain {b : UInt8} (hb : (b == delimiter || b == quote || isLineEnd b) = false) :
    move delimiter .plain b = .copy .plain := by
  simp only [Bool.or_eq_false_iff] at hb
  simp [move, hb.1.1, hb.2]

/-! ## Fields -/

/-- Plain bytes are read as they are. -/
lemma plain_reads {bytes : List UInt8} (hbytes : needsQuotes delimiter bytes = false)
    (record : List Field) (field : Field) (rest : List UInt8) :
    recordsFrom delimiter .plain record field (bytes ++ rest) =
      recordsFrom delimiter .plain record (bytes.reverse ++ field) rest := by
  induction bytes generalizing field with
  | nil => rfl
  | cons b bytes ih =>
    rw [needsQuotes, List.any_cons, Bool.or_eq_false_iff] at hbytes
    rw [List.cons_append, recordsFrom_cons, move_plain hbytes.1]
    simp only [ih hbytes.2, List.reverse_cons, List.append_assoc, List.singleton_append]

/-- Inside quotes a doubled quote is read as one and any other byte as it is, up to the closing
quote. -/
lemma inQuotes_reads (bytes : List UInt8) (record : List Field) (field : Field)
    (rest : List UInt8) :
    recordsFrom delimiter .inQuotes record field
        (bytes.flatMap (fun b => if b == quote then [quote, quote] else [b]) ++ quote :: rest) =
      recordsFrom delimiter .afterQuote record (bytes.reverse ++ field) rest := by
  induction bytes generalizing field with
  | nil => rfl
  | cons b bytes ih =>
    have hreverse : (b :: bytes).reverse ++ field = bytes.reverse ++ b :: field := by simp
    rw [List.flatMap_cons, List.append_assoc, hreverse, ← ih]
    by_cases hb : b = quote
    · -- the first of the two quotes is passed over and the second one copied
      rw [hb, if_pos (beq_self_eq_true quote), List.cons_append, List.singleton_append,
        recordsFrom_cons]
      simp only [move, beq_self_eq_true, ↓reduceIte]
      rw [recordsFrom_cons]
      simp only [move, beq_self_eq_true, ↓reduceIte]
    · have hne : (b == quote) = false := beq_false_of_ne hb
      rw [hne, if_neg (by decide), List.singleton_append, recordsFrom_cons]
      simp only [move, hne, Bool.false_eq_true, ↓reduceIte]

include hdelimiter in
/-- A written field leads to the byte that closes it with the bytes of the field in hand. -/
lemma writeField_reads (record : List Field) (field : Field) {b : UInt8}
    (hb : Closes delimiter b) (rest : List UInt8) :
    recordsFrom delimiter .fieldStart record [] (writeField delimiter field ++ b :: rest) =
      recordsFrom delimiter .plain record field.reverse (b :: rest) := by
  have hne : b ≠ quote := hb.ne_quote hdelimiter
  unfold writeField
  cases hquotes : needsQuotes delimiter field with
  | true =>
    rw [if_pos rfl, quoted, List.cons_append, List.append_assoc, List.singleton_append,
      recordsFrom_cons]
    simp only [move, beq_self_eq_true, ↓reduceIte]
    rw [inQuotes_reads, List.append_nil, recordsFrom_cons, recordsFrom_cons, move_afterQuote hne]
  | false =>
    rw [if_neg (by decide)]
    cases field with
    | nil =>
      rw [List.nil_append, recordsFrom_cons, recordsFrom_cons, move_fieldStart hne]
      rfl
    | cons first field =>
      -- the first byte is copied like the others, since it opens no quotes
      have hplain := plain_reads hquotes record [] (b :: rest)
      have hfirst : first ≠ quote := by
        intro h
        rw [needsQuotes, List.any_cons, h] at hquotes
        simp at hquotes
      rw [List.cons_append, recordsFrom_cons] at hplain ⊢
      rw [move_fieldStart hfirst, hplain, List.append_nil]

/-! ## Records -/

/-- What a written record holds after its first field. -/
def writeRest (delimiter : UInt8) (fields : List Field) : List UInt8 :=
  fields.flatMap (fun field => delimiter :: writeField delimiter field) ++ [newline]

/-- What comes after the first field starts with a closing byte, which is a delimiter if there are
more fields. -/
lemma writeRest_starts (delimiter : UInt8) (fields : List Field) :
    ∃ b rest, writeRest delimiter fields = b :: rest ∧ Closes delimiter b ∧
      (fields ≠ [] → b = delimiter) := by
  cases fields with
  | nil => exact ⟨newline, [], rfl, .inr rfl, fun h => absurd rfl h⟩
  | cons field fields =>
    exact ⟨delimiter, writeField delimiter field ++ writeRest delimiter fields,
      by simp [writeRest], .inl rfl, fun _ => rfl⟩

/-- A written record is its first field and what comes after it, unless a lone empty field has to be
told from an empty line. -/
lemma writeRecord_cons {field : Field} {fields : List Field} (h : field :: fields ≠ [[]]) :
    writeRecord delimiter (field :: fields) =
      writeField delimiter field ++ writeRest delimiter fields := by
  unfold writeRecord
  rw [if_neg h]
  clear h
  induction fields generalizing field with
  | nil =>
    rw [List.map_singleton, List.intercalate_singleton]
    rfl
  | cons next fields ih =>
    rw [List.map_cons, List.map_cons, List.intercalate_cons_cons, ← List.map_cons,
      List.append_assoc, ih]
    simp [writeRest]

include hdelimiter in
/-- Written fields, one delimiter between each two and a line end after the last, make up a
record. -/
lemma fields_read (record : List Field) (field : Field) (fields : List Field)
    (rest : List UInt8) :
    recordsFrom delimiter .fieldStart record []
        (writeField delimiter field ++ (writeRest delimiter fields ++ rest)) =
      (record.reverse ++ field :: fields) :: recordsFrom delimiter .recordStart [] [] rest := by
  induction fields generalizing record field with
  | nil =>
    have hmove : move delimiter .plain newline = .endRecord := by
      have hne : newline ≠ delimiter := by
        rintro rfl
        exact absurd hdelimiter.not_lineEnd (by decide)
      simp [move, hne, isLineEnd]
    have hrest : writeRest delimiter [] ++ rest = newline :: rest := rfl
    rw [hrest, writeField_reads hdelimiter record field (.inr rfl), recordsFrom_cons, hmove]
    simp
  | cons next fields ih =>
    have hmove : move delimiter .plain delimiter = .endField := by simp [move]
    have hrest : writeRest delimiter (next :: fields) ++ rest =
        delimiter :: (writeField delimiter next ++ (writeRest delimiter fields ++ rest)) := by
      simp [writeRest]
    rw [hrest, writeField_reads hdelimiter record field (.inl rfl), recordsFrom_cons, hmove]
    simp only [List.reverse_reverse, ih, List.reverse_cons, List.append_assoc,
      List.singleton_append]

/-- A written field starts with a byte that ends no line, unless it is empty. -/
lemma writeField_starts (delimiter : UInt8) (field : Field) :
    (field = [] ∧ writeField delimiter field = []) ∨
    ∃ b rest, writeField delimiter field = b :: rest ∧ isLineEnd b = false := by
  unfold writeField
  cases hquotes : needsQuotes delimiter field with
  | true => exact .inr ⟨quote, _, rfl, by decide⟩
  | false =>
    cases field with
    | nil => exact .inl ⟨rfl, rfl⟩
    | cons b field =>
      rw [needsQuotes, List.any_cons] at hquotes
      simp only [Bool.or_eq_false_iff] at hquotes
      exact .inr ⟨b, field, rfl, hquotes.1.2⟩

include hdelimiter in
/-- A written record starts with a byte that ends no line, so that it is not taken for an empty
line. -/
lemma writeRecord_starts {record : List Field} (hne : record ≠ []) :
    ∃ b rest, writeRecord delimiter record = b :: rest ∧ isLineEnd b = false := by
  obtain ⟨field, fields, rfl⟩ := List.exists_cons_of_ne_nil hne
  by_cases hlone : field :: fields = [[]]
  · rw [hlone]
    exact ⟨quote, _, rfl, by decide⟩
  rw [writeRecord_cons hlone]
  rcases writeField_starts delimiter field with ⟨rfl, hwritten⟩ | ⟨b, rest, hwritten, hb⟩
  · have hmore : fields ≠ [] := by
      rintro rfl
      exact hlone rfl
    obtain ⟨b, rest, hrest, -, hdelim⟩ := writeRest_starts delimiter fields
    exact ⟨b, rest, by rw [hwritten, hrest, List.nil_append],
      by rw [hdelim hmore]; exact hdelimiter.not_lineEnd⟩
  · exact ⟨b, rest ++ writeRest delimiter fields, by rw [hwritten, List.cons_append], hb⟩

include hdelimiter in
/-- A written record with at least one field is read back. -/
lemma writeRecord_reads {record : List Field} (hne : record ≠ []) (rest : List UInt8) :
    recordsFrom delimiter .recordStart [] [] (writeRecord delimiter record ++ rest) =
      record :: recordsFrom delimiter .recordStart [] [] rest := by
  have hstart : recordsFrom delimiter .recordStart [] [] (writeRecord delimiter record ++ rest) =
      recordsFrom delimiter .fieldStart [] [] (writeRecord delimiter record ++ rest) := by
    obtain ⟨b, tail, hwritten, hb⟩ := writeRecord_starts hdelimiter hne
    rw [hwritten, List.cons_append, recordsFrom_cons, recordsFrom_cons, move_recordStart hb]
  rw [hstart]
  obtain ⟨field, fields, rfl⟩ := List.exists_cons_of_ne_nil hne
  by_cases hlone : field :: fields = [[]]
  · -- the two quotes of a lone empty field are those of a field that holds nothing
    have hbytes : writeRecord delimiter [[]] ++ rest = quote :: quote :: newline :: rest := rfl
    have hopens := @inQuotes_reads delimiter [] [] [] (newline :: rest)
    have hcloses := fields_read hdelimiter [] [] [] rest
    rw [hlone, hbytes, recordsFrom_cons]
    simp only [move, beq_self_eq_true, ↓reduceIte]
    refine hopens.trans ?_
    rw [recordsFrom_cons, move_afterQuote (by decide)]
    exact hcloses
  · rw [writeRecord_cons hlone, List.append_assoc]
    exact fields_read hdelimiter [] field fields rest

include hdelimiter in
/-- Records with at least one field each are read back from what is written of them. -/
theorem recordsFrom_write {records : List (List Field)} (hne : ∀ record ∈ records, record ≠ []) :
    recordsFrom delimiter .recordStart [] [] (write delimiter records) = records := by
  induction records with
  | nil => rfl
  | cons record records ih =>
    rw [write, List.flatMap_cons, ← write,
      writeRecord_reads hdelimiter (hne record List.mem_cons_self),
      ih fun other h => hne other (List.mem_cons_of_mem record h)]

/-! ## Bytes that are written -/

/-- A written field holds the bytes of the field. -/
lemma mem_writeField {field : Field} {b : UInt8} (h : b ∈ field) :
    b ∈ writeField delimiter field := by
  unfold writeField
  split
  · refine List.mem_cons_of_mem _ (List.mem_append_left _ (List.mem_flatMap.mpr ⟨b, h, ?_⟩))
    split
    · rename_i hquote
      simp [eq_of_beq hquote]
    · exact List.mem_singleton_self b
  · exact h

/-- A written record holds the bytes of its fields. -/
lemma mem_writeRecord {record : List Field} {field : Field} {b : UInt8} (hfield : field ∈ record)
    (hb : b ∈ field) : b ∈ writeRecord delimiter record := by
  obtain ⟨first, fields, rfl⟩ := List.exists_cons_of_ne_nil (List.ne_nil_of_mem hfield)
  have hlone : first :: fields ≠ [[]] := by
    intro h
    rw [h, List.mem_singleton] at hfield
    rw [hfield] at hb
    cases hb
  rw [writeRecord_cons hlone]
  rcases List.mem_cons.mp hfield with rfl | hmem
  · exact List.mem_append_left _ (mem_writeField hb)
  · refine List.mem_append_right _ (List.mem_append_left _ (List.mem_flatMap.mpr ⟨field, hmem, ?_⟩))
    exact List.mem_cons_of_mem _ (mem_writeField hb)

end Delimited

end TableQuery
