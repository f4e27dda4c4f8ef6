import ImportImpact.Proofs.Json.Escape
import ImportImpact.Proofs.Json.Scalar
import ImportImpact.Proofs.Outcome
import ImportImpact.Proofs.Value.Within

/-!
Writing a value and reading it back. A document holds nothing but words, whole numbers, texts, lists
and records, and what was written for one reads back as this one, whatever follows it. The bound of
the reader is never reached, because every step has a character of its own.
-/

namespace ImportImpact

namespace Value

/-- Documents can hold the value as it is: there are no fractions, and keys are texts, each of them
there once. -/
inductive Documented : Value → Prop
  | null : Documented .null
  | bool (truth : Bool) : Documented (.bool truth)
  | int (number : Int) : Documented (.int number)
  | str (text : String) : Documented (.str text)
  | list {items : List Value} (each : ∀ item ∈ items, Documented item) : Documented (.list items)
  | record {fields : List (String × Value)} (each : ∀ field ∈ fields, Documented field.2)
      (distinct : (fields.map Prod.fst).Nodup) : Documented (.record fields)

def entryOf (field : String × Value) : Value × Value := (.str field.1, field.2)

theorem record_eq (fields : List (String × Value)) : record fields = .dict (fields.map entryOf) :=
  rfl

theorem record_writable_iff {fields : List (String × Value)} :
    (record fields).isWritable = true ↔ ∀ field ∈ fields, field.2.isWritable = true := by
  rw [record_eq, isWritable, entries_writable_iff, List.forall_mem_map]
  exact forall₂_congr fun field _ => and_iff_right rfl

theorem record_nesting_le_iff {fields : List (String × Value)} {levels : Nat} :
    entriesNesting (fields.map entryOf) ≤ levels ↔ ∀ field ∈ fields, field.2.nesting ≤ levels := by
  rw [entries_nesting_le_iff, List.forall_mem_map]
  exact forall₂_congr fun field _ => and_iff_right (Nat.zero_le levels)

theorem nesting_of_record_le_iff {fields : List (String × Value)} {levels : Nat} :
    (record fields).nesting ≤ levels + 1 ↔ ∀ field ∈ fields, field.2.nesting ≤ levels := by
  rw [record_eq, nesting, Nat.add_le_add_iff_right, record_nesting_le_iff]

section OfEntries

variable {fields : List (String × Value)} {key : String}

theorem insert_new (value : Value) (fresh : key ∉ fields.map Prod.fst) :
    insert (.str key) value (fields.map entryOf) = (fields ++ [(key, value)]).map entryOf := by
  induction fields with
  | nil => rfl
  | cons field rest induction =>
      obtain ⟨different, absent⟩ := not_or.1 (mt List.mem_cons.2 fresh)
      have other : sameKey (.str field.1) (.str key) = false := by
        simpa [sameKey] using Ne.symm different
      rw [List.map_cons, entryOf, insert, other, if_neg (by simp), induction absent]
      rfl

theorem of_entries_record (distinct : (fields.map Prod.fst).Nodup) :
    ofEntries (fields.map entryOf) = record fields := by
  have made : ∀ before, ((before ++ fields).map Prod.fst).Nodup →
      (fields.map entryOf).foldl (fun made entry => insert entry.1 entry.2 made)
        (before.map entryOf) = (before ++ fields).map entryOf := by
    clear distinct
    induction fields with
    | nil => simp
    | cons field rest induction =>
        intro before distinct
        have fresh : field.1 ∉ before.map Prod.fst := by
          rw [List.map_append, List.map_cons, List.nodup_append] at distinct
          intro member
          exact distinct.2.2 field.1 member field.1 List.mem_cons_self rfl
        rw [List.map_cons, List.foldl_cons, entryOf, insert_new field.2 fresh]
        have later := induction (before ++ [field]) (by simpa using distinct)
        rwa [List.append_assoc] at later
  exact congrArg Value.dict (made [] distinct)

end OfEntries

end Value

namespace Json

open Value Outcome

section Write

variable (depth : Nat)

theorem write_null : write depth .null = "null".toList := rfl

theorem write_bool (truth : Bool) : write depth (.bool truth) = writeBool truth := rfl

theorem write_int (number : Int) : write depth (.int number) = writeInt number := rfl

theorem write_str (text : String) : write depth (.str text) = writeText text := rfl

theorem write_empty_list : write depth (.list []) = "[]".toList := rfl

theorem write_list (item : Value) (rest : List Value) : write depth (.list (item :: rest)) =
    '[' :: newLine (depth + 1) ++ write (depth + 1) item ++ writeItems (depth + 1) rest
      ++ newLine depth ++ [']'] := rfl

theorem write_items_nil : writeItems depth [] = [] := rfl

theorem write_items_cons (item : Value) (rest : List Value) : writeItems depth (item :: rest) =
    ',' :: newLine depth ++ write depth item ++ writeItems depth rest := rfl

theorem write_empty_record : write depth (.record []) = ['\x7b', '\x7d'] := rfl

theorem write_record (field : String × Value) (rest : List (String × Value)) :
    write depth (.record (field :: rest)) =
      '\x7b' :: newLine (depth + 1) ++ writeText field.1 ++ ':' :: ' ' ::
        write (depth + 1) field.2 ++ writeEntries (depth + 1) (rest.map entryOf)
        ++ newLine depth ++ ['\x7d'] := rfl

theorem write_entries_nil : writeEntries depth [] = [] := rfl

theorem write_entries_cons (field : String × Value) (rest : List (String × Value)) :
    writeEntries depth ((field :: rest).map entryOf) =
      ',' :: newLine depth ++ writeText field.1 ++ ':' :: ' ' :: write depth field.2
        ++ writeEntries depth (rest.map entryOf) := rfl

end Write

section Space

variable {first : Char} {others : List Char}

theorem skip_nothing (solid : isSpace first = false) :
    skipSpace (first :: others) = first :: others :=
  List.dropWhile_cons_of_neg (by simpa using solid)

theorem skip_line (depth : Nat) (solid : isSpace first = false) :
    skipSpace (newLine depth ++ first :: others) = first :: others := by
  refine Text.drop_while_run ?_ (Text.ends_cons_iff.2 solid)
  refine List.forall_mem_cons.2 ⟨rfl, fun blank member => ?_⟩
  rw [List.eq_of_mem_replicate member]
  rfl

theorem follows_line (depth : Nat) (rest : List Char) : Follows (newLine depth ++ rest) := by
  intro character head
  exact Or.inr (Option.some.inj head).symm

theorem follows_comma (rest : List Char) : Follows (',' :: rest) := by
  intro character head
  exact Or.inl (Option.some.inj head).symm

end Space

section Head

theorem write_head {value : Value} (documented : value.Documented) (depth : Nat) :
    ∃ first others, write depth value = first :: others ∧ isSpace first = false ∧ first ≠ ']' ∧
      first ≠ '\uFEFF' := by
  cases documented with
  | null => exact ⟨'n', _, rfl, by decide⟩
  | bool truth =>
      cases truth with
      | true => exact ⟨'t', _, rfl, by decide⟩
      | false => exact ⟨'f', _, rfl, by decide⟩
  | int number =>
      obtain ⟨first, others, shape, kind⟩ := write_int_head number
      refine ⟨first, others, by rw [write_int, shape], ?_⟩
      rcases kind with rfl | digit
      · decide
      · refine ⟨?_, ?_, ?_⟩
        · simp only [isSpace, Bool.or_eq_false_iff, decide_eq_false_iff_not]
          refine ⟨⟨⟨?_, ?_⟩, ?_⟩, ?_⟩
          all_goals
            rintro rfl
            cases digit
        · rintro rfl
          cases digit
        · rintro rfl
          cases digit
  | str text => exact ⟨'"', _, rfl, by decide⟩
  | @list items each =>
      cases items with
      | nil => exact ⟨'[', _, rfl, by decide⟩
      | cons item rest => exact ⟨'[', _, rfl, by decide⟩
  | @record fields each distinct =>
      cases fields with
      | nil => exact ⟨'\x7b', _, rfl, by decide⟩
      | cons field rest => exact ⟨'\x7b', _, rfl, by decide⟩

end Head

/-- Whatever stands behind the value, what is written for it reads back where there is room. -/
def ReadsBack (value : Value) : Prop :=
  ∀ depth rest levels bound, value.nesting ≤ levels → Follows rest →
    (write depth value).length ≤ bound →
      readValue levels bound (write depth value ++ rest) = .ok (value, rest)

section Open

variable {text after others : List Char} {first : Char}

theorem read_scalar_value (levels bound : Nat) (text : List Char) (quoteless : first ≠ '"')
    (noList : first ≠ '[') (noRecord : first ≠ '\x7b') :
    readValue levels (bound + 1) (first :: text) = readScalar (first :: text) := by
  rw [readValue]
  · exact fun rest same => quoteless (List.cons.inj same).1
  · exact fun rest same => noList (List.cons.inj same).1
  · exact fun rest same => noRecord (List.cons.inj same).1

theorem read_open_list (levels bound : Nat) (skipped : skipSpace text = first :: others)
    (filled : first ≠ ']') :
    readValue (levels + 1) (bound + 1) ('[' :: text) =
      readItems levels bound [] (first :: others) := by
  rw [readValue, skipped]
  split
  next same => exact absurd (List.cons.inj same).1 filled
  · rfl

theorem read_open_record (levels bound : Nat) (skipped : skipSpace text = '"' :: others) :
    readValue (levels + 1) (bound + 1) ('\x7b' :: text) =
      readEntries levels bound [] ('"' :: others) := by
  rw [readValue, skipped]
  rfl

end Open

section Scalars

theorem null_reads_back : ReadsBack .null := by
  intro depth rest levels bound fits follows enough
  cases bound with
  | zero => cases enough
  | succ bound =>
      exact (read_scalar_value levels bound _ (by decide) (by decide) (by decide)).trans
        (read_scalar_null rest)

theorem bool_reads_back (truth : Bool) : ReadsBack (.bool truth) := by
  intro depth rest levels bound fits follows enough
  cases bound with
  | zero => cases truth <;> cases enough
  | succ bound =>
      have read := read_scalar_bool truth rest
      cases truth with
      | true =>
          exact (read_scalar_value levels bound _ (by decide) (by decide) (by decide)).trans read
      | false =>
          exact (read_scalar_value levels bound _ (by decide) (by decide) (by decide)).trans read

theorem int_reads_back {number : Int} (short : hasShortText number = true) :
    ReadsBack (.int number) := by
  intro depth rest levels bound fits follows enough
  have read := read_scalar_int short follows
  obtain ⟨first, others, shape, kind⟩ := write_int_head number
  rw [write_int, shape] at enough ⊢
  rw [shape] at read
  cases bound with
  | zero => cases enough
  | succ bound =>
      rw [List.cons_append] at read ⊢
      rw [read_scalar_value levels bound _ ?_ ?_ ?_, read]
      all_goals
        rintro rfl
        rcases kind with sign | digit
        · exact absurd sign (by decide)
        · cases digit

theorem str_reads_back (text : String) : ReadsBack (.str text) := by
  intro depth rest levels bound fits follows enough
  rw [write_str] at enough ⊢
  cases bound with
  | zero => cases enough
  | succ bound =>
      have read := read_text_written text (writeText text ++ rest) rest enough
      rw [writeText, List.cons_append, List.cons_append] at read ⊢
      rw [readValue, read]
      rfl

end Scalars

section Items

variable {item : Value} {items : List Value}

theorem items_follow (items : List Value) (depth : Nat) (rest : List Char) :
    Follows (writeItems (depth + 1) items ++ (newLine depth ++ ']' :: rest)) := by
  cases items with
  | nil => exact follows_line depth (']' :: rest)
  | cons item others => exact follows_comma _

theorem read_items_written (documented : ∀ other ∈ item :: items, other.Documented)
    (each : ∀ other ∈ item :: items, ReadsBack other) (depth : Nat) (read : List Value)
    (rest : List Char) {levels bound : Nat} (fits : itemsNesting (item :: items) ≤ levels)
    (enough : (write (depth + 1) item ++ writeItems (depth + 1) items).length < bound) :
    readItems levels bound read (write (depth + 1) item ++
        (writeItems (depth + 1) items ++ (newLine depth ++ ']' :: rest))) =
      .ok (.list (read.reverse ++ item :: items), rest) := by
  have shallow := items_nesting_le_iff.1 fits
  induction items generalizing item read bound with
  | nil =>
      cases bound with
      | zero => cases enough
      | succ bound =>
          rw [List.length_append] at enough
          have here := each item List.mem_cons_self (depth + 1) _ levels bound
            (shallow item List.mem_cons_self) (items_follow [] depth rest) (by omega)
          rw [readItems, here]
          simp only [bind, Except.bind, write_items_nil, List.nil_append,
            skip_line depth (rfl : isSpace ']' = false), pure, Except.pure, List.reverse_cons]
  | cons next others induction =>
      cases bound with
      | zero => cases enough
      | succ bound =>
          obtain ⟨first, written, shape, solid, -⟩ :=
            write_head (documented next (by simp)) (depth + 1)
          simp only [write_items_cons, List.length_append, List.length_cons] at enough
          have here := each item List.mem_cons_self (depth + 1) _ levels bound
            (shallow item List.mem_cons_self) (items_follow (next :: others) depth rest) (by omega)
          have room : (write (depth + 1) next ++ writeItems (depth + 1) others).length < bound := by
            rw [List.length_append]
            omega
          have later := induction
            (fun other member => documented other (List.mem_cons_of_mem _ member))
            (fun other member => each other (List.mem_cons_of_mem _ member)) (item :: read)
            (Nat.le_trans (Nat.le_max_right _ _) fits) room
            fun other member => shallow other (List.mem_cons_of_mem _ member)
          rw [readItems, here]
          simp only [bind, Except.bind, write_items_cons, List.cons_append, List.append_assoc,
            skip_nothing (rfl : isSpace ',' = false)]
          rw [shape, List.cons_append] at later ⊢
          rw [skip_line _ solid, later, List.reverse_cons, List.append_assoc,
            List.singleton_append]

theorem list_reads_back (documented : ∀ item ∈ items, item.Documented)
    (each : ∀ item ∈ items, ReadsBack item) : ReadsBack (.list items) := by
  intro depth rest levels bound fits follows enough
  obtain ⟨levels, rfl⟩ := Nat.exists_eq_add_one.2 (Nat.lt_of_lt_of_le (Nat.succ_pos _) fits)
  have inside : itemsNesting items ≤ levels := Nat.le_of_succ_le_succ fits
  cases bound with
  | zero => cases items <;> cases enough
  | succ bound =>
      cases items with
      | nil => rfl
      | cons item others =>
          obtain ⟨first, written, shape, solid, inner, -⟩ :=
            write_head (documented item (by simp)) (depth + 1)
          rw [write_list] at enough ⊢
          simp only [List.length_cons, List.length_append] at enough
          have room : (write (depth + 1) item ++ writeItems (depth + 1) others).length < bound := by
            rw [List.length_append]
            omega
          have read := read_items_written documented each depth [] rest inside room
          have skipped : skipSpace (newLine (depth + 1) ++ (write (depth + 1) item ++
              (writeItems (depth + 1) others ++ (newLine depth ++ ']' :: rest)))) =
                first :: (written ++
                  (writeItems (depth + 1) others ++ (newLine depth ++ ']' :: rest))) := by
            rw [shape, List.cons_append, skip_line _ solid]
          simp only [List.cons_append, List.append_assoc, List.nil_append]
          rw [read_open_list levels bound skipped inner]
          rw [shape, List.cons_append] at read
          exact read

end Items

section Entries

variable {field : String × Value} {fields : List (String × Value)}

theorem entries_follow (fields : List (String × Value)) (depth : Nat) (rest : List Char) :
    Follows
      (writeEntries (depth + 1) (fields.map entryOf) ++ (newLine depth ++ '\x7d' :: rest)) := by
  cases fields with
  | nil => exact follows_line depth ('\x7d' :: rest)
  | cons field others => exact follows_comma _

theorem read_entry_written (documented : field.2.Documented) (reads : ReadsBack field.2)
    (depth : Nat) (read : List (Value × Value)) {after : List Char} (follows : Follows after)
    {levels bound : Nat} (fits : field.2.nesting ≤ levels)
    (enough : (writeText field.1).length + (write depth field.2).length ≤ bound) :
    readEntries levels (bound + 1) read
        (writeText field.1 ++ ':' :: ' ' :: (write depth field.2 ++ after)) =
      match skipSpace after with
      | '\x7d' :: rest => .ok (ofEntries (entryOf field :: read).reverse, rest)
      | ',' :: rest => readEntries levels bound (entryOf field :: read) (skipSpace rest)
      | rest => stop "Expecting ',' delimiter" rest := by
  obtain ⟨first, written, shape, solid, -⟩ := write_head documented depth
  have key := read_text_written field.1
    (writeText field.1 ++ ':' :: ' ' :: (write depth field.2 ++ after))
    (':' :: ' ' :: (write depth field.2 ++ after))
    (Nat.le_succ_of_le (Nat.le_of_add_right_le enough))
  have value := reads depth after levels bound fits follows (Nat.le_of_add_left_le enough)
  have spaced :
      skipSpace (' ' :: (write depth field.2 ++ after)) = write depth field.2 ++ after := by
    rw [shape, List.cons_append]
    exact skip_nothing solid
  rw [writeText, List.cons_append, List.cons_append] at key ⊢
  rw [readEntries, key]
  simp only [bind, Except.bind, skip_nothing (rfl : isSpace ':' = false), spaced, value]
  rfl

theorem read_entries_written (documented : ∀ other ∈ field :: fields, other.2.Documented)
    (each : ∀ other ∈ field :: fields, ReadsBack other.2) (depth : Nat)
    (before : List (String × Value)) (rest : List Char) {levels bound : Nat}
    (fits : ∀ other ∈ field :: fields, other.2.nesting ≤ levels)
    (enough : (writeText field.1).length + (write (depth + 1) field.2).length +
      (writeEntries (depth + 1) (fields.map entryOf)).length < bound) :
    readEntries levels bound (before.map entryOf).reverse
        (writeText field.1 ++ ':' :: ' ' :: (write (depth + 1) field.2 ++
          (writeEntries (depth + 1) (fields.map entryOf) ++ (newLine depth ++ '\x7d' :: rest)))) =
      .ok (ofEntries ((before ++ field :: fields).map entryOf), rest) := by
  induction fields generalizing field before bound with
  | nil =>
      cases bound with
      | zero => cases enough
      | succ bound =>
          rw [read_entry_written (documented field (by simp)) (each field (by simp)) (depth + 1) _
            (entries_follow [] depth rest) (fits field (by simp)) (by omega)]
          simp only [List.map_nil, write_entries_nil, List.nil_append,
            skip_line depth (rfl : isSpace '\x7d' = false)]
          simp
  | cons next others induction =>
      cases bound with
      | zero => cases enough
      | succ bound =>
          simp only [write_entries_cons, List.length_append, List.length_cons] at enough
          have room : (writeText next.1).length + (write (depth + 1) next.2).length +
              (writeEntries (depth + 1) (others.map entryOf)).length < bound := by
            omega
          have later := induction
            (fun other member => documented other (List.mem_cons_of_mem _ member))
            (fun other member => each other (List.mem_cons_of_mem _ member)) (before ++ [field])
            (fun other member => fits other (List.mem_cons_of_mem _ member)) room
          rw [read_entry_written (documented field (by simp)) (each field (by simp)) (depth + 1) _
            (entries_follow (next :: others) depth rest) (fits field (by simp)) (by omega)]
          simp only [write_entries_cons, List.cons_append, List.append_assoc,
            skip_nothing (rfl : isSpace ',' = false)]
          have skipped (text : List Char) : skipSpace (newLine (depth + 1) ++
              (writeText next.1 ++ text)) = writeText next.1 ++ text :=
            skip_line (depth + 1) (rfl : isSpace '"' = false)
          rw [skipped]
          simpa [entryOf] using later

theorem record_reads_back (documented : ∀ field ∈ fields, field.2.Documented)
    (each : ∀ field ∈ fields, ReadsBack field.2) (distinct : (fields.map Prod.fst).Nodup) :
    ReadsBack (.record fields) := by
  intro depth rest levels bound fits follows enough
  obtain ⟨levels, rfl⟩ := Nat.exists_eq_add_one.2 (Nat.lt_of_lt_of_le (Nat.succ_pos _) fits)
  have inside := record_nesting_le_iff.1 (Nat.le_of_succ_le_succ fits)
  cases bound with
  | zero => cases fields <;> cases enough
  | succ bound =>
      cases fields with
      | nil => rfl
      | cons field others =>
          rw [write_record] at enough ⊢
          simp only [List.length_cons, List.length_append] at enough
          have room : (writeText field.1).length + (write (depth + 1) field.2).length +
              (writeEntries (depth + 1) (others.map entryOf)).length < bound := by
            omega
          have read := read_entries_written documented each depth [] rest inside room
          rw [List.nil_append, of_entries_record distinct] at read
          have skipped (text : List Char) : skipSpace (newLine (depth + 1) ++
              (writeText field.1 ++ text)) =
                '"' :: (field.1.toList.flatMap escape ++ ['"'] ++ text) :=
            skip_line (depth + 1) (rfl : isSpace '"' = false)
          simp only [List.cons_append, List.append_assoc, List.nil_append]
          rw [read_open_record levels bound (skipped _)]
          exact read

end Entries

/-- By induction on the value: what is written for it reads back. -/
theorem reads_back {value : Value} (documented : value.Documented)
    (writable : value.isWritable = true) : ReadsBack value := by
  induction documented with
  | null => exact null_reads_back
  | bool truth => exact bool_reads_back truth
  | int number => exact int_reads_back writable
  | str text => exact str_reads_back text
  | list each induction =>
      refine list_reads_back each fun item member => induction item member ?_
      exact items_writable_iff.1 writable item member
  | record each distinct induction =>
      refine record_reads_back each (fun field member => induction field member ?_) distinct
      exact record_writable_iff.1 writable field member

section Printed

variable {value : Value} {items : List Value} {fields : List (String × Value)}

theorem new_line_printed (depth : Nat) : ∀ character ∈ newLine depth, Printed character := by
  refine List.forall_mem_cons.2 ⟨by decide, fun blank member => ?_⟩
  rw [List.eq_of_mem_replicate member]
  decide

theorem write_int_printed (number : Int) : ∀ character ∈ writeInt number, Printed character := by
  rw [write_int_eq]
  refine List.forall_mem_append.2 ⟨?_, fun digit member => ?_⟩
  · split <;> exact printed_of_all (by decide)
  · have given := digits_are_digits number.natAbs digit member
    obtain ⟨large, small⟩ := Char.isDigit_iff_toNat.1 given
    exact Or.inr ⟨Nat.le_trans (by decide) large, Nat.lt_of_le_of_lt small (by decide)⟩

theorem write_items_printed (depth : Nat)
    (each : ∀ item ∈ items, ∀ character ∈ write depth item, Printed character) :
    ∀ character ∈ writeItems depth items, Printed character := by
  induction items with
  | nil => simp [write_items_nil]
  | cons item rest induction =>
      obtain ⟨here, later⟩ := List.forall_mem_cons.1 each
      rw [write_items_cons]
      exact List.forall_mem_append.2 ⟨List.forall_mem_append.2
        ⟨List.forall_mem_cons.2 ⟨by decide, new_line_printed depth⟩, here⟩, induction later⟩

theorem entry_printed (depth : Nat) (opens : Char) (opening : Printed opens) (key : String)
    {written : List Char} (value : ∀ character ∈ written, Printed character) :
    ∀ character ∈ opens :: newLine depth ++ writeText key ++ ':' :: ' ' :: written,
      Printed character := by
  refine List.forall_mem_append.2 ⟨List.forall_mem_append.2 ⟨?_, write_text_printed key⟩, ?_⟩
  · exact List.forall_mem_cons.2 ⟨opening, new_line_printed depth⟩
  · exact List.forall_mem_cons.2 ⟨by decide, List.forall_mem_cons.2 ⟨by decide, value⟩⟩

theorem write_entries_printed (depth : Nat)
    (each : ∀ field ∈ fields, ∀ character ∈ write depth field.2, Printed character) :
    ∀ character ∈ writeEntries depth (fields.map entryOf), Printed character := by
  induction fields with
  | nil => simp [write_entries_nil]
  | cons field rest induction =>
      obtain ⟨here, later⟩ := List.forall_mem_cons.1 each
      rw [write_entries_cons]
      exact List.forall_mem_append.2
        ⟨entry_printed depth ',' (by decide) field.1 here, induction later⟩

theorem closing_printed (depth : Nat) {closes : Char} (closing : Printed closes) :
    ∀ character ∈ newLine depth ++ [closes], Printed character :=
  List.forall_mem_append.2 ⟨new_line_printed depth, List.forall_mem_singleton.2 closing⟩

theorem write_printed (documented : value.Documented) :
    ∀ depth, ∀ character ∈ write depth value, Printed character := by
  induction documented with
  | null =>
      intro depth
      rw [write_null]
      exact printed_of_all (by decide)
  | bool truth =>
      intro depth
      rw [write_bool]
      cases truth <;> exact printed_of_all (by decide)
  | int number => exact fun _ => write_int_printed number
  | str text => exact fun _ => write_text_printed text
  | @list items each induction =>
      intro depth
      cases items with
      | nil =>
          rw [write_empty_list]
          exact printed_of_all (by decide)
      | cons item rest =>
          obtain ⟨here, later⟩ := List.forall_mem_cons.1 fun item member =>
            induction item member (depth + 1)
          rw [write_list, List.append_assoc]
          refine List.forall_mem_append.2 ⟨List.forall_mem_append.2
            ⟨List.forall_mem_append.2 ⟨?_, here⟩, write_items_printed (depth + 1) later⟩,
              closing_printed depth (by decide)⟩
          exact List.forall_mem_cons.2 ⟨by decide, new_line_printed (depth + 1)⟩
  | @record fields each distinct induction =>
      intro depth
      cases fields with
      | nil =>
          rw [write_empty_record]
          exact printed_of_all (by decide)
      | cons field rest =>
          obtain ⟨here, later⟩ := List.forall_mem_cons.1 fun field member =>
            induction field member (depth + 1)
          rw [write_record, List.append_assoc]
          exact List.forall_mem_append.2 ⟨List.forall_mem_append.2
            ⟨entry_printed (depth + 1) '\x7b' (by decide) field.1 here,
              write_entries_printed (depth + 1) later⟩, closing_printed depth (by decide)⟩

end Printed

section Document

variable {value : Value} {text : String}

theorem read_document_written (documented : value.Documented)
    (writable : value.isWritable = true) {levels : Nat} (fits : value.nesting ≤ levels) :
    readDocument levels (write 0 value) = .ok value := by
  obtain ⟨first, others, shape, solid, -, mark⟩ := write_head documented 0
  have read := reads_back documented writable 0 [] levels (2 * (write 0 value).length + 2)
    fits (by simp [Follows]) (by omega)
  rw [List.append_nil] at read
  have skipped : skipSpace (write 0 value) = write 0 value := by
    rw [shape, skip_nothing solid]
  unfold readDocument
  split
  next rest same =>
    rw [shape] at same
    exact absurd (List.cons.inj same).1 mark
  · rw [skipped, read]
    rfl

theorem render_ok_iff : render value = .ok text ↔
    value.isWritable = true ∧ text = String.ofList (write 0 value) := by
  unfold render demandWritable
  by_cases writable : value.isWritable = true
  · simp [writable, bind, Except.bind, pure, Except.pure, eq_comm]
  · simp [writable, bind, Except.bind]

theorem render_error_iff {fault : Fault} : render value = .error fault ↔
    value.isWritable = false ∧ fault = .numberTooLong := by
  unfold render demandWritable
  by_cases writable : value.isWritable = true
  · simp [writable, bind, Except.bind, pure, Except.pure]
  · simp [writable, bind, Except.bind, eq_comm]

theorem render_within_iff {room : Room} : renderWithin room value = .ok text ↔
    render value = .ok text ∧ value.nesting ≤ room.levels := by
  rw [render_ok_iff, renderWithin, bind_ok_iff]
  simp only [Unique.exists_iff, PUnit.default_eq_unit, demand_within_iff, pure_ok_iff]
  tauto

theorem rendered_printed (documented : value.Documented) (rendered : render value = .ok text) :
    ∀ character ∈ text.toList, Printed character := by
  obtain ⟨-, rfl⟩ := render_ok_iff.1 rendered
  rw [String.toList_ofList]
  exact write_printed documented 0

/-- A document that could be written is all ASCII, and it reads back as what it was written for
where there is room for reading it. -/
theorem read_rendered (documented : value.Documented) (rendered : render value = .ok text) :
    (∀ character ∈ text.toList, Ascii character) ∧
      ∀ room : Room, value.nesting ≤ room.levels → read room text = .ok value := by
  refine ⟨fun character member => (rendered_printed documented rendered character member).ascii,
    fun room fits => ?_⟩
  obtain ⟨writable, rfl⟩ := render_ok_iff.1 rendered
  rw [Json.read, String.toList_ofList, read_document_written documented writable fits]

end Document

end Json

end ImportImpact
