import ImportImpact.Proofs.Json.RoundTrip
import ImportImpact.Proofs.Yaml.Block
import ImportImpact.Proofs.Yaml.Written
import ImportImpact.Yaml.Reader

/-!
Writing a mapping as a document and reading it back. What was written under a key reads back as the
value, whatever lines follow, as long as these begin before the columns that belong to the key. So
lists are read item by item and mappings entry by entry, by induction on what was written. The bound
of the reader is never reached, because every step has a character of its own.
-/

namespace ImportImpact.Yaml

open Json (Printed)

/-- The lines that follow do not begin with another item of a list in this column. -/
def NoItem (column : Nat) (rest : List Char) : Prop :=
  (Place.of 0 rest).next.column = column → (Place.of 0 rest).next.atDash = false

section Lines

variable {column : Nat} {rest : List Char}

theorem join_one (column : Nat) (line : List Char) : joinLines column [line] = line := by
  simp [joinLines]

theorem join_more (column : Nat) (line : List Char) {lines : List (List Char)}
    (filled : lines ≠ []) : joinLines column (line :: lines) =
      line ++ '\n' :: (List.replicate column ' ' ++ joinLines column lines) := by
  obtain ⟨next, others, rfl⟩ := List.exists_cons_of_ne_nil filled
  simp [joinLines, newLine, List.intercalate]

theorem printed_of_visible {character : Char} (visible : isVisible character = true) :
    Printed character := by
  obtain ⟨low, high⟩ := visible_iff.1 visible
  exact Or.inr ⟨low, Nat.lt_succ_of_le high⟩

theorem below_printed (indent : Nat) {text : List Char}
    (printed : ∀ character ∈ text, Printed character) :
    ∀ character ∈ '\n' :: (List.replicate indent ' ' ++ text), Printed character := by
  refine List.forall_mem_cons.2 ⟨Or.inl rfl, List.forall_mem_append.2
    ⟨fun blank member => ?_, printed⟩⟩
  rw [List.eq_of_mem_replicate member]
  decide

theorem joined_printed {lines : List (List Char)}
    (each : ∀ line ∈ lines, ∀ character ∈ line, Printed character) :
    ∀ character ∈ joinLines column lines, Printed character := by
  induction lines with
  | nil => simp [joinLines]
  | cons line more induction =>
      obtain ⟨here, later⟩ := List.forall_mem_cons.1 each
      by_cases last : more = []
      · rw [last, join_one]
        exact here
      · rw [join_more column line last]
        refine List.forall_mem_append.2 ⟨here, List.forall_mem_cons.2 ⟨Or.inl rfl,
          List.forall_mem_append.2 ⟨fun blank member => ?_, induction later⟩⟩⟩
        rw [List.eq_of_mem_replicate member]
        exact printed_of_visible (by decide)

/-- Where a line begins before the column, neither an item nor a key of the column stands. -/
theorem outdented_next (outdented : Outdented column rest) :
    (Place.of 0 rest).next.column = column → (Place.of 0 rest).next.ended = true := by
  cases outdented with
  | ended => exact fun _ => rfl
  | @line indent text outside begins =>
      rw [next_line indent begins]
      exact fun same => absurd same (Nat.ne_of_lt outside)

theorem Outdented.noItem (outdented : Outdented column rest) : NoItem column rest := by
  intro same
  rw [Place.atDash, outdented_next outdented same]
  rfl

end Lines

section Items

variable {column : Nat} {written rest : List Char} {scalar : Scalar}

theorem dash_begins (text : List Char) : Place.Begins ('-' :: text) :=
  ⟨'-', rfl, by decide, by decide, by decide⟩

theorem at_dash (positive : 0 < column) (text : List Char) :
    (Place.of column ('-' :: ' ' :: text)).atDash = true := by
  have there := Place.not_ended (dash_begins (' ' :: text)) positive
  rw [Place.atDash, there, Place.of_cons (by decide)]
  rfl

theorem read_items_written (line : OneLine written scalar) (outdented : Outdented (column + 1) rest)
    (bound : Nat) : readItems? (bound + 2) column
      (Place.of column ('-' :: ' ' :: (written ++ '\n' :: rest))) =
        readMoreItems? (bound + 1) column (.scalar scalar) (Place.of 0 rest).next := by
  have begins := line.begins ('\n' :: rest)
  have start : ((Place.of column ('-' :: ' ' :: (written ++ '\n' :: rest))).skip 1).next =
      Place.of (column + 2) (written ++ '\n' :: rest) := by
    rw [Place.skip_one (by decide), Place.next_space, Place.next_begins begins]
  have there := Place.not_ended begins (Nat.succ_pos (column + 1))
  have belongs : (Place.of (column + 2) (written ++ '\n' :: rest)).belongsTo column = true := by
    simp [Place.belongsTo, Place.of]
  obtain ⟨after, read, next⟩ := line.node outdented bound (column + 2) true
  simp only [read_items_eq, readItem?, start, there, belongs, Bool.not_true, Bool.or_self,
    Bool.false_eq_true, if_false, read, Option.bind_some, next]

theorem write_after_sign_scalar {value : Value} {scalar : Scalar}
    (line : OneLine (writeScalar ⟨column + step, true, column + step⟩ false value) scalar) :
    writeAfterSign column value =
      ' ' :: writeScalar ⟨column + step, true, column + step⟩ false value := by
  obtain ⟨first, more, shape, -⟩ := line.first
  cases value with
  | list => cases shape
  | dict => cases shape
  | _ => simp only [writeAfterSign]

theorem read_more_items_last {bound : Nat} {item : Node} {next : Place}
    (apart : next.column = column → next.atDash = false) :
    readMoreItems? bound column item next = some ([item], next) := by
  unfold readMoreItems?
  by_cases same : next.column = column
  · rw [apart same, Bool.and_false, if_neg (by decide)]
  · rw [decide_eq_false same, Bool.false_and, if_neg (by decide)]

theorem read_more_items_more {bound : Nat} {item : Node} {items : List Node} {next after : Place}
    (same : next.column = column) (dash : next.atDash = true)
    (read : readItems? bound column next = some (items, after)) :
    readMoreItems? bound column item next = some (item :: items, after) := by
  unfold readMoreItems?
  rw [decide_eq_true same, dash, Bool.and_self, if_pos rfl, read]
  rfl

theorem items_begin {items : List Value} (filled : items ≠ [])
    (each : ∀ item ∈ items, StandsAs ⟨column + step, true, column + step⟩ item) :
    ∃ text, joinLines column (writeItems column items) = '-' :: ' ' :: text := by
  obtain ⟨item, more, rfl⟩ := List.exists_cons_of_ne_nil filled
  obtain ⟨scalar, line, -⟩ := each item List.mem_cons_self
  rw [writeItems, write_after_sign_scalar line]
  cases more with
  | nil => exact ⟨_, join_one column _⟩
  | cons next others =>
      rw [join_more column _ (by simp [writeItems])]
      exact ⟨_, rfl⟩

/-- The items of a list come back, and then what follows the list. -/
theorem items_read_back {items : List Value} (positive : 0 < column) (filled : items ≠ [])
    (each : ∀ item ∈ items, StandsAs ⟨column + step, true, column + step⟩ item)
    (outdented : Outdented (column + 1) rest) (noItem : NoItem column rest) {bound : Nat}
    (enough : (joinLines column (writeItems column items)).length ≤ bound) :
    ∃ nodes, ReadUpTo (readItems? bound column
        (Place.of column (joinLines column (writeItems column items) ++ '\n' :: rest))) nodes rest ∧
      Node.itemValues nodes = .ok items := by
  induction items generalizing bound with
  | nil => exact absurd rfl filled
  | cons item more induction =>
      obtain ⟨⟨scalar, line, value⟩, later⟩ := List.forall_mem_cons.1 each
      rw [writeItems, write_after_sign_scalar line] at enough ⊢
      by_cases last : more = []
      · subst last
        rw [writeItems, join_one] at enough ⊢
        obtain ⟨bound, rfl⟩ := Nat.exists_eq_add_of_le' (Nat.le_trans (Nat.le_add_left 2 _) enough)
        refine ⟨[.scalar scalar], ⟨(Place.of 0 rest).next, ?_, Place.next_next _⟩, ?_⟩
        · rw [List.cons_append, List.cons_append, read_items_written line outdented]
          exact read_more_items_last noItem
        · simp only [Node.itemValues, Node.value, value]
          rfl
      · obtain ⟨text, begins⟩ := items_begin last later
        have lines : writeItems column more ≠ [] := by
          obtain ⟨next, others, rfl⟩ := List.exists_cons_of_ne_nil last
          simp [writeItems]
        have starts : Place.Begins (joinLines column (writeItems column more) ++ '\n' :: rest) := by
          rw [begins]
          exact dash_begins _
        rw [join_more column _ lines] at enough ⊢
        simp only [List.length_append, List.length_cons, List.length_replicate] at enough
        obtain ⟨bound, rfl⟩ := Nat.exists_eq_add_of_le' (show 2 ≤ bound by omega)
        obtain ⟨nodes, ⟨after, read, next⟩, values⟩ :=
          induction last later (show _ ≤ bound + 1 by omega)
        refine ⟨.scalar scalar :: nodes, ⟨after, ?_, next⟩, ?_⟩
        · simp only [List.cons_append, List.append_assoc]
          rw [read_items_written line (.line (Nat.lt_succ_self column) starts),
            next_line column starts]
          refine read_more_items_more rfl ?_ read
          rw [begins]
          exact at_dash positive _
        · simp only [Node.itemValues, Node.value, value, values]
          rfl

end Items

/-- What is written behind the colon of a key comes back, and then what follows. -/
structure KeptAfterKey (column after : Nat) (value : Value) : Prop where
  printed : ∀ character ∈ writeAfterKey column value after, Printed character
  read : ∀ {rest : List Char} {bound : Nat}, Outdented (column + 1) rest → NoItem column rest →
    (writeAfterKey column value after).length ≤ bound →
      ∃ node, ReadUpTo (readAfterKey? bound column
          (Place.of after (writeAfterKey column value after ++ '\n' :: rest))) node rest ∧
        node.value = .ok value

section AfterKey

variable {column after bound : Nat} {text : List Char}

theorem read_on_key_line (begins : Place.Begins text) :
    readAfterKey? bound column (Place.of after (' ' :: text)) =
      readNode? bound (column + 1) false (Place.of (after + 1) text) := by
  have start : (Place.of after (' ' :: text)).next = Place.of (after + 1) text := by
    rw [Place.next_space, Place.next_begins begins]
  have there := Place.not_ended begins (Nat.succ_pos after)
  have same : (Place.of (after + 1) text).sameLine (Place.of after (' ' :: text)) = true := by
    rw [Place.of_cons (by decide)]
    simp [Place.sameLine, Place.of]
  simp only [readAfterKey?, start, there, same, Bool.false_eq_true, if_false, if_true]

theorem start_below (after indent : Nat) (begins : Place.Begins text) :
    (Place.of after ('\n' :: (List.replicate indent ' ' ++ text))).next = Place.of indent text ∧
      (Place.of indent text).sameLine
        (Place.of after ('\n' :: (List.replicate indent ' ' ++ text))) = false := by
  refine ⟨(Place.next_line_end after _).trans (next_line indent begins), ?_⟩
  simp [Place.sameLine, Place.of, cut_lines_end, cut_lines_level (spaces_level indent)]

/-- A list under a key begins in the column of the key. -/
theorem read_list_below (positive : 0 < column) :
    readAfterKey? bound column (Place.of after
        ('\n' :: (List.replicate column ' ' ++ '-' :: ' ' :: text))) =
      (readItems? bound column (Place.of column ('-' :: ' ' :: text))).map fun read =>
        (.sequence read.1, read.2) := by
  obtain ⟨start, below⟩ := start_below after column (dash_begins (' ' :: text))
  have there := Place.not_ended (dash_begins (' ' :: text)) positive
  have dash := at_dash positive text
  have apart : (Place.of column ('-' :: ' ' :: text)).belongsTo column = false := by
    rw [Place.of_cons (by decide)]
    simp [Place.belongsTo, Place.atTextSign]
  have same : (Place.of column ('-' :: ' ' :: text)).column = column := rfl
  simp only [readAfterKey?, start, below, there, apart, dash, same, decide_true, Bool.and_self,
    Bool.false_eq_true, if_false, if_true]
  cases readItems? bound column (Place.of column ('-' :: ' ' :: text)) <;> rfl

/-- What stands further to the right than a key belongs to the key. -/
theorem read_node_below {indent : Nat} (inside : column < indent) (begins : Place.Begins text) :
    readAfterKey? bound column (Place.of after ('\n' :: (List.replicate indent ' ' ++ text))) =
      readNode? bound (column + 1) true (Place.of indent text) := by
  obtain ⟨start, below⟩ := start_below after indent begins
  have there := Place.not_ended begins (Nat.lt_of_le_of_lt (Nat.zero_le column) inside)
  have belongs : (Place.of indent text).belongsTo column = true := by
    simp [Place.belongsTo, Place.of, inside]
  simp only [readAfterKey?, start, below, there, belongs, Bool.false_eq_true, if_false, if_true]

theorem scalar_after_key {value : Value}
    (stands : StandsAs ⟨after + 1, true, column + step⟩ value) :
    KeptAfterKey column after value := by
  obtain ⟨scalar, line, means⟩ := stands
  have written : writeAfterKey column value after =
      ' ' :: writeScalar ⟨after + 1, true, column + step⟩ false value := by
    obtain ⟨first, more, shape, -⟩ := line.first
    cases value with
    | list => cases shape
    | dict => cases shape
    | _ => simp only [writeAfterKey]
  constructor
  · rw [written]
    exact List.forall_mem_cons.2 ⟨printed_of_visible (by decide),
      fun character member => printed_of_visible (line.visible character member)⟩
  · intro rest bound outdented _ enough
    rw [written] at enough ⊢
    obtain ⟨bound, rfl⟩ := Nat.exists_eq_add_of_le' (Nat.le_trans (Nat.le_add_left 1 _) enough)
    refine ⟨.scalar scalar, ?_, by rw [Node.value, means]⟩
    rw [List.cons_append, read_on_key_line (line.begins _)]
    exact line.node outdented bound (after + 1) false

theorem read_empty_list (bound least : Nat) (rest : List Char) : ReadUpTo
    (readNode? (bound + 3) least false (Place.of (column + 1) ('[' :: ']' :: '\n' :: rest)))
    (.sequence []) rest := by
  have opening : (Place.of (column + 1) ('[' :: ']' :: '\n' :: rest)).next =
      Place.of (column + 1) ('[' :: ']' :: '\n' :: rest) :=
    Place.next_begins ⟨'[', rfl, by decide, by decide, by decide⟩ _
  have closing : (Place.of (column + 2) (']' :: '\n' :: rest)).next =
      Place.of (column + 2) (']' :: '\n' :: rest) :=
    Place.next_begins ⟨']', rfl, by decide, by decide, by decide⟩ _
  have opens : (Place.of (column + 1) ('[' :: ']' :: '\n' :: rest)).sign = some '[' := rfl
  have closes : (Place.of (column + 2) (']' :: '\n' :: rest)).sign = some ']' := rfl
  have items : readFlowItems? (bound + 1) true (Place.of (column + 2) (']' :: '\n' :: rest)) =
      some ([], Place.of (column + 3) ('\n' :: rest)) := by
    rw [readFlowItems?]
    simp only [closing, closes, if_true]
    rfl
  have flow : readFlow? (bound + 2) (Place.of (column + 1) ('[' :: ']' :: '\n' :: rest)) =
      some (.sequence [], Place.of (column + 3) ('\n' :: rest)) := by
    rw [readFlow?]
    simp only [opening, opens]
    rw [Place.skip_one (by decide), items]
    rfl
  refine ⟨_, ?_, Place.next_line_end (column + 3) rest⟩
  rw [Place.of_cons (by decide)] at flow ⊢
  rw [readNode?]
  exact flow

theorem empty_list_after_key : KeptAfterKey column after (.list []) := by
  constructor
  · have small : ([' ', '[', ']'].all fun character => decide (Printed character)) = true := by
      decide
    exact Json.printed_of_all small
  · intro rest bound outdented _ enough
    obtain ⟨bound, rfl⟩ := Nat.exists_eq_add_of_le' (show 3 ≤ bound from enough)
    have begins : Place.Begins ('[' :: ']' :: '\n' :: rest) :=
      ⟨'[', rfl, by decide, by decide, by decide⟩
    exact ⟨.sequence [], (read_on_key_line begins).symm ▸ read_empty_list bound _ rest, rfl⟩

theorem items_printed {items : List Value}
    (each : ∀ item ∈ items, StandsAs ⟨column + step, true, column + step⟩ item) :
    ∀ line ∈ writeItems column items, ∀ character ∈ line, Printed character := by
  induction items with
  | nil => simp [writeItems]
  | cons item more induction =>
      obtain ⟨⟨scalar, line, -⟩, later⟩ := List.forall_mem_cons.1 each
      rw [writeItems, write_after_sign_scalar line]
      refine List.forall_mem_cons.2 ⟨?_, induction later⟩
      refine List.forall_mem_cons.2 ⟨by decide, List.forall_mem_cons.2 ⟨by decide, ?_⟩⟩
      exact fun character member => printed_of_visible (line.visible character member)

theorem list_after_key {items : List Value} (positive : 0 < column)
    (each : ∀ item ∈ items, StandsAs ⟨column + step, true, column + step⟩ item) :
    KeptAfterKey column after (.list items) := by
  by_cases empty : items = []
  · exact empty ▸ empty_list_after_key
  have written : writeAfterKey column (.list items) after =
      '\n' :: (List.replicate column ' ' ++ joinLines column (writeItems column items)) := by
    rw [writeAfterKey, if_neg (by simpa using empty)]
    rfl
  constructor
  · rw [written]
    exact below_printed column (joined_printed (items_printed each))
  · intro rest bound outdented noItem enough
    obtain ⟨text, begins⟩ := items_begin empty each
    rw [written] at enough ⊢
    simp only [List.length_cons, List.length_append] at enough
    obtain ⟨nodes, ⟨stop, read, next⟩, values⟩ :=
      items_read_back positive empty each outdented noItem (show _ ≤ bound by omega)
    refine ⟨.sequence nodes, ⟨stop, ?_, next⟩, ?_⟩
    · rw [begins] at read ⊢
      simp only [List.cons_append, List.append_assoc] at read ⊢
      rw [read_list_below positive, read]
      rfl
    · rw [Node.value, values]
      rfl

end AfterKey

def isNameLetter (character : Char) : Bool := character.isLower || character = '_'

/-- A name that stands as a key on its line. -/
structure IsKey (name : String) : Prop where
  letters : name.toList.all isNameLetter = true
  plain : plainText name.toList = true
  simple : isSimpleKey (.str name) = true

theorem is_key_iff {name : String} : IsKey name ↔
    name.toList.all isNameLetter = true ∧ plainText name.toList = true ∧
      isSimpleKey (.str name) = true :=
  ⟨fun key => ⟨key.letters, key.plain, key.simple⟩,
    fun ⟨letters, plain, simple⟩ => ⟨letters, plain, simple⟩⟩

instance : DecidablePred IsKey := fun _ => decidable_of_iff _ is_key_iff.symm

namespace IsKey

variable {name : String} {rest : List Char}

theorem solid (key : IsKey name) : ∀ character ∈ name.toList, Solid character := by
  have visible : name.toList.all isVisible = true := by
    have plain := key.plain
    simp only [plainText, Bool.and_eq_true] at plain
    exact plain.1.1.1.1.1.1
  refine fun character member => ⟨List.all_eq_true.1 visible character member, ?_⟩
  rintro rfl
  exact absurd (List.all_eq_true.1 key.letters ' ' member) (by decide)

theorem bare (key : IsKey name) : Bare name.toList := (bare_of_plain key.solid key.plain).1

theorem value (key : IsKey name) : Scalar.value ⟨true, name.toList⟩ = .ok (.str name) := by
  rw [value_of_text (bare_of_plain key.solid key.plain).2, String.ofList_toList]

theorem written (key : IsKey name) (frame : Frame) :
    writeScalar frame true (.str name) = name.toList := by
  rw [writeScalar, writeText, styleFor, if_pos key.plain]
  exact (folded_solid key.solid frame.column false).trans (standing_single _)

theorem short (key : IsKey name) : name.toList.length ≤ longestKey := by
  have simple := key.simple
  simp only [isSimpleKey, Bool.and_eq_true, decide_eq_true_eq] at simple
  unfold longestKey
  omega

theorem first (key : IsKey name) : ∃ first more, name.toList = first :: more ∧
    isNameLetter first = true := by
  obtain ⟨first, more, shape, -⟩ := key.bare.first
  exact ⟨first, more, shape, List.all_eq_true.1 key.letters first (by simp [shape])⟩

theorem begins (key : IsKey name) (rest : List Char) : Place.Begins (name.toList ++ rest) :=
  (OneLine.bare key.bare).begins rest

theorem no_mark (key : IsKey name) (column : Nat) (rest : List Char) :
    (Place.of column (name.toList ++ rest)).ended = false ∧
      (Place.of column (name.toList ++ rest)).atDash = false ∧
        opensDocument (Place.of column (name.toList ++ rest)).rest = false := by
  have level := level_of_solid key.solid
  obtain ⟨first, more, shape, letter⟩ := key.first
  have other : first ≠ '-' ∧ first ≠ '.' := by
    constructor <;> rintro rfl <;> exact absurd letter (by decide)
  rw [shape] at level ⊢
  rw [List.cons_append, Place.of_cons (level first List.mem_cons_self)]
  have opens : ∀ text, opensDocument (first :: text) = false := fun text => by
    simp [opensDocument, other]
  have closes : ∀ text, closesDocument (first :: text) = false := fun text => by
    simp [closesDocument, other]
  refine ⟨?_, ?_, opens _⟩
  · simp [Place.ended, isMarker, opens, closes]
  · simp [Place.atDash, other]

end IsKey

section Entries

variable {column : Nat} {rest : List Char} {name : String} {fields : List (String × Value)}

theorem free_after_key (column after : Nat) (value : Value) (rest : List Char) :
    apart (cutLines (writeAfterKey column value after ++ '\n' :: rest)).1 = true := by
  have begins : ∃ text, writeAfterKey column value after = ' ' :: text ∨
      writeAfterKey column value after = '\n' :: text := by
    fun_cases writeAfterKey column value after with
    | case1 | case3 | case5 => exact ⟨_, Or.inl rfl⟩
    | case2 | case4 => exact ⟨_, Or.inr rfl⟩
  obtain ⟨text, same | same⟩ := begins
  · rw [same]
    rfl
  · rw [same]
    rfl

theorem read_key_written (key : IsKey name) (column after : Nat) (value : Value)
    (rest : List Char) : readKey? false (Place.of column (name.toList ++
        ':' :: (writeAfterKey column value after ++ '\n' :: rest))) =
      some (⟨true, name.toList⟩, Place.of (column + name.toList.length + 1)
        (writeAfterKey column value after ++ '\n' :: rest)) :=
  read_key_bare key.bare key.short (free_after_key column after value rest) column

theorem write_entries_cons (key : IsKey name) (column : Nat) (value : Value)
    (fields : List (String × Value)) :
    writeEntries column (((name, value) :: fields).map Value.entryOf) =
      (name.toList ++
          ':' :: writeAfterKey column value (column + name.toList.length + 1)) ::
        writeEntries column (fields.map Value.entryOf) := by
  rw [List.map_cons, Value.entryOf, writeEntries, if_pos key.simple, simpleEntry, key.written]

theorem read_more_entries_last {bound : Nat} {entry : Scalar × Node} {next : Place}
    (ended : next.column = column → next.ended = true) :
    readMoreEntries? bound column entry next = some ([entry], next) := by
  unfold readMoreEntries?
  by_cases same : next.column = column
  · rw [ended same, Bool.not_true, Bool.and_false, if_neg (by decide)]
  · rw [decide_eq_false same, Bool.false_and, if_neg (by decide)]

theorem read_more_entries_more {bound : Nat} {entry : Scalar × Node}
    {entries : List (Scalar × Node)} {next after : Place} (same : next.column = column)
    (there : next.ended = false) (read : readEntries? bound column next = some (entries, after)) :
    readMoreEntries? bound column entry next = some (entry :: entries, after) := by
  unfold readMoreEntries?
  rw [decide_eq_true same, there, Bool.not_false, Bool.and_self, if_pos rfl, read]
  rfl

theorem entries_lines (filled : fields ≠ []) (column : Nat) :
    writeEntries column (fields.map Value.entryOf) ≠ [] := by
  obtain ⟨field, more, rfl⟩ := List.exists_cons_of_ne_nil filled
  simp [Value.entryOf, writeEntries]

theorem entries_begin (filled : fields ≠ []) (keys : ∀ field ∈ fields, IsKey field.1)
    (column : Nat) (rest : List Char) : ∃ name value text, IsKey name ∧
      joinLines column (writeEntries column (fields.map Value.entryOf)) ++ '\n' :: rest =
        name.toList ++ ':' :: (writeAfterKey column value (column + name.toList.length + 1) ++
          '\n' :: text) := by
  obtain ⟨⟨name, value⟩, more, rfl⟩ := List.exists_cons_of_ne_nil filled
  have key := keys (name, value) List.mem_cons_self
  rw [write_entries_cons key]
  by_cases last : more = []
  · rw [last, List.map_nil, writeEntries, join_one]
    exact ⟨name, value, rest, key, by simp⟩
  · rw [join_more column _ (entries_lines last column)]
    refine ⟨name, value, List.replicate column ' ' ++ (joinLines column
      (writeEntries column (more.map Value.entryOf)) ++ '\n' :: rest), key, ?_⟩
    simp only [List.append_assoc, List.cons_append]

theorem entries_place (filled : fields ≠ []) (keys : ∀ field ∈ fields, IsKey field.1)
    (column : Nat) (rest : List Char) : ∃ text,
      joinLines column (writeEntries column (fields.map Value.entryOf)) ++ '\n' :: rest = text ∧
        Place.Begins text ∧ (Place.of column text).ended = false ∧
          (Place.of column text).atDash = false := by
  obtain ⟨name, value, text, key, begins⟩ := entries_begin filled keys column rest
  obtain ⟨there, noDash, -⟩ := key.no_mark column (':' :: (writeAfterKey column value
    (column + name.toList.length + 1) ++ '\n' :: text))
  exact ⟨_, begins, key.begins _, there, noDash⟩

theorem read_entries_written {value : Value} (key : IsKey name)
    (kept : KeptAfterKey column (column + name.toList.length + 1) value)
    (outdented : Outdented (column + 1) rest) (noItem : NoItem column rest) {bound : Nat}
    (enough : (writeAfterKey column value (column + name.toList.length + 1)).length ≤ bound) :
    ∃ node, node.value = .ok value ∧ readEntries? (bound + 1) column
        (Place.of column (name.toList ++
          ':' :: (writeAfterKey column value (column + name.toList.length + 1) ++ '\n' :: rest))) =
      readMoreEntries? bound column (⟨true, name.toList⟩, node) (Place.of 0 rest).next := by
  obtain ⟨node, ⟨after, read, next⟩, means⟩ := kept.read outdented noItem enough
  refine ⟨node, means, ?_⟩
  rw [read_entries_eq, read_key_written key, Option.bind_some, read, Option.bind_some, next]

theorem entries_read_back (filled : fields ≠ [])
    (each : ∀ field ∈ fields, IsKey field.1 ∧
      KeptAfterKey column (column + field.1.toList.length + 1) field.2)
    (outdented : Outdented column rest) {bound : Nat}
    (enough : (joinLines column (writeEntries column (fields.map Value.entryOf))).length ≤ bound) :
    ∃ entries, ReadUpTo (readEntries? bound column (Place.of column
        (joinLines column (writeEntries column (fields.map Value.entryOf)) ++ '\n' :: rest)))
          entries rest ∧
      Node.entryValues entries = .ok (fields.map Value.entryOf) := by
  induction fields generalizing bound with
  | nil => exact absurd rfl filled
  | cons field more induction =>
      obtain ⟨name, value⟩ := field
      obtain ⟨here, later⟩ := List.forall_mem_cons.1 each
      obtain ⟨key, kept⟩ : IsKey name ∧
        KeptAfterKey column (column + name.toList.length + 1) value := here
      rw [write_entries_cons key] at enough ⊢
      by_cases last : more = []
      · subst last
        rw [List.map_nil, writeEntries, join_one] at enough ⊢
        simp only [List.length_append, List.length_cons] at enough
        obtain ⟨bound, rfl⟩ := Nat.exists_eq_add_of_le' (show 1 ≤ bound by omega)
        obtain ⟨node, means, read⟩ := read_entries_written key kept
          (outdented.weaken (Nat.le_succ column)) outdented.noItem (show _ ≤ bound by omega)
        refine ⟨[(⟨true, name.toList⟩, node)],
          ⟨(Place.of 0 rest).next, ?_, Place.next_next _⟩, ?_⟩
        · simp only [List.append_assoc, List.cons_append]
          exact read.trans (read_more_entries_last (outdented_next outdented))
        · simp only [Node.entryValues, key.value, means]
          rfl
      · obtain ⟨text, same, starts, there, noDash⟩ :=
          entries_place last (fun field member => (later field member).1) column rest
        have next := next_line column starts
        rw [join_more column _ (entries_lines last column)] at enough ⊢
        simp only [List.length_append, List.length_cons, List.length_replicate] at enough
        obtain ⟨bound, rfl⟩ := Nat.exists_eq_add_of_le' (show 1 ≤ bound by omega)
        obtain ⟨node, means, read⟩ := read_entries_written key kept
          (.line (Nat.lt_succ_self column) starts) (fun _ => next ▸ noDash)
          (show _ ≤ bound by omega)
        obtain ⟨entries, ⟨after, readMore, stop⟩, values⟩ :=
          induction last later (show _ ≤ bound by omega)
        rw [same] at readMore
        refine ⟨(⟨true, name.toList⟩, node) :: entries, ⟨after, ?_, stop⟩, ?_⟩
        · simp only [List.append_assoc, List.cons_append, same]
          rw [read, next]
          exact read_more_entries_more rfl there readMore
        · simp only [Node.entryValues, key.value, means, values]
          rfl

theorem entries_printed {fields : List (String × Value)}
    (each : ∀ field ∈ fields, IsKey field.1 ∧
      KeptAfterKey column (column + field.1.toList.length + 1) field.2) :
    ∀ line ∈ writeEntries column (fields.map Value.entryOf), ∀ character ∈ line,
      Printed character := by
  induction fields with
  | nil => simp [writeEntries]
  | cons field more induction =>
      obtain ⟨⟨key, kept⟩, later⟩ := List.forall_mem_cons.1 each
      rw [write_entries_cons key]
      refine List.forall_mem_cons.2 ⟨List.forall_mem_append.2 ⟨?_, ?_⟩, induction later⟩
      · exact fun character member => printed_of_visible (key.solid character member).1
      · exact List.forall_mem_cons.2 ⟨by decide, kept.printed⟩

theorem read_node_key (key : IsKey name) (column bound least : Nat) (value : Value)
    (text : List Char) :
    readNode? (bound + 1) least true (Place.of column (name.toList ++
        ':' :: (writeAfterKey column value (column + name.toList.length + 1) ++ '\n' :: text))) =
      (readEntries? bound column (Place.of column (name.toList ++
        ':' :: (writeAfterKey column value (column + name.toList.length + 1) ++
          '\n' :: text)))).map fun read => (.mapping read.1, read.2) := by
  have atKey := read_key_written key column (column + name.toList.length + 1) value text
  obtain ⟨-, noDash, -⟩ := key.no_mark column (':' :: (writeAfterKey column value
    (column + name.toList.length + 1) ++ '\n' :: text))
  obtain ⟨first, more, shape, letter⟩ := key.first
  have other : first ∉ ['[', '\x7b', '|', '>'] := by
    intro sign
    have none : ∀ sign ∈ ['[', '\x7b', '|', '>'], ¬isNameLetter sign = true :=
      List.any_eq_false.1 (by decide)
    exact none first sign letter
  have level : isLineEnd first = false := level_of_solid key.solid first (by simp [shape])
  have visible : ∀ tail, (Place.of column (name.toList ++ tail)).rest =
      first :: (cutLines (more ++ tail)).1 := fun tail => by
    rw [shape, List.cons_append, Place.of_cons level]
  rw [read_node_unmarked (visible _) other noDash, atKey]
  rfl

theorem mapping_read_back (filled : fields ≠ []) (distinct : (fields.map Prod.fst).Nodup)
    (each : ∀ field ∈ fields, IsKey field.1 ∧
      KeptAfterKey column (column + field.1.toList.length + 1) field.2)
    (outdented : Outdented column rest) (least : Nat) {bound : Nat}
    (enough : (joinLines column (writeEntries column (fields.map Value.entryOf))).length ≤ bound) :
    ∃ node, ReadUpTo (readNode? (bound + 1) least true (Place.of column
        (joinLines column (writeEntries column (fields.map Value.entryOf)) ++ '\n' :: rest)))
          node rest ∧
      node.value = .ok (.record fields) := by
  obtain ⟨entries, ⟨after, read, next⟩, values⟩ :=
    entries_read_back filled each outdented enough
  obtain ⟨name, value, text, key, begins⟩ :=
    entries_begin filled (fun field member => (each field member).1) column rest
  refine ⟨.mapping entries, ⟨after, ?_, next⟩, ?_⟩
  · rw [begins] at read ⊢
    rw [read_node_key key, read]
    rfl
  · rw [Node.value, values]
    exact congrArg Except.ok (Value.of_entries_record distinct)

theorem record_written (filled : fields ≠ []) (after : Nat) :
    writeAfterKey column (.record fields) after = '\n' :: (List.replicate (column + step) ' ' ++
      joinLines (column + step) (writeEntries (column + step) (fields.map Value.entryOf))) := by
  rw [Value.record_eq, writeAfterKey, if_neg (by simpa using filled)]
  rfl

/-- A mapping under a key begins further to the right than the key. -/
theorem record_after_key (filled : fields ≠ []) (distinct : (fields.map Prod.fst).Nodup)
    (each : ∀ field ∈ fields, IsKey field.1 ∧
      KeptAfterKey (column + step) (column + step + field.1.toList.length + 1) field.2)
    (after : Nat) : KeptAfterKey column after (.record fields) := by
  constructor
  · rw [record_written filled]
    exact below_printed (column + step) (joined_printed (entries_printed each))
  · intro rest bound outdented _ enough
    obtain ⟨text, same, begins, -⟩ :=
      entries_place filled (fun field member => (each field member).1) (column + step) rest
    rw [record_written filled] at enough ⊢
    simp only [List.length_cons, List.length_append] at enough
    obtain ⟨bound, rfl⟩ := Nat.exists_eq_add_of_le' (show 1 ≤ bound by omega)
    obtain ⟨node, ⟨stop, read, next⟩, means⟩ := mapping_read_back filled distinct each
      (outdented.weaken (Nat.le_succ (column + 1))) (column + 1) (show _ ≤ bound by omega)
    refine ⟨node, ⟨stop, ?_, next⟩, means⟩
    simp only [List.cons_append, List.append_assoc]
    rw [same] at read ⊢
    rw [read_node_below (Nat.lt_add_of_pos_right (by decide)) begins, read]

end Entries

section Document

variable {fields : List (String × Value)}

theorem allowed_of_printed {character : Char} (printed : Printed character) :
    isAllowed character = true := by
  obtain rfl | ⟨low, high⟩ := printed
  · rfl
  · simp [isAllowed, low, Nat.le_of_lt_succ high]

theorem without_mark_of_printed {document : List Char}
    (printed : ∀ character ∈ document, Printed character) : withoutMark document = document := by
  unfold withoutMark
  split
  next rest =>
    exact absurd (printed '\ufeff' List.mem_cons_self) (by decide)
  · rfl

theorem finished_at_end {after : Place} (next : after.next = (Place.of 0 []).next)
    (bound : Nat) : finished (bound + 1) after = true := by
  rw [finished, next]
  rfl

theorem read_document_key {name : String} (key : IsKey name) (text : List Char) (bound : Nat) :
    readDocument? bound (Place.of 0 (name.toList ++ text)) =
      readNode? bound 0 true (Place.of 0 (name.toList ++ text)) := by
  obtain ⟨there, -, noMark⟩ := key.no_mark 0 text
  have start := Place.next_begins (key.begins text) 0
  have filled : (Place.of 0 (name.toList ++ text)).rest.isEmpty = false := by
    rw [Place.ended, Bool.or_eq_false_iff] at there
    exact there.1
  simp only [readDocument?, start, noMark, filled, there, Bool.and_false, Bool.false_eq_true,
    if_false]

/-- A document that holds a mapping of names is read as this mapping. -/
theorem read_written_mapping (filled : fields ≠ []) (distinct : (fields.map Prod.fst).Nodup)
    (each : ∀ field ∈ fields, IsKey field.1 ∧
      KeptAfterKey 0 (0 + field.1.toList.length + 1) field.2) :
    (∀ character ∈ writeMapping (fields.map Value.entryOf), Printed character) ∧
      read (String.ofList (writeMapping (fields.map Value.entryOf))) = .ok (.record fields) := by
  have written : writeMapping (fields.map Value.entryOf) =
      joinLines 0 (writeEntries 0 (fields.map Value.entryOf)) ++ ['\n'] := by
    rw [writeMapping, if_neg (by simpa using filled)]
  have printed : ∀ character ∈ writeMapping (fields.map Value.entryOf), Printed character := by
    rw [written]
    exact List.forall_mem_append.2 ⟨joined_printed (entries_printed each),
      List.forall_mem_singleton.2 (Or.inl rfl)⟩
  refine ⟨printed, ?_⟩
  obtain ⟨name, value, text, key, begins⟩ :=
    entries_begin filled (fun field member => (each field member).1) 0 []
  have shorter : (joinLines 0 (writeEntries 0 (fields.map Value.entryOf))).length ≤
      3 * (writeMapping (fields.map Value.entryOf)).length + 2 := by
    rw [written, List.length_append]
    omega
  obtain ⟨node, ⟨after, found, next⟩, means⟩ :=
    mapping_read_back filled distinct each .ended 0 shorter
  rw [← written] at found begins
  have allowed : (writeMapping (fields.map Value.entryOf)).all isAllowed = true :=
    List.all_eq_true.2 fun character member => allowed_of_printed (printed character member)
  have document := read_document_key key (':' :: (writeAfterKey 0 value
    (0 + name.toList.length + 1) ++ '\n' :: text))
      (3 * (writeMapping (fields.map Value.entryOf)).length + 3)
  rw [← begins, found] at document
  have nodes : readNodes? (writeMapping (fields.map Value.entryOf)) = some node := by
    simp only [readNodes?, allowed, without_mark_of_printed printed, Bool.not_true,
      Bool.false_eq_true, if_false]
    change (readDocument? _ (Place.of 0 _) >>= _) = _
    rw [document]
    exact if_pos (finished_at_end next _)
  rw [read, String.toList_ofList, nodes]
  exact congrArg (Except.mapError Trouble.unread) means

end Document

end ImportImpact.Yaml
