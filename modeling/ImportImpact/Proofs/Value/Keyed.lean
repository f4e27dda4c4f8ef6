import ImportImpact.Value.Basic
import Mathlib.Data.List.Nodup

/-!
Mappings in which no text is a key twice. Setting an entry keeps them so, and looking up what was
set gives the last value. What a reader makes of the entries that it finds is such a mapping.
-/

namespace ImportImpact.Value

def keyText? : Value → Option String
  | .str text => some text
  | _ => none

def mapping? : Value → Option (List (Value × Value))
  | .dict entries => some entries
  | _ => none

def textKeys (entries : List (Value × Value)) : List String :=
  entries.filterMap fun entry => entry.1.keyText?

/-- In the value and in all that it holds, no mapping has a text as a key twice. -/
inductive Keyed : Value → Prop
  | null : Keyed .null
  | bool (truth : Bool) : Keyed (.bool truth)
  | int (number : Int) : Keyed (.int number)
  | float (number : Float) : Keyed (.float number)
  | str (text : String) : Keyed (.str text)
  | list {items : List Value} (each : ∀ item ∈ items, Keyed item) : Keyed (.list items)
  | dict {entries : List (Value × Value)} (distinct : (textKeys entries).Nodup)
      (each : ∀ entry ∈ entries, Keyed entry.2) : Keyed (.dict entries)

theorem is_text_iff {text : String} {value : Value} : value.isText text = true ↔
    value = .str text := by
  cases value <;> simp [isText, eq_comm]

theorem mapping_iff {entries : List (Value × Value)} {value : Value} :
    value.mapping? = some entries ↔ value = .dict entries := by
  cases value <;> simp [mapping?]

theorem field_eq_lookup (key : String) (value : Value) :
    value.field? key = value.mapping?.bind (lookup key) := by
  cases value <;> rfl

theorem key_text_iff {text : String} {value : Value} : value.keyText? = some text ↔
    value = .str text := by
  cases value <;> simp [keyText?]

section Lookup

variable {entries : List (Value × Value)} {key : String}

theorem mem_text_keys_iff : key ∈ textKeys entries ↔ ∃ value, (.str key, value) ∈ entries := by
  rw [textKeys, List.mem_filterMap]
  constructor
  · rintro ⟨⟨name, value⟩, member, same⟩
    exact ⟨value, key_text_iff.1 same ▸ member⟩
  · rintro ⟨value, member⟩
    exact ⟨_, member, rfl⟩

theorem text_key_iff : key ∈ textKeys entries ↔ .str key ∈ entries.map Prod.fst := by
  rw [mem_text_keys_iff, List.mem_map]
  exact ⟨fun ⟨value, member⟩ => ⟨_, member, rfl⟩, fun ⟨entry, member, same⟩ =>
    ⟨entry.2, same ▸ member⟩⟩

theorem lookup_cons (entry : Value × Value) (rest : List (Value × Value)) :
    lookup key (entry :: rest) =
      if entry.1.isText key then some entry.2 else lookup key rest := by
  rw [lookup, List.find?_cons]
  cases entry.1.isText key <;> rfl

theorem entry_of_lookup {value : Value} (found : lookup key entries = some value) :
    (.str key, value) ∈ entries := by
  obtain ⟨entry, here, rfl⟩ := Option.map_eq_some_iff.1 found
  have named : entry.1.isText key = true := by simpa using List.find?_some here
  rw [← is_text_iff.1 named]
  exact List.mem_of_find?_eq_some here

theorem lookup_eq_none_iff : lookup key entries = none ↔ key ∉ textKeys entries := by
  rw [mem_text_keys_iff]
  constructor
  · rintro missing ⟨value, member⟩
    have unseen := List.find?_eq_none.1 (Option.map_eq_none_iff.1 missing) _ member
    exact unseen (is_text_iff.2 rfl)
  · intro unseen
    by_contra found
    obtain ⟨value, here⟩ := Option.ne_none_iff_exists'.1 found
    exact unseen ⟨value, entry_of_lookup here⟩

theorem text_keys_cons (entry : Value × Value) (rest : List (Value × Value)) :
    textKeys (entry :: rest) = entry.1.keyText?.toList ++ textKeys rest := by
  rw [textKeys, List.filterMap_cons]
  cases entry.1.keyText? <;> rfl

section Distinct

variable {entry : Value × Value} (distinct : (textKeys (entry :: entries)).Nodup)

include distinct

theorem rest_distinct : (textKeys entries).Nodup := by
  rw [text_keys_cons] at distinct
  exact distinct.of_append_right

theorem lookup_behind (named : entry.1.isText key = true) : lookup key entries = none := by
  rw [lookup_eq_none_iff]
  rw [text_keys_cons, is_text_iff.1 named, keyText?, Option.toList_some, List.singleton_append,
    List.nodup_cons] at distinct
  exact distinct.1

end Distinct

theorem lookup_of_entry (distinct : (textKeys entries).Nodup) {value : Value}
    (member : (.str key, value) ∈ entries) : lookup key entries = some value := by
  induction entries with
  | nil => cases member
  | cons entry rest induction =>
      rw [lookup_cons]
      rcases List.mem_cons.1 member with rfl | later
      · rw [if_pos (is_text_iff.2 rfl)]
      · have found := induction (rest_distinct distinct) later
        have other : ¬entry.1.isText key = true := by
          intro named
          rw [lookup_behind distinct named] at found
          cases found
        rw [if_neg other, found]

end Lookup

section Insert

variable {key value : Value} {entries : List (Value × Value)}

theorem same_key_text {text : String} {other : Value} (same : other.sameKey (.str text) = true) :
    other = .str text := by
  cases other <;> simp_all [sameKey, whole?]

theorem text_of_same_key {text : String} {other : Value}
    (same : (Value.str text).sameKey other = true) : other = .str text := by
  cases other <;> simp_all [sameKey, whole?]

theorem same_key_self (text : String) : (Value.str text).sameKey (.str text) = true := by
  simp [sameKey]

theorem lookup_insert (text : String) : lookup text (insert key value entries) =
    if key.isText text then some value else lookup text entries := by
  induction entries with
  | nil =>
      rw [insert, lookup_cons]
  | cons entry rest induction =>
      rw [insert]
      by_cases here : entry.1.sameKey key = true
      · rw [if_pos here, lookup_cons, lookup_cons]
        -- A key that is kept for another one is no text, unless the two are the same.
        have alike : entry.1.isText text = key.isText text := by
          rw [Bool.eq_iff_iff, is_text_iff, is_text_iff]
          constructor
          · intro first
            exact text_of_same_key (first ▸ here)
          · intro second
            exact same_key_text (second ▸ here)
        rw [alike]
        by_cases named : key.isText text = true
        · simp [named]
        · simp [named]
      · rw [if_neg here, lookup_cons, induction, lookup_cons]
        by_cases first : entry.1.isText text = true
        · have different : ¬key.isText text = true := by
            intro second
            rw [is_text_iff.1 first, is_text_iff.1 second] at here
            exact here (same_key_self text)
          simp [first, different]
        · simp [first]

theorem text_keys_insert_text (text : String) (value : Value) (entries : List (Value × Value)) :
    textKeys (insert (.str text) value entries) =
      if text ∈ textKeys entries then textKeys entries else textKeys entries ++ [text] := by
  induction entries with
  | nil => rfl
  | cons entry rest induction =>
      rw [insert]
      by_cases here : entry.1.sameKey (.str text) = true
      · have known : text ∈ textKeys (entry :: rest) :=
          mem_text_keys_iff.2 ⟨entry.2, by simp [← same_key_text here]⟩
        rw [if_pos here, if_pos known, text_keys_cons, text_keys_cons]
      · have other : text ∉ entry.1.keyText?.toList := by
          intro member
          rw [Option.mem_toList, key_text_iff] at member
          exact here (member ▸ same_key_self text)
        rw [if_neg here, text_keys_cons, induction, text_keys_cons]
        by_cases later : text ∈ textKeys rest
        · rw [if_pos later, if_pos (List.mem_append_right _ later)]
        · rw [if_neg later, if_neg (by simp [other, later]), List.append_assoc]

theorem text_keys_insert_other (unnamed : key.keyText? = none) :
    textKeys (insert key value entries) = textKeys entries := by
  induction entries with
  | nil =>
      rw [insert, text_keys_cons, unnamed]
      rfl
  | cons entry rest induction =>
      rw [insert]
      split
      · rw [text_keys_cons, text_keys_cons]
      · rw [text_keys_cons, induction, text_keys_cons]

theorem text_keys_nodup_insert (distinct : (textKeys entries).Nodup) :
    (textKeys (insert key value entries)).Nodup := by
  cases named : key.keyText? with
  | none => rwa [text_keys_insert_other named]
  | some text =>
      rw [key_text_iff.1 named, text_keys_insert_text]
      split
      · exact distinct
      next fresh =>
        refine List.nodup_append.2 ⟨distinct, by simp, ?_⟩
        rintro other member last here rfl
        exact fresh (List.mem_singleton.1 here ▸ member)

theorem mem_insert {entry : Value × Value} (member : entry ∈ insert key value entries) :
    entry.1 ∈ key :: entries.map Prod.fst ∧ entry.2 ∈ value :: entries.map Prod.snd := by
  induction entries with
  | nil => simp_all [insert]
  | cons first rest induction =>
      rw [insert] at member
      split at member
      · rcases List.mem_cons.1 member with rfl | later
        · simp
        · exact ⟨by simp [List.mem_map_of_mem later], by simp [List.mem_map_of_mem later]⟩
      · rcases List.mem_cons.1 member with rfl | later
        · simp
        · obtain ⟨name, held⟩ := induction later
          simp only [List.map_cons, List.mem_cons] at name held ⊢
          tauto

end Insert

section Update

def update (entries changes : List (Value × Value)) : List (Value × Value) :=
  changes.foldl (fun made entry => insert entry.1 entry.2 made) entries

variable {entries changes : List (Value × Value)}

theorem update_cons (entries : List (Value × Value)) (entry : Value × Value)
    (rest : List (Value × Value)) :
    update entries (entry :: rest) = update (insert entry.1 entry.2 entries) rest := rfl

theorem update_distinct (distinct : (textKeys entries).Nodup) :
    (textKeys (update entries changes)).Nodup := by
  induction changes generalizing entries with
  | nil => exact distinct
  | cons entry rest induction => exact induction (text_keys_nodup_insert distinct)

theorem mem_update {entry : Value × Value} (member : entry ∈ update entries changes) :
    entry.1 ∈ changes.map Prod.fst ++ entries.map Prod.fst ∧
      entry.2 ∈ changes.map Prod.snd ++ entries.map Prod.snd := by
  induction changes generalizing entries with
  | nil => exact ⟨List.mem_map_of_mem member, List.mem_map_of_mem member⟩
  | cons change rest induction =>
      have set : ∀ made ∈ insert change.1 change.2 entries,
          made.1 ∈ change.1 :: entries.map Prod.fst ∧ made.2 ∈ change.2 :: entries.map Prod.snd :=
        fun _ inside => mem_insert inside
      obtain ⟨name, held⟩ := induction (update_cons _ _ _ ▸ member)
      simp only [List.map_cons, List.cons_append, List.mem_cons, List.mem_append,
        List.mem_map] at name held set ⊢
      refine ⟨?_, ?_⟩
      · rcases name with later | ⟨made, inside, same⟩
        · exact Or.inr (Or.inl later)
        · exact same ▸ (set made inside).1.imp_right Or.inr
      · rcases held with later | ⟨made, inside, same⟩
        · exact Or.inr (Or.inl later)
        · exact same ▸ (set made inside).2.imp_right Or.inr

theorem keyed_of_entries (each : ∀ entry ∈ entries, entry.2.Keyed) : (ofEntries entries).Keyed := by
  refine .dict (update_distinct List.nodup_nil) fun entry member => ?_
  have held := (mem_update member).2
  rw [List.map_nil, List.append_nil] at held
  obtain ⟨other, inside, same⟩ := List.mem_map.1 held
  exact same ▸ each other inside

theorem lookup_update (distinct : (textKeys changes).Nodup) (key : String) :
    lookup key (update entries changes) = (lookup key changes).or (lookup key entries) := by
  induction changes generalizing entries with
  | nil => rfl
  | cons entry rest induction =>
      rw [update_cons, induction (rest_distinct distinct), lookup_insert, lookup_cons]
      by_cases named : entry.1.isText key = true
      · simp [named, lookup_behind distinct named]
      · simp [named]

end Update

end ImportImpact.Value
