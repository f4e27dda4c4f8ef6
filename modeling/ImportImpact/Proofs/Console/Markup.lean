import ImportImpact.Platform.Ordinary
import Mathlib.Data.List.Basic

/-!
Messages that can be shown. Only a bracket begins a tag, so a message without brackets is shown,
also behind a tag that is closed again. This much is supposed of markup where it is a library's.
-/

namespace ImportImpact.Console

variable {message rest : List Char}

def IsText (part : Part) : Prop := ∃ content, part = .text content

theorem parts_of_plain (plain : '[' ∉ message) (slashes : Nat) :
    ∀ part ∈ parts slashes message, IsText part := by
  fun_induction parts slashes message with
  | case1 slashes => simp [IsText]
  | case2 slashes rest induction =>
      exact induction (List.not_mem_of_not_mem_cons plain)
  | case3 => simp at plain
  | case4 => simp at plain
  | case5 slashes character rest other bracket induction =>
      refine List.forall_mem_cons.2 ⟨⟨_, rfl⟩, ?_⟩
      exact induction (List.not_mem_of_not_mem_cons plain)

/-- Behind a text without brackets and backslashes, a message goes on as if it began there. -/
theorem parts_append (plain : '[' ∉ message) (level : '\\' ∉ message) (rest : List Char) :
    ∃ before, (∀ part ∈ before, IsText part) ∧
      parts 0 (message ++ rest) = before ++ parts 0 rest := by
  induction message with
  | nil => exact ⟨[], by simp, rfl⟩
  | cons character more induction =>
      obtain ⟨bracket, plain⟩ := not_or.1 (mt List.mem_cons.2 plain)
      obtain ⟨slash, level⟩ := not_or.1 (mt List.mem_cons.2 level)
      obtain ⟨before, texts, same⟩ := induction plain level
      refine ⟨.text [character] :: before, List.forall_mem_cons.2 ⟨⟨_, rfl⟩, texts⟩, ?_⟩
      rw [List.cons_append, parts, same]
      · rfl
      · rintro rfl
        exact slash rfl
      · rintro rfl
        exact bracket rfl

theorem parts_of_tag {inside after : List Char} (cut : cutTag? rest = some (inside, after)) :
    parts 0 ('[' :: rest) = .text [] :: .tag inside :: parts 0 after := by
  rw [parts]
  split
  next same =>
    rw [cut] at same
    cases same
    rfl
  next none =>
    rw [cut] at none
    cases none

theorem show_texts {before : List Part} (texts : ∀ part ∈ before, IsText part)
    (opened : List (List Char)) (later : List Part) :
    ∃ shown, showParts opened (before ++ later) = (showParts opened later).map (shown ++ ·) := by
  induction before with
  | nil => exact ⟨[], by simp⟩
  | cons part more induction =>
      obtain ⟨⟨content, rfl⟩, others⟩ := List.forall_mem_cons.1 texts
      obtain ⟨shown, same⟩ := induction others
      refine ⟨content ++ shown, ?_⟩
      rw [List.cons_append, showParts, same, Option.map_map]
      simp [Function.comp_def]

theorem show_plain (plain : '[' ∉ message) (opened : List (List Char)) :
    ∃ text, showParts opened (parts 0 message) = some text := by
  obtain ⟨shown, same⟩ := show_texts (parts_of_plain plain 0) opened []
  rw [List.append_nil] at same
  exact ⟨_, same⟩

theorem show_tag {inside after : List Char} {opened others : List (List Char)}
    (cut : cutTag? rest = some (inside, after)) (applied : applyTag opened inside = some others) :
    showParts opened (parts 0 ('[' :: rest)) = showParts others (parts 0 after) := by
  rw [parts_of_tag cut, showParts, showParts, applied]
  exact Option.map_id'

/-- A name that opens a style as it stands in a tag, and closes it behind a slash. -/
structure IsStyle (name : List Char) : Prop where
  whole : name.takeWhile (· != '=') = name
  opens : name.head? ≠ some '/'
  filled : (Text.trim name).isEmpty = false

theorem apply_opening {name : List Char} (style : IsStyle name) :
    applyTag [] name = some [styleName name] := by
  rw [applyTag, style.whole]
  split
  next closed => exact absurd rfl style.opens
  next => rfl

theorem apply_closing {name : List Char} (style : IsStyle name) :
    applyTag [styleName name] ('/' :: name) = some [] := by
  have whole : ('/' :: name).takeWhile (· != '=') = '/' :: name := by
    rw [List.takeWhile_cons_of_pos (by decide), style.whole]
  rw [applyTag, whole]
  simp [style.filled]

theorem show_styled (name inner rest : List Char) (style : IsStyle name)
    (opens : ∀ after, cutTag? (name ++ ']' :: after) = some (name, after))
    (closes : ∀ after, cutTag? ('/' :: (name ++ ']' :: after)) = some ('/' :: name, after))
    (plain : '[' ∉ inner) (level : '\\' ∉ inner) (plainToo : '[' ∉ rest) :
    ∃ text, showParts [] (parts 0
      ('[' :: (name ++ ']' :: (inner ++ '[' :: '/' :: (name ++ ']' :: rest))))) = some text := by
  obtain ⟨before, texts, same⟩ := parts_append plain level ('[' :: '/' :: (name ++ ']' :: rest))
  obtain ⟨shown, together⟩ := show_texts texts [styleName name] _
  obtain ⟨text, last⟩ := show_plain plainToo []
  rw [show_tag (opens _) (apply_opening style), same, together,
    show_tag (closes _) (apply_closing style), last]
  exact ⟨_, rfl⟩

def styled (style inner rest : String) : String :=
  "[" ++ style ++ "]" ++ inner ++ "[/" ++ style ++ "]" ++ rest

def styles : List String := ["red", "yellow", "green"]

/-- A message is shown in which one style is opened and closed again and no other bracket is. -/
def ShowsStyled (platform : Platform) : Prop :=
  ∀ style ∈ styles, ∀ inner rest : String, '[' ∉ inner.toList → '\\' ∉ inner.toList →
    '[' ∉ rest.toList → ∃ text, platform.shownText? (styled style inner rest) = some text

theorem ordinary_shows_styled : ShowsStyled .ordinary := by
  intro style known inner rest plain level plainToo
  have cuts : ∀ style ∈ styles, IsStyle style.toList ∧
      (∀ after, cutTag? (style.toList ++ ']' :: after) = some (style.toList, after)) ∧
      ∀ after, cutTag? ('/' :: (style.toList ++ ']' :: after)) =
        some ('/' :: style.toList, after) := by
    simp only [styles, List.forall_mem_cons, List.not_mem_nil, false_implies, implies_true,
      and_true]
    exact ⟨⟨⟨by decide, by decide, by decide⟩, fun _ => rfl, fun _ => rfl⟩,
      ⟨⟨by decide, by decide, by decide⟩, fun _ => rfl, fun _ => rfl⟩,
      ⟨⟨by decide, by decide, by decide⟩, fun _ => rfl, fun _ => rfl⟩⟩
  obtain ⟨isStyle, opens, closes⟩ := cuts style known
  have written : (styled style inner rest).toList = '[' :: (style.toList ++ ']' ::
      (inner.toList ++ '[' :: '/' :: (style.toList ++ ']' :: rest.toList))) := by
    simp [styled]
  change ∃ text, shownText? (styled style inner rest) = some text
  rw [shownText?, written]
  exact show_styled style.toList inner.toList rest.toList isStyle opens closes plain level plainToo

variable {platform : Platform} (shows : ShowsStyled platform)

include shows

theorem error_shown {message : String} (plain : '[' ∉ message.toList) :
    ∃ text, platform.shownText? s!"[red]Error:[/red] {message}" = some text := by
  have space : '[' ∉ (" " ++ message).toList := by
    rw [String.toList_append, List.mem_append, not_or]
    exact ⟨by decide, plain⟩
  have same : s!"[red]Error:[/red] {message}" = styled "red" "Error:" (" " ++ message) := by
    rw [styled, ← String.append_assoc]
    exact congrArg (· ++ message) (by decide)
  rw [same]
  exact shows "red" (by decide) "Error:" _ (by decide) (by decide) space

theorem no_change_shown :
    ∃ text, platform.shownText? "[yellow]No changed files given.[/yellow]" = some text :=
  shows "yellow" (by decide) "No changed files given." "" (by decide) (by decide) (by decide)

end ImportImpact.Console
