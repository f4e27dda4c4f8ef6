import ImportImpact.Fault
import ImportImpact.Text.LowerCase

/-!
Lists of texts among values: each of them can be lowered, and each can be a member of a set.
-/

namespace ImportImpact.Value

theorem lowered_texts (texts : List String) :
    (texts.map str).mapM (fun text => do pure (Text.lowerCase (← text.textFor "lower"))) =
      (.ok (texts.map Text.lowerCase) : Outcome (List String)) := by
  induction texts with
  | nil => rfl
  | cons text rest induction =>
      rw [List.map_cons, List.mapM_cons, induction]
      rfl

theorem members_of_texts {value : Value} {texts : List String}
    (listed : value.elements = .ok (texts.map str)) : value.members = .ok (texts.map str) := by
  have hashed : (texts.map str).forM hashable = .ok () := by
    clear listed
    induction texts with
    | nil => rfl
    | cons text rest induction => exact induction
  simp only [members, listed, bind, Except.bind, pure, Except.pure, hashed]

end ImportImpact.Value
