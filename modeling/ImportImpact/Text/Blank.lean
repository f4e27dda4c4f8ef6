import ImportImpact.Text.Ranges

/-!
White space: the separators, the line ends and the four information separators below the
space. The zero-width space, the byte-order mark and U+180E are not blank.
-/

namespace ImportImpact.Text

def blankRanges : List (Nat × Nat) :=
  [(0x9, 0xD), (0x1C, 0x20), (0x85, 0x85), (0xA0, 0xA0), (0x1680, 0x1680), (0x2000, 0x200A),
   (0x2028, 0x2029), (0x202F, 0x202F), (0x205F, 0x205F), (0x3000, 0x3000)]

def isBlank (character : Char) : Bool := inRanges blankRanges character

def isTabOrSpace (character : Char) : Bool := character = ' ' || character = '\t'

theorem blank_of_tab_or_space {character : Char} (given : isTabOrSpace character = true) :
    isBlank character = true := by
  simp only [isTabOrSpace, Bool.or_eq_true, decide_eq_true_eq] at given
  rcases given with rfl | rfl <;> decide

def trim (text : List Char) : List Char :=
  ((text.dropWhile isBlank).reverse.dropWhile isBlank).reverse

end ImportImpact.Text
