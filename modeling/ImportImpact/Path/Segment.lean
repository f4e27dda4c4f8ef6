import ImportImpact.Text.Split

/-!
Path segments and their evaluation. Empty segments and single dots name no step; a double dot
takes back the last name, stays where there is no name to take back, and vanishes at the root.
-/

namespace ImportImpact

abbrev Segment := List Char

namespace Segment

def up : Segment := ['.', '.']

def idle (segment : Segment) : Bool := segment.isEmpty || segment = ['.']

/-- Evaluates one segment. The stack holds what has been kept, the last one first. -/
def advance (rooted : Bool) (stack : List Segment) (segment : Segment) : List Segment :=
  if idle segment then stack
  else if segment ≠ up then segment :: stack
  else match stack with
    | [] => if rooted then [] else [up]
    | top :: below => if top = up then up :: stack else below

def reduce (rooted : Bool) (segments : List Segment) : List Segment :=
  (segments.foldl (advance rooted) []).reverse

end Segment

end ImportImpact
