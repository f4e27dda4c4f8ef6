/-!
Line ends of text files: a carriage return ends a line, alone or together with the line feed
after it.
-/

namespace ImportImpact.Text

def unifyLineEnds : List Char → List Char
  | [] => []
  | '\r' :: '\n' :: rest => '\n' :: unifyLineEnds rest
  | '\r' :: rest => '\n' :: unifyLineEnds rest
  | character :: rest => character :: unifyLineEnds rest

end ImportImpact.Text
