/-!
# Line ends

Texts are read with one kind of line end: a carriage return, alone or followed by a line feed, is
read as a line feed. Texts are written as they are.
-/

namespace Testsmith.Text

/-- A text with every line end written as a line feed. -/
def unifyNewlines : List Char → List Char
  | [] => []
  | '\r' :: '\n' :: rest => '\n' :: unifyNewlines rest
  | '\r' :: rest => '\n' :: unifyNewlines rest
  | c :: rest => c :: unifyNewlines rest

end Testsmith.Text
