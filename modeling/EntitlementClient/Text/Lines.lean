/-
Lines of a text, pieces of a text between separators, and the place where a text first occurs in
another.
-/

namespace EntitlementClient.Text

/-- The pieces of a text between the characters that satisfy `p`; always one more than there are
such characters. -/
def splitWhere (p : Char → Bool) : List Char → List (List Char)
  | [] => [[]]
  | c :: s =>
    if p c then [] :: splitWhere p s
    else match splitWhere p s with
      | [] => [[c]]
      | piece :: pieces => (c :: piece) :: pieces

/-- The lines of a text without their ends. -/
def lines (s : List Char) : List (List Char) :=
  splitWhere (· == '\n') s

/-- Whether a text stands somewhere within another. -/
def occursIn (piece : List Char) : List Char → Bool
  | [] => piece.isEmpty
  | c :: s => piece.isPrefixOf (c :: s) || occursIn piece s

/-- The text before the first place where a mark stands, and the text after it; `none` if it stands
nowhere. -/
def cutAt? (mark : List Char) : List Char → Option (List Char × List Char)
  | [] => if mark.isEmpty then some ([], []) else none
  | c :: s =>
    if mark.isPrefixOf (c :: s) then some ([], (c :: s).drop mark.length)
    else (cutAt? mark s).map fun parts => (c :: parts.1, parts.2)

end EntitlementClient.Text
