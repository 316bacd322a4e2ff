/-
Targets: the path and the query under which a server is asked for the resource of a URL. Segments
that stand for a place in the path are resolved, and what cannot stand in a target is escaped.
-/
import EntitlementClient.Text.Blank
import EntitlementClient.Text.Lines
import EntitlementClient.Text.Percent

namespace EntitlementClient.Http.Target

open EntitlementClient.Text

/-! ## Dot segments -/

/-- Takes a dot off a segment; it may be written as an escape. -/
def dropDot? : List Char → Option (List Char)
  | '.' :: rest => some rest
  | '%' :: '2' :: c :: rest => if c = 'e' ∨ c = 'E' then some rest else none
  | _ => none

/-- Whether a segment stands for the place where it is. -/
def isSingleDot (segment : List Char) : Bool :=
  dropDot? segment == some []

/-- Whether a segment stands for the place above it. -/
def isDoubleDot (segment : List Char) : Bool :=
  (dropDot? segment).bind dropDot? == some []

/-- Resolves the segments that stand for a place in the path, below the segments `above` in reverse
order. -/
def resolveBelow (above : List (List Char)) : List (List Char) → List (List Char)
  | [] => above.reverse
  | [last] =>
    -- the place itself is written with an empty last segment
    if isDoubleDot last then ([] :: above.drop 1).reverse
    else if isSingleDot last then ([] :: above).reverse
    else (last :: above).reverse
  | segment :: rest =>
    if isDoubleDot segment then resolveBelow (above.drop 1) rest
    else if isSingleDot segment then resolveBelow above rest
    else resolveBelow (segment :: above) rest

/-- The segments of a path without those that stand for a place in it. -/
def resolve (segments : List (List Char)) : List (List Char) :=
  resolveBelow [] segments

/-! ## Escapes -/

/-- Whether a byte is escaped wherever it stands: control bytes, blanks and bytes beyond ASCII. -/
def isForeign (b : UInt8) : Bool :=
  b ≤ 0x20 || 0x7F ≤ b

/-- Whether a byte is escaped in a path. -/
def isEscapedInPath (b : UInt8) : Bool :=
  isForeign b || [0x22, 0x23, 0x3C, 0x3E, 0x3F, 0x60, 0x7B, 0x7D].contains b

/-- Whether a byte is escaped in a query. -/
def isEscapedInQuery (b : UInt8) : Bool :=
  isForeign b || [0x22, 0x23, 0x27, 0x3C, 0x3E].contains b

/-- A text with an escape for every byte that satisfies `p`. -/
def escapeWhere (p : UInt8 → Bool) (s : List Char) : List Char :=
  (Utf8.encode s).flatMap fun b => if p b then Percent.escape b else [Char.ofNat b.toNat]

/-! ## URLs -/

/-- Whether a character is dropped from a URL wherever it stands. -/
def isDropped (c : Char) : Bool :=
  c == '\t' || c == '\n' || c == '\r'

/-- The text of a URL without what is ignored: blanks and controls around it, and tabs and line ends
within. -/
def cleaned (url : List Char) : List Char :=
  let isEdge := fun (c : Char) => decide (c.toNat ≤ 0x20)
  (dropEndWhile isEdge (url.dropWhile isEdge)).filter fun c => !isDropped c

/-- Whether a character ends a segment of a path. -/
def isSlash (c : Char) : Bool :=
  c == '/' || c == '\\'

/-- Whether a character ends the authority of a URL. -/
def endsAuthority (c : Char) : Bool :=
  isSlash c || c == '?' || c == '#'

/-- Whether a character ends the path of a URL. -/
def endsPath (c : Char) : Bool :=
  c == '?' || c == '#'

/-- The written form of a path. -/
def pathText (path : List Char) : List Char :=
  (resolve (splitWhere isSlash (path.drop 1))).flatMap fun segment =>
    '/' :: escapeWhere isEscapedInPath segment

/-- The target of a URL, unless it names no server. -/
def ofUrl? (url : String) : Option String :=
  match cutAt? "://".toList (cleaned url.toList) with
  | none => none
  | some (_, rest) =>
    -- the authority is looked for behind any slashes
    let located := rest.dropWhile isSlash
    let authority := located.takeWhile fun c => !endsAuthority c
    let tail := located.drop authority.length
    let path := tail.takeWhile fun c => !endsPath c
    let after := tail.drop path.length
    if authority.isEmpty then none
    else
      some (String.ofList (pathText path ++
        if after.head? = some '?' then
          '?' :: escapeWhere isEscapedInQuery ((after.drop 1).takeWhile (· != '#'))
        else []))

end EntitlementClient.Http.Target
