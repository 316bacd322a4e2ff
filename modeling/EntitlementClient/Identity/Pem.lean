/-
PEM: blocks of bytes in base64 between a line that names them and a line that ends them. There are
two readers. One reads the first block of a text and is not strict about its boundary lines; the
other reads every block and is.
-/
import EntitlementClient.Text.Base64
import EntitlementClient.Text.Lines

namespace EntitlementClient.Pem

open EntitlementClient.Text

/-- A block: its label and its bytes. -/
structure Block where
  label : String
  content : List UInt8
deriving DecidableEq

/-- What is wrong with a text that should hold a block. -/
inductive Fault
  | missingHeader
  | invalidHeader
  | incomplete
  | badBase64
deriving DecidableEq

/-- The reason that is reported for a fault. -/
def Fault.wording : Fault → String
  | .missingHeader => "Parsing Error: MissingHeader"
  | .invalidHeader => "Parsing Error: InvalidHeader"
  | .incomplete => "Parsing Error: IncompletePEM"
  | .badBase64 => "Parsing Error: Base64DecodeError"

/-- What the first line of a block starts with. -/
def beginMark : List Char := "-----BEGIN ".toList

/-- What the last line of a block starts with. -/
def endMark : List Char := "-----END ".toList

/-- What stands around the text of a boundary line. -/
def fence : List Char := "-----".toList

/-! ## The first block -/

/-- The base64 text on the lines before the line that ends a block; `none` if there is no such
line. -/
def body? : List (List Char) → Option (List Char)
  | [] => none
  | line :: rest =>
    if endMark.isPrefixOf line then some [] else (body? rest).map (trimEnd line ++ ·)

/-- Reads the first block of a text. What stands before it and after it does not matter, nor does
the label of the line that ends it. -/
def first (s : List Char) : Except Fault Block :=
  match (lines s).dropWhile fun line => !beginMark.isPrefixOf line with
  | [] => .error .missingHeader
  | header :: rest =>
    let afterMark := header.drop beginMark.length
    if occursIn fence afterMark then
      match body? rest with
      | none => .error .incomplete
      | some text =>
        match Base64.decode? text with
        | none => .error .badBase64
        | some content => .ok ⟨String.ofList (afterMark.takeWhile (· != '-')), content⟩
    else .error .invalidHeader

/-! ## All blocks -/

/-- Whether a character ends a line for the strict reader. -/
def isLineEnd (c : Char) : Bool :=
  c == '\n' || c == '\r'

/-- The label of the first line of a block, which ends in a fence of exactly five dashes. Blanks may
stand between and after the dashes. -/
def label? (header : List Char) : Option (List Char) :=
  let afterMark := header.drop beginMark.length
  let named := dropEndWhile (fun c => c == '-' || c == ' ') afterMark
  let closing := afterMark.drop named.length
  if closing.count '-' = fence.length then some (named ++ closing.takeWhile (· == ' '))
  else none

/-- Reads the blocks on some lines, within a block with the given label or between blocks. The text
is the base64 of the block so far. -/
def readBlocks (label : Option (List Char)) (text : List Char) :
    List (List Char) → Option (List Block)
  | [] => if label.isNone then some [] else none
  | line :: rest =>
    -- a block may begin inside another, and then takes over the text so far
    if beginMark.isPrefixOf line then
      match label? line with
      | none => none
      | some label => readBlocks (some label) text rest
    else
      match label with
      | none => readBlocks none text rest
      | some name =>
        if (endMark ++ name ++ fence).isPrefixOf line then
          match Base64.decodeUnpadded? text with
          | none => none
          | some content =>
            (readBlocks none [] rest).map (⟨String.ofList name, content⟩ :: ·)
        else readBlocks (some name) (text ++ dropEndWhile (· == ' ') line) rest

/-- Reads every block of a text; `none` if one of them is malformed or has no end. -/
def blocks? (s : List Char) : Option (List Block) :=
  readBlocks none [] (splitWhere isLineEnd s)

end EntitlementClient.Pem
