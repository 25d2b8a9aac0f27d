import PipeQuery.OrderedMap
import PipeQuery.Number.Shown

/-!
# Cells

The values in the rows of a table: texts, whole numbers and binary64 numbers.
-/

namespace PipeQuery

/-- A whole or a binary64 number. -/
inductive Number where
  | integer (n : Int)
  | binary (x : Binary64)
  deriving DecidableEq, Inhabited

namespace Number

/-- The text of the number. -/
def shown : Number → String
  | integer n => shownInt n
  | binary x => x.shown

/-- The nearest binary64 number; a whole number beyond all of them becomes infinite. -/
def toBinary64 : Number → Binary64
  | integer n => .ofInt n
  | binary x => x

/-- The exact order of two numbers; a NaN has none. -/
def order? : Number → Number → Option Ordering
  | integer m, integer n => some (compare m n)
  | binary x, binary y => x.order? y
  | integer m, binary y => (y.orderToInt? m).map Ordering.swap
  | binary x, integer n => x.orderToInt? n

/-- Below, in the exact order. -/
def lt (m n : Number) : Bool := m.order? n == some .lt

/-- At or below, in the exact order. -/
def le (m n : Number) : Bool := m.order? n == some .lt || m.order? n == some .eq

/-- The number in units, by which numbers of one kind are ordered. -/
def rank : Number → Int
  | integer n => n * unitsPerOne
  | binary x => x.rank

end Number

/-- A value in a row. -/
inductive Cell where
  | text (s : String)
  | number (n : Number)
  deriving DecidableEq, Inhabited

namespace Cell

/-- The cell as text. -/
def shown : Cell → String
  | text s => s
  | number n => n.shown

/-- Whether the cell can be written as text.  Whole numbers of too many digits cannot:
wherever the text of such a number is taken, it stands for a fault. -/
def isWritable : Cell → Bool
  | number (.integer n) => (Nat.toDigits 10 n.natAbs).length ≤ maxIntegerDigits
  | _ => true

/-- The number in the cell, if it holds one. -/
def number? : Cell → Option Number
  | text _ => none
  | number n => some n

end Cell

/-- The cells of a row by column. -/
abbrev Row := OrderedMap String Cell

/-- The texts of a record by field. -/
abbrev Fields := OrderedMap String String

end PipeQuery
