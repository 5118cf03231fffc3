/-!
Values of characters by ranges of code points. A table is written as numbers. Behind a
leading one, every six hexadecimal digits are a word. A word that starts with C begins
an entry for one code point and a word that starts with 8 an entry for the range up to
the next word; what follows is the value. The entries are in ascending order.
-/
namespace AuthGateway

structure CodeRange (α : Type) where
  first : Nat
  last : Nat
  value : α

/-- Ranges in ascending order. -/
structure CodeTable (α : Type) where
  ranges : Array (CodeRange α)

namespace CodeTable

def lineLimit : Nat := 20

def wordsOnto (behind : List Nat) (n : Nat) : Nat → List Nat
  | 0 => behind
  | k + 1 => if n ≤ 1 then behind else wordsOnto (n % 0x1000000 :: behind) (n / 0x1000000) k

def words (line : Nat) : List Nat :=
  wordsOnto [] line lineLimit

/-- What is added to the first code point of an entry for it alone. -/
def singleMark : Nat := 0xC00000

/-- What is added to the first code point of an entry for a range. -/
def rangeMark : Nat := 0x800000

variable {α : Type}

def takeWord (value : List Nat → α) (w : Nat) (read : List Nat × List (CodeRange α)) :
    List Nat × List (CodeRange α) :=
  let (behind, entries) := read
  if singleMark ≤ w then ([], ⟨w - singleMark, w - singleMark, value behind⟩ :: entries)
  else if rangeMark ≤ w then
    ([], ⟨w - rangeMark, behind.headD 0, value behind.tail⟩ :: entries)
  else (w :: behind, entries)

def entries (value : List Nat → α) (line : Nat) : List (CodeRange α) :=
  ((words line).foldr (takeWord value) ([], [])).2

def ofLines (value : List Nat → α) (lines : List Nat) : CodeTable α :=
  ⟨(lines.flatMap (entries value)).toArray⟩

/-- The range of a code point among those at some positions, by bisection. -/
def findBetween? (t : CodeTable α) (n low high : Nat) : Option (CodeRange α) :=
  if low < high then
    let middle := (low + high) / 2
    match t.ranges[middle]? with
    | none => none
    | some r =>
      if n < r.first then t.findBetween? n low middle
      else if r.last < n then t.findBetween? n (middle + 1) high
      else some r
  else none
termination_by high - low

def find? (t : CodeTable α) (n : Nat) : Option (CodeRange α) :=
  t.findBetween? n 0 t.ranges.size

def contains (t : CodeTable α) (c : Char) : Bool :=
  (t.find? c.toNat).isSome

end CodeTable

end AuthGateway
