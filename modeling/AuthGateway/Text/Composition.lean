import AuthGateway.Text.CombiningClass
import AuthGateway.Text.Composition.Pairs

/-!
The composed form of a text: every character that is composed of two others is
taken apart, marks are put into the order of their classes, and what can be
composed is composed again. Texts that mean the same to a reader have the same
composed form, as far as their characters are not themselves spellings of other
characters.
-/
namespace AuthGateway.Composition

/-- The first syllable of Hangul, and the characters before its first letters
of the three kinds; the third may be missing. -/
def syllableBase : Nat := 0xAC00

def leadBase : Nat := 0x1100

def vowelBase : Nat := 0x1161

def tailBase : Nat := 0x11A7

def syllableLetters (n : Nat) : List Nat :=
  let i := n - syllableBase
  [leadBase + i / 588, vowelBase + i % 588 / 28] ++
    if i % 28 = 0 then [] else [tailBase + i % 28]

def isSyllable (n : Nat) : Bool :=
  syllableBase ≤ n && n < syllableBase + 11172

/-- The syllable of two letters, or of a syllable without a third letter and that. -/
def syllable? (a b : Nat) : Option Nat :=
  if leadBase ≤ a ∧ a < leadBase + 19 ∧ vowelBase ≤ b ∧ b < vowelBase + 21 then
    some (syllableBase + ((a - leadBase) * 21 + (b - vowelBase)) * 28)
  else if isSyllable a ∧ (a - syllableBase) % 28 = 0 ∧ tailBase < b ∧ b < tailBase + 28 then
    some (a + (b - tailBase))
  else none

/-- Takes a character apart as long as it is composed, at most so many times. -/
def lettersWithin (n : Nat) : Nat → List Nat
  | 0 => [n]
  | times + 1 =>
    if isSyllable n then syllableLetters n
    else
      match pairOf? n with
      | some (first, second) => lettersWithin first times ++ [second]
      | none => [n]

/-- No character is composed of more than four. -/
def letters (n : Nat) : List Nat :=
  lettersWithin n 4

def composite? (a b : Nat) : Option Nat :=
  (syllable? a b).orElse fun _ => ofPair? a b

/-- Puts a character behind others, which are in reverse; a mark comes before
the marks of higher classes at their end. -/
def place (n : Nat) : List Nat → List Nat
  | [] => [n]
  | m :: rest =>
    if 0 < combiningClass n ∧ combiningClass n < combiningClass m then m :: place n rest
    else n :: m :: rest

/-- A text that is composed in part; all lists are in reverse. -/
structure Progress where
  done : List Nat
  /-- The last character that is no mark, which may still become another one. -/
  base : Option Nat
  /-- The marks behind it that it did not take in. -/
  marks : List Nat

/-- Takes in a character. A mark or letter reaches the base only if no mark of
the same or a higher class stands between them. -/
def Progress.take (p : Progress) (n : Nat) : Progress :=
  match p.base with
  | none => if combiningClass n = 0 then { p with base := some n } else { p with done := n :: p.done }
  | some base =>
    let reaches :=
      match p.marks with
      | [] => true
      | m :: _ => decide (combiningClass m < combiningClass n)
    match if reaches then composite? base n else none with
    | some c => { p with base := some c }
    | none =>
      if combiningClass n = 0 then ⟨p.marks ++ base :: p.done, some n, []⟩
      else { p with marks := n :: p.marks }

def Progress.all (p : Progress) : List Nat :=
  (p.marks ++ (p.base.toList ++ p.done)).reverse

/-- The composed form of a text. ASCII texts have no other. -/
def compose (cs : List Char) : List Char :=
  if cs.all fun c => c.toNat < 128 then cs
  else
    let apart := cs.flatMap fun c => letters c.toNat
    let ordered := (apart.foldl (fun out n => place n out) []).reverse
    (ordered.foldl Progress.take ⟨[], none, []⟩).all.map Char.ofNat

end AuthGateway.Composition
