/-!
Cutting a list at a separator: everywhere, or at its first occurrence only.
-/
namespace AuthGateway.Split

variable {α : Type} [BEq α]

/-- The pieces between the separators, one more than there are separators. -/
def pieces (sep : α) (xs : List α) : List (List α) :=
  xs.foldr
    (fun x acc =>
      if x == sep then [] :: acc
      else
        match acc with
        | [] => [[x]]
        | p :: ps => (x :: p) :: ps)
    [[]]

def before (sep : α) (xs : List α) : List α :=
  xs.takeWhile fun x => !(x == sep)

def after? (sep : α) (xs : List α) : Option (List α) :=
  match xs.dropWhile fun x => !(x == sep) with
  | [] => none
  | _ :: rest => some rest

def once? (sep : α) (xs : List α) : Option (List α × List α) :=
  (after? sep xs).map fun rest => (before sep xs, rest)

omit [BEq α] in
def join (sep : List α) : List (List α) → List α
  | [] => []
  | [p] => p
  | p :: q :: rest => p ++ sep ++ join sep (q :: rest)

end AuthGateway.Split
