/-!
# Taking texts apart

Splitting a text at a character, looking for a text inside another, padding, and
numbers written in base sixteen. Splitting never loses anything: a text with `n`
separators has `n + 1` pieces, and joining them with the separator gives the text
back.
-/

namespace AnalysisPlan
namespace Text

/-- The pieces of a text between the occurrences of a separator. -/
def split (sep : Char) : List Char → List (List Char)
  | [] => [[]]
  | c :: rest =>
    if c = sep then [] :: split sep rest
    else
      match split sep rest with
      | [] => [[c]]
      | piece :: pieces => (c :: piece) :: pieces

@[simp] theorem split_nil (sep : Char) : split sep [] = [[]] := rfl

theorem split_ne_nil (sep : Char) (s : List Char) : split sep s ≠ [] := by
  cases s with
  | nil => simp
  | cons c rest =>
    unfold split
    split
    · simp
    · split <;> simp

theorem split_cons_of_ne {c sep : Char} (h : c ≠ sep) (s : List Char) :
    ∃ piece pieces, split sep s = piece :: pieces ∧
      split sep (c :: s) = (c :: piece) :: pieces := by
  rw [split, if_neg h]
  cases hs : split sep s with
  | nil => exact absurd hs (split_ne_nil sep s)
  | cons piece pieces => exact ⟨piece, pieces, rfl, rfl⟩

theorem split_append (sep : Char) (a b : List Char) :
    split sep (a ++ sep :: b) = split sep a ++ split sep b := by
  induction a with
  | nil => simp [split]
  | cons c a ih =>
      rw [List.cons_append]
      by_cases hc : c = sep
      · rw [split, if_pos hc, ih, split, if_pos hc, List.cons_append]
      · obtain ⟨piece, pieces, ha, hsplit⟩ := split_cons_of_ne hc a
        obtain ⟨piece', pieces', hab, hsplit'⟩ := split_cons_of_ne hc (a ++ sep :: b)
        rw [ih, ha, List.cons_append, List.cons.injEq] at hab
        rw [hsplit, hsplit', ← hab.1, ← hab.2, List.cons_append]

theorem split_of_not_mem {sep : Char} {s : List Char} (h : sep ∉ s) : split sep s = [s] := by
  induction s with
  | nil => rfl
  | cons c s ih =>
      obtain ⟨hc, hs⟩ := not_or.1 (mt List.mem_cons.2 h)
      rw [split, if_neg (Ne.symm hc), ih hs]

/-- The pieces put together again, with the separator between them. -/
def join (sep : Char) : List (List Char) → List Char
  | [] => []
  | [piece] => piece
  | piece :: pieces => piece ++ sep :: join sep pieces

@[simp] theorem join_nil (sep : Char) : join sep [] = [] := rfl

theorem join_cons (sep : Char) (piece : List Char) {pieces : List (List Char)}
    (h : pieces ≠ []) : join sep (piece :: pieces) = piece ++ sep :: join sep pieces := by
  cases pieces with
  | nil => exact absurd rfl h
  | cons p ps => rfl

theorem join_split (sep : Char) (s : List Char) : join sep (split sep s) = s := by
  induction s with
  | nil => rfl
  | cons c rest ih =>
    have hne := split_ne_nil sep rest
    by_cases hc : c = sep
    · simp [split, hc, join_cons sep [] hne, ih]
    · cases hs : split sep rest with
      | nil => exact absurd hs hne
      | cons p ps =>
        cases ps with
        | nil => simp_all [split, join]
        | cons q qs => simp_all [split, join]

def occursIn (needle : List Char) : List Char → Bool
  | [] => needle.isEmpty
  | c :: rest => needle.isPrefixOf (c :: rest) || occursIn needle rest

/-- The text with `filler` added at its end until it has `size` characters. -/
def padEnd (size : Nat) (filler : Char) (s : List Char) : List Char :=
  s ++ List.replicate (size - s.length) filler

/-- The text with `filler` added at its front until it has `size` characters. -/
def padStart (size : Nat) (filler : Char) (s : List Char) : List Char :=
  List.replicate (size - s.length) filler ++ s

theorem length_padEnd (size : Nat) (filler : Char) (s : List Char) :
    (padEnd size filler s).length = max size s.length := by
  simp [padEnd]
  omega

/-- A number in base sixteen, in small letters, with at least `size` digits. -/
def hex (size n : Nat) : List Char := padStart size '0' (Nat.toDigits 16 n)

end Text
end AnalysisPlan
