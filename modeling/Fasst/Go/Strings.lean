import Mathlib.Data.List.Basic

/-!
# Fasst.Go.Strings — Go's `strings.Index`, `strings.SplitN` and `strings.Split` at one byte

A Go `string` is its bytes; the scanners split identification strings, requests and header lines
at a single ASCII character (a space, a dash, a zero byte, a colon, a comma), where
`strings.Index` finds the first occurrence of that byte.  `cut` is that search, `splitN` is
`strings.SplitN` built on it and `split` is `strings.Split`.  The functions are stated for any
element type, so that they apply to bytes and to the runes of a valid UTF-8 string alike.

* `cut_append`, `cut_of_not_mem`, `cut_eq_some`: the search reads a piece free of the byte, then
  the byte, and a found byte splits the bytes around its first occurrence;
* `splitN_append`, `splitN_of_not_mem`: `SplitN` ends a piece at the first separator, and a piece
  free of it is the whole rest.
-/

namespace Fasst.Go

variable {α : Type} [DecidableEq α]

/-- `strings.Index(s, sep)` as `SplitN` uses it: the bytes before the first `sep`, and the bytes
after it when there is one. -/
def cut (sep : α) : List α → List α × Option (List α)
  | [] => ([], none)
  | b :: s => if b = sep then ([], some s) else (b :: (cut sep s).1, (cut sep s).2)

/-- `strings.SplitN(s, sep, n)` for a one-byte `sep`: at most `n` pieces, the last one the rest
of `s` unsplit; `n = 0` gives no piece. -/
def splitN (sep : α) : Nat → List α → List (List α)
  | 0, _ => []
  | 1, s => [s]
  | n + 2, s =>
    match cut sep s with
    | (pre, some rest) => pre :: splitN sep (n + 1) rest
    | (_, none) => [s]

/-- `strings.Split(s, sep)` for a one-byte `sep`: every piece between two separators. -/
def split (sep : α) : List α → List (List α)
  | [] => [[]]
  | c :: s =>
    if c = sep then [] :: split sep s
    else match split sep s with
      | p :: ps => (c :: p) :: ps
      | [] => [[c]]

section Split

variable {sep : α} {pre rest s : List α}

theorem cut_of_not_mem (h : sep ∉ s) : cut sep s = (s, none) := by
  induction s with
  | nil => rfl
  | cons b s ih =>
    simp only [List.mem_cons, not_or] at h
    simp [cut, Ne.symm h.1, ih h.2]

theorem cut_append (h : sep ∉ pre) : cut sep (pre ++ sep :: rest) = (pre, some rest) := by
  induction pre with
  | nil => simp [cut]
  | cons b pre ih =>
    simp only [List.mem_cons, not_or] at h
    simp [cut, Ne.symm h.1, ih h.2]

theorem cut_eq_some {s pre rest : List α} (h : cut sep s = (pre, some rest)) :
    s = pre ++ sep :: rest ∧ sep ∉ pre := by
  induction s generalizing pre with
  | nil => simp [cut] at h
  | cons b s ih =>
    unfold cut at h
    split at h
    · next hb => simp_all
    · next hb =>
      simp only [Prod.mk.injEq] at h
      obtain ⟨rfl, hr⟩ := h
      obtain ⟨h1, h2⟩ := ih (Prod.ext rfl hr)
      exact ⟨by rw [List.cons_append, ← h1], by simp [hb, Ne.symm hb, h2]⟩

@[simp] theorem splitN_one : splitN sep 1 s = [s] := rfl

theorem splitN_of_not_mem (h : sep ∉ s) (n : Nat) : splitN sep (n + 1) s = [s] := by
  cases n with
  | zero => rfl
  | succ n => simp [splitN, cut_of_not_mem h]

theorem splitN_append (h : sep ∉ pre) (n : Nat) :
    splitN sep (n + 2) (pre ++ sep :: rest) = pre :: splitN sep (n + 1) rest := by
  simp [splitN, cut_append h]

end Split

end Fasst.Go
