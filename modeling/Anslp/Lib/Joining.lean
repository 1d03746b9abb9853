import Mathlib.Data.List.Basic
import Mathlib.Tactic.Common

/-!
# Texts joined behind a separator

A list of texts is written as one, each text behind a separator.  The texts are told
from the whole only up to the separators that they contain themselves.

Main results:

- Theorem {lit}`joined_eq_iff`: lists of texts that are written the same.
- Theorem {lit}`joined_inj_of_not_mem`: texts without the separator come back.

Current gaps:

- None for texts whose parts are free of the separator.
-/

namespace Joining

variable {A : Type} [BEq A] [LawfulBEq A] {sep : A}

/-- The texts one after the other, each behind a separator. -/
def joined (sep : A) (ts : List (List A)) : List A :=
  ts.flatMap fun t => sep :: t

/-- What the texts are cut into at the separators they contain. -/
def pieces (sep : A) (ts : List (List A)) : List (List A) :=
  ts.flatMap fun t => t.splitOn sep

theorem splitOn_append_joined (t : List A) (ts : List (List A)) :
    (t ++ joined sep ts).splitOn sep = t.splitOn sep ++ pieces sep ts := by
  induction ts generalizing t with
  | nil => simp [joined, pieces]
  | cons u ts ih =>
    have hjoined : joined sep (u :: ts) = sep :: (u ++ joined sep ts) := rfl
    have hpieces : pieces sep (u :: ts) = u.splitOn sep ++ pieces sep ts := rfl
    rw [hjoined, hpieces, List.splitOn_append_cons_self, ih u]

/-- Two lists of texts are written the same when their pieces are the same in order. -/
theorem joined_eq_iff {ts us : List (List A)} :
    joined sep ts = joined sep us ↔ pieces sep ts = pieces sep us := by
  have hts : (joined sep ts).splitOn sep = [].splitOn sep ++ pieces sep ts :=
    splitOn_append_joined [] ts
  have hus : (joined sep us).splitOn sep = [].splitOn sep ++ pieces sep us :=
    splitOn_append_joined [] us
  constructor
  · intro h
    rw [h, hus] at hts
    exact (List.append_cancel_left hts).symm
  · intro h
    calc joined sep ts
      _ = List.intercalate [sep] ((joined sep ts).splitOn sep) :=
          (List.intercalate_splitOn sep).symm
      _ = List.intercalate [sep] ((joined sep us).splitOn sep) := by rw [hts, hus, h]
      _ = joined sep us := List.intercalate_splitOn sep

theorem pieces_of_not_mem {ts : List (List A)} (h : ∀ t ∈ ts, sep ∉ t) : pieces sep ts = ts := by
  have hone : ∀ t ∈ ts, t.splitOn sep = [t] := by
    intro t ht
    exact List.splitOn_eq_singleton (h t ht)
  rw [pieces, List.flatMap_congr hone]
  exact List.flatMap_singleton' ts

/-- Texts that do not contain the separator are told from what is written. -/
theorem joined_inj_of_not_mem {ts us : List (List A)} (hts : ∀ t ∈ ts, sep ∉ t)
    (hus : ∀ u ∈ us, sep ∉ u) (h : joined sep ts = joined sep us) : ts = us := by
  rw [joined_eq_iff, pieces_of_not_mem hts, pieces_of_not_mem hus] at h
  exact h

example : joined '%' ["a%b".toList, "c".toList] = joined '%' ["a".toList, "b%c".toList] := by
  decide

end Joining
