import Mathlib.Data.List.Basic
import Mathlib.Tactic.Common

/-!
# Arrays without initial values

An array of automatic storage: its entries have no value before they are written.
Writing behind the last entry and reading an entry that was not written have no
meaning, and are the faults here.  A list of values is written entry by entry from
some index on, and the whole array is then read.

Main results:

- Theorem {lit}`writeFrom_alloc`: writing a list from the first entry on.
- Theorem {lit}`fill_eq_ok_iff`: a list is written and read back without a fault exactly
  when the array has as many entries.

Current gaps:

- None for arrays of a fixed number of entries.
-/

/-- An array whose entries have a value or none yet. -/
abbrev RawArray (A : Type) :=
  List (Option A)

namespace RawArray

/-- An access that has no meaning. -/
inductive Fault
  | writeOutside (index : Nat)
  | readUnwritten (index : Nat)
deriving DecidableEq, Repr

variable {A : Type}

/-- An array of some number of entries. -/
def alloc (A : Type) (n : Nat) : RawArray A :=
  List.replicate n none

/-- Write one entry. -/
def write (xs : RawArray A) (index : Nat) (a : A) : Except Fault (RawArray A) :=
  if index < xs.length then .ok (xs.set index (some a)) else .error (.writeOutside index)

/-- Write values one after the other, from an index on. -/
def writeFrom (xs : RawArray A) (index : Nat) : List A → Except Fault (RawArray A)
  | [] => .ok xs
  | a :: as =>
    match xs.write index a with
    | .error f => .error f
    | .ok xs => xs.writeFrom (index + 1) as

/-- Read the entries one after the other; the first has an index. -/
def readFrom (index : Nat) : RawArray A → Except Fault (List A)
  | [] => .ok []
  | none :: _ => .error (.readUnwritten index)
  | some a :: xs =>
    match readFrom (index + 1) xs with
    | .error f => .error f
    | .ok as => .ok (a :: as)

/-- Write values into an array of some number of entries, then read all of it. -/
def fill (n : Nat) (as : List A) : Except Fault (List A) :=
  match (alloc A n).writeFrom 0 as with
  | .error f => .error f
  | .ok xs => xs.readFrom 0

example : fill 2 ['a', 'b'] = .ok ['a', 'b'] := by decide

/-- The array after some entries were written, with the number of those left. -/
def written (as : List A) (left : Nat) : RawArray A :=
  as.map some ++ List.replicate left none

theorem write_written_zero (as : List A) (a : A) :
    (written as 0).write as.length a = .error (.writeOutside as.length) := by
  simp [write, written]

theorem write_written_succ (as : List A) (left : Nat) (a : A) :
    (written as (left + 1)).write as.length a = .ok (written (as ++ [a]) left) := by
  have hlt : as.length < (written as (left + 1)).length := by
    simp [written]
  have hset : (written as (left + 1)).set as.length (some a) = written (as ++ [a]) left := by
    rw [written, List.set_append_right _ _ (by simp), List.length_map, Nat.sub_self,
      List.replicate_succ, List.set_cons_zero]
    simp [written]
  rw [write, if_pos hlt, hset]

/-- Writing goes on until the array is full. -/
theorem writeFrom_written (done as : List A) (left : Nat) :
    (written done left).writeFrom done.length as =
      if as.length ≤ left then .ok (written (done ++ as) (left - as.length))
      else .error (.writeOutside (done.length + left)) := by
  induction as generalizing done left with
  | nil => simp [writeFrom]
  | cons a as ih =>
    cases left with
    | zero =>
      rw [writeFrom, write_written_zero]
      simp
    | succ left =>
      have htail := ih (done ++ [a]) left
      rw [List.length_append, List.length_singleton, List.append_assoc,
        List.singleton_append] at htail
      rw [writeFrom, write_written_succ]
      simp only [htail, List.length_cons, Nat.add_le_add_iff_right, Nat.add_sub_add_right]
      rw [Nat.add_right_comm, Nat.add_assoc]

theorem writeFrom_alloc (n : Nat) (as : List A) :
    (alloc A n).writeFrom 0 as =
      if as.length ≤ n then .ok (written as (n - as.length)) else .error (.writeOutside n) := by
  have h := writeFrom_written [] as n
  rw [List.length_nil, List.nil_append, Nat.zero_add] at h
  exact h

theorem readFrom_written (as : List A) (left index : Nat) :
    (written as left).readFrom index =
      if left = 0 then .ok as else .error (.readUnwritten (index + as.length)) := by
  induction as generalizing index with
  | nil =>
    cases left with
    | zero => rfl
    | succ left => rfl
  | cons a as ih =>
    have hcons : written (a :: as) left = some a :: written as left := rfl
    rw [hcons, readFrom, ih (index + 1)]
    by_cases hleft : left = 0
    · simp [hleft]
    · simp [hleft, Nat.add_assoc, Nat.add_comm 1]

/-- Without a fault exactly the entries of the array are written, and then read. -/
theorem fill_eq_ok_iff {n : Nat} {as bs : List A} :
    fill n as = .ok bs ↔ as.length = n ∧ bs = as := by
  rw [fill, writeFrom_alloc]
  by_cases hle : as.length ≤ n
  · simp only [hle, if_true, readFrom_written]
    by_cases heq : n - as.length = 0
    · simp only [heq, if_true, Except.ok.injEq, eq_comm (a := as)]
      constructor
      · intro hbs
        exact ⟨by omega, hbs⟩
      · exact And.right
    · simp only [heq, if_false, reduceCtorEq, false_iff, not_and]
      intro hlength
      omega
  · simp only [hle, if_false, reduceCtorEq, false_iff, not_and]
    intro hlength
    omega

end RawArray
