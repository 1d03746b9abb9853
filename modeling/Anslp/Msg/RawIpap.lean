import Anslp.Msg.Object

/-!
# IPAP messages as bytes

A message library that keeps a message as the bytes it exports: two bytes of version,
the total length in two bytes, and the content.  It stands in for the real library where
a concrete one is needed, and shows that the laws asked of a library can be met.

Main results:

- The instance of {lit}`LawfulIpapMessage` for {lit}`RawIpap`.

Current gaps:

- The content is not looked into, so that no two messages are equal unless their bytes are.
-/

namespace Anslp

/-- The total length a message declares in its third and fourth byte. -/
def declaredLength : List UInt8 → Nat
  | _ :: _ :: hi :: lo :: _ => hi.toNat * 256 + lo.toNat
  | _ => 0

/-- A message that declares its own length. -/
structure RawIpap where
  bytes : List UInt8
  length_ge : 4 ≤ bytes.length
  declared : declaredLength bytes = bytes.length
deriving DecidableEq

/-- The declared length only depends on the first four bytes. -/
theorem declaredLength_take {n : Nat} (h : 4 ≤ n) (bs : List UInt8) :
    declaredLength (bs.take n) = declaredLength bs := by
  obtain ⟨k, rfl⟩ := Nat.exists_eq_add_of_le' h
  match bs with
  | [] | [_] | [_, _] | [_, _, _] => simp [declaredLength]
  | _ :: _ :: _ :: _ :: _ => simp [declaredLength]

/-- The length is declared by the first four bytes. -/
theorem declaredLength_append {bs cs : List UInt8} (h : 4 ≤ bs.length) :
    declaredLength (bs ++ cs) = declaredLength bs := by
  have htake := declaredLength_take h (bs ++ cs)
  rw [List.take_left] at htake
  exact htake.symm

namespace RawIpap

/-- Take the declared number of bytes, if they are there. -/
def ipapImport (bs : List UInt8) : Option (RawIpap × Nat) :=
  if h : 4 ≤ declaredLength bs ∧ declaredLength bs ≤ bs.length then
    some (⟨bs.take (declaredLength bs), by simp [h.1, h.2], by
      rw [declaredLength_take h.1, List.length_take_of_le h.2]⟩, declaredLength bs)
  else none

/-- The empty message is its own length. -/
theorem four_le_length_new : 4 ≤ ([0, 0, 0, 4] : List UInt8).length := by
  decide

/-- The length that the empty message declares is the one it has. -/
theorem declaredLength_new :
    declaredLength [0, 0, 0, 4] = ([0, 0, 0, 4] : List UInt8).length := by
  decide

instance : IpapMessage RawIpap where
  new := ⟨[0, 0, 0, 4], four_le_length_new, declaredLength_new⟩
  ipapImport := ipapImport
  getMessage m := some m.bytes
  getOffset m := m.bytes.length

instance : LawfulIpapMessage RawIpap where
  offset_eq h := by
    cases h
    rfl
  import_export := by
    intro m bs k h _ _
    cases h
    have hlen : declaredLength (m.bytes ++ List.replicate k 0) = m.bytes.length := by
      rw [declaredLength_append m.length_ge, m.declared]
    show ipapImport _ = _
    simp [ipapImport, hlen, m.length_ge]
  export_import := by
    intro m bs n h
    change ipapImport bs = _ at h
    unfold ipapImport at h
    split at h
    · rename_i hcond
      cases h
      exact ⟨rfl, hcond.2⟩
    · cases h

end RawIpap
end Anslp
