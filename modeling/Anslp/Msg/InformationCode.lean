import Anslp.Msg.RawIpap
import Anslp.Msg.RoundTrip

/-!
# Information codes

The object that reports how a request went: a severity class of four bits, a response code
of eight and an object type of sixteen, packed into one word.  The definitions follow
{lit}`information_code`.

The check of the body refuses every object type but zero, although the encoding has room
for all of them.

Main results:

- Theorem {lit}`representable_iff`: the encoding has room for every value whose severity
  class has four bits.
- Theorem {lit}`encodes_iff`: what is written is read back, and the check is that of the
  encoding, exactly if the object type is zero or the severity class has no room.

Current gaps:

- None for the encoding; the texts that describe a code are left out.
-/

namespace Anslp

open AnslpObject RoundTrip

namespace InformationCode

variable {α : Type}

/-- The object of the three values. -/
def new (severity responseCode : UInt8) (objectType : UInt16) (tr : Treatment) (unique : Bool) :
    AnslpObject α where
  objectType := FixedType.informationCode.objectType
  treatment := tr
  isUnique := unique
  body := .informationCode severity responseCode objectType

/-- The encoding can represent the values: some word is read as them. -/
def Representable (severity responseCode : UInt8) (objectType : UInt16) : Prop :=
  ∃ value, (ofWord .informationCode value : Body Unit) =
    .informationCode severity responseCode objectType

/-- Reading what was written gives the three values back. -/
def ReadBack [IpapMessage α] (o : AnslpObject α) (m : NetMsg) : Prop :=
  ∃ m' n, o.serialize m = .ok (m', n) ∧
    ∀ err skip, ∃ o' m'' n', (newFixed .informationCode : AnslpObject α).deserialize
      (m'.writtenFrom m.pos) err skip = .ok (some (o', m'', n'), err) ∧ o'.body = o.body

/-- With room in the buffer, what the encoding can represent is read back, and the check of
the body accepts just that. -/
def Encodes [IpapMessage α] (o : AnslpObject α) (severity responseCode : UInt8)
    (objectType : UInt16) : Prop :=
  (Representable severity responseCode objectType → ∀ m : NetMsg, 8 ≤ m.bytesLeft → ReadBack o m) ∧
    (o.checkBody = true ↔ Representable severity responseCode objectType)

variable {severity responseCode : UInt8} {objectType : UInt16} {tr : Treatment} {unique : Bool}

/-- The encoding has room for the values whose severity class has four bits. -/
theorem representable_iff :
    Representable severity responseCode objectType ↔ severity.toNat < 16 := by
  constructor
  · rintro ⟨value, hvalue⟩
    simp only [ofWord, Body.informationCode.injEq] at hvalue
    rw [← hvalue.1, UInt32.toNat_toUInt8, UInt32.toNat_and,
      show (0xF : UInt32).toNat = 2 ^ 4 - 1 by decide, Words.and_mask]
    omega
  · intro hsev
    exact ⟨_, ofWord_informationWord responseCode objectType hsev⟩

section Coding

variable [IpapMessage α]

/-- The check looks at the severity class, and wants no object type at all. -/
theorem checkBody_new :
    (new severity responseCode objectType tr unique : AnslpObject α).checkBody = true ↔
      severity.toNat < 16 ∧ objectType = 0 := by
  simp only [checkBody, new, objectType_and_mask, ← severity_and_eq_zero_iff]
  simp

theorem check_new :
    (new severity responseCode objectType tr unique : AnslpObject α).check = true ↔
      severity.toNat < 16 ∧ objectType = 0 := by
  have hbits : FixedType.informationCode.objectType &&& 0xF000 = 0 := by decide
  have htype : ¬ (new severity responseCode objectType tr unique : AnslpObject α).objectType
      &&& 0xF000 ≠ 0 := not_not.mpr hbits
  rw [check, if_neg htype, checkBody_new]

/-- An object about no object type is written and read back. -/
theorem readBack {m : NetMsg} (hsev : severity.toNat < 16) (hroom : 8 ≤ m.bytesLeft) :
    ReadBack (new severity responseCode 0 tr unique : AnslpObject α) m := by
  have hbytes := bodyBytes_informationCode (α := α)
    (o := new severity responseCode 0 tr unique) rfl
  have hheader : objectHeader (new severity responseCode 0 tr unique : AnslpObject α) =
      (new severity responseCode 0 tr unique : AnslpObject α).header 4 := rfl
  have htype : FixedType.informationCode.objectType.toNat < 2 ^ 12 := by decide
  have hlen : extractBodyLength
      (objectHeader (new severity responseCode 0 tr unique : AnslpObject α)) = 4 := by
    rw [hheader]
    exact extractBodyLength_header htype (by decide) (by decide)
  have hencoding := encoding_eq (new severity responseCode 0 tr unique : AnslpObject α)
  rw [hbytes] at hencoding
  obtain ⟨m', hwrite, -⟩ := NetMsg.write_eq
    (new severity responseCode 0 tr unique : AnslpObject α).encoding
    (by rw [hencoding]; simpa using hroom)
  refine ⟨m', _, serialize_eq_ok_iff.mpr ⟨check_new.mpr ⟨hsev, rfl⟩, trivial, hwrite, rfl⟩, ?_⟩
  intro err skip
  have hleft := NetMsg.left_writtenFrom hwrite
  rw [hencoding, ← List.append_nil (Words.bytes32 (informationWord severity responseCode 0))]
    at hleft
  have hlow : informationWord severity responseCode 0 &&& 0xFFFF = 0 :=
    UInt32.toNat_inj.mp (informationWord_and_mask responseCode 0 hsev)
  exact ⟨_, _, _, deserialize_word (t := .informationCode) hleft (by rw [hlen]; simp)
    fun _ => hlow, ofWord_informationWord responseCode 0 hsev⟩

/-- The values are coded as the encoding promises exactly if they name no object type, or
have a severity class the encoding has no room for. -/
theorem encodes_iff (severity responseCode : UInt8) (objectType : UInt16) (tr : Treatment)
    (unique : Bool) :
    Encodes (new severity responseCode objectType tr unique : AnslpObject α) severity
        responseCode objectType ↔ objectType = 0 ∨ 16 ≤ severity.toNat := by
  rw [Encodes, checkBody_new, representable_iff]
  constructor
  · rintro ⟨-, hcheck⟩
    by_cases hsev : severity.toNat < 16
    · exact .inl (hcheck.mpr hsev).2
    · exact .inr (Nat.not_lt.mp hsev)
  · rintro (rfl | hsev)
    · exact ⟨fun hsev m hroom => readBack hsev hroom, by simp⟩
    · have hnot : ¬ severity.toNat < 16 := Nat.not_lt.mpr hsev
      exact ⟨fun h => absurd h hnot, iff_of_false (fun h => hnot h.1) hnot⟩

end Coding

/-- A success code about a CREATE, as it is built by a caller that names the object type,
is refused. -/
theorem not_encodes_create :
    ¬ Encodes (new AnslpMsg.scSuccess AnslpMsg.sucSuccessfullyProcessed 1 .mandatory true :
      AnslpObject RawIpap) AnslpMsg.scSuccess AnslpMsg.sucSuccessfullyProcessed 1 := by
  rintro ⟨-, hcheck⟩
  have hrefused := checkBody_new.mp (hcheck.mpr (representable_iff.mpr (by decide)))
  exact absurd hrefused.2 (by decide)

end InformationCode

end Anslp
