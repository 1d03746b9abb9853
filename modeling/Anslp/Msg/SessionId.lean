import Anslp.Lib.Numerals
import Anslp.Msg.Ntlp

/-!
# Session identifiers as texts

The text of a session identifier, four decimal numbers between dots, and the constructor
that reads such a text back.  The definitions follow {lit}`session_id`.

The constructor cuts the text at its dots and stores each part in an array of five words
before it checks the part, and the number of parts at the very end.  A text without a dot
is taken twice, by the body of the loop and by the code behind it.

Main results:

- Theorem {lit}`cutLoop_eq`: the loop goes through the parts between the dots in order.
- Theorem {lit}`ofString_toString`: the constructor inverts the printer.
- Theorem {lit}`readSafely_iff`: the texts for which the array is not overrun and just
  the well-formed ones are accepted.

Current gaps:

- None for the constructor and the printing; how identifiers are generated is left out.
-/

namespace Anslp

open Numerals

namespace SessionId

/-! ## The four words -/

def w1 (id : SessionId) : UInt32 :=
  UInt32.ofBitVec (id.extractLsb' 96 32)

def w2 (id : SessionId) : UInt32 :=
  UInt32.ofBitVec (id.extractLsb' 64 32)

def w3 (id : SessionId) : UInt32 :=
  UInt32.ofBitVec (id.extractLsb' 32 32)

def w4 (id : SessionId) : UInt32 :=
  UInt32.ofBitVec (id.extractLsb' 0 32)

/-- The identifier of four words. -/
def ofWords (w1 w2 w3 w4 : UInt32) : SessionId :=
  w1.toBitVec ++ w2.toBitVec ++ w3.toBitVec ++ w4.toBitVec

/-- An identifier is its four words. -/
@[simp]
theorem ofWords_words (id : SessionId) : ofWords id.w1 id.w2 id.w3 id.w4 = id := by
  apply BitVec.eq_of_getLsbD_eq
  intro i hi
  simp only [ofWords, w1, w2, w3, w4, BitVec.getLsbD_append, BitVec.getLsbD_extractLsb']
  split_ifs <;> grind

/-! ## Printing -/

/-- {lit}`snprintf` of a word into a buffer of eleven characters. -/
def printWord (w : UInt32) : Text :=
  (printNat w.toNat).take 10

def toString (id : SessionId) : Text :=
  printWord id.w1 ++ ['.'] ++ printWord id.w2 ++ ['.'] ++ printWord id.w3 ++ ['.'] ++
    printWord id.w4

/-! ## Reading -/

/-- How the constructor fails: it throws an error, which has no severity and no code, or it
writes behind the array. -/
inductive Failure
  | requestError (msg : Text) (exp : RequestError)
  | outOfBounds
deriving DecidableEq

/-- Size of the array of parts. -/
def partsSize : Nat := 5

/-- The text up to the next dot. -/
def nextPart (rest : Text) : Text :=
  rest.takeWhile fun c => c ≠ '.'

/-- The text behind the next dot, if there is one. -/
def behindDot (rest : Text) : Option Text :=
  match rest.dropWhile fun c => c ≠ '.' with
  | [] => none
  | _ :: rest' => some rest'

/-- A part is not empty and its C string is a number and nothing behind it. -/
def Accepted (part : Text) : Prop :=
  part ≠ [] ∧ strtoulEnd (cString part) = []

instance (part : Text) : Decidable (Accepted part) :=
  inferInstanceAs (Decidable (_ ∧ _))

/-- The number of a part is stored behind those of the parts before it, and the part is
checked after that. -/
def storePart (sessionId part : Text) (parts : List UInt64) : Except Failure (List UInt64) :=
  if parts.length < partsSize then
    if Accepted part then .ok (parts ++ [strtoul (cString part)])
    else .error (.requestError ("Invalid session Id:".toList ++ sessionId) ⟨0, 0⟩)
  else .error .outOfBounds

theorem length_of_behindDot {rest rest' : Text} (h : behindDot rest = some rest') :
    rest'.length < rest.length := by
  unfold behindDot at h
  have hle := List.length_dropWhile_le (p := fun c => decide (c ≠ '.')) rest
  split at h
  · cases h
  · rename_i c cs heq
    cases h
    rw [heq, List.length_cons] at hle
    omega

/-- The loop from a position on, and the last part behind it. -/
def cutLoop (sessionId rest : Text) (parts : List UInt64) : Except Failure (List UInt64) :=
  match _h : behindDot rest with
  | some rest' => do
      let parts ← storePart sessionId (nextPart rest) parts
      cutLoop sessionId rest' parts
  | none => storePart sessionId rest parts
termination_by rest.length
decreasing_by exact length_of_behindDot ‹_›

/-- The parts of a text.  Without a dot the position behind it wraps around to the start of
the text, and the whole text is taken again. -/
def cutParts (sessionId : Text) : Except Failure (List UInt64) :=
  match behindDot sessionId with
  | some _ => cutLoop sessionId sessionId []
  | none => do
      let parts ← storePart sessionId sessionId []
      storePart sessionId sessionId parts

/-- The identifier of the parts stored, if these are four. -/
def ofParts (sessionId : Text) : List UInt64 → Except Failure SessionId
  | [p1, p2, p3, p4] => .ok (ofWords p1.toUInt32 p2.toUInt32 p3.toUInt32 p4.toUInt32)
  | parts =>
      .error (.requestError ("Invalid session Id:".toList ++ sessionId ++
        " number of parts".toList ++ printNat (parts.length - 1) ++ ['\n']) ⟨0, 0⟩)

/-- The identifier a text names. -/
def ofString (sessionId : Text) : Except Failure SessionId := do
  let parts ← cutParts sessionId
  ofParts sessionId parts

/-! ## The parts of a text -/

theorem dot_not_mem_nextPart (rest : Text) : '.' ∉ nextPart rest := by
  intro h
  have hne := List.mem_takeWhile_imp h
  simp at hne

theorem splitOn_of_behindDot {rest rest' : Text} (h : behindDot rest = some rest') :
    rest.splitOn '.' = nextPart rest :: rest'.splitOn '.' := by
  have hrest : rest = nextPart rest ++ '.' :: rest' := by
    unfold behindDot at h
    split at h
    · cases h
    · rename_i c cs heq
      cases h
      have hdot := List.head_dropWhile_not (fun c => decide (c ≠ '.')) (l := rest) (by
        rw [heq]
        exact List.cons_ne_nil _ _)
      simp only [heq, List.head_cons, decide_eq_false_iff_not, not_not] at hdot
      rw [← hdot, ← heq]
      exact List.takeWhile_append_dropWhile.symm
  rw [hrest, List.splitOn_append_cons_self_of_not_mem (dot_not_mem_nextPart rest), ← hrest]

theorem splitOn_of_behindDot_eq_none {rest : Text} (h : behindDot rest = none) :
    rest.splitOn '.' = [rest] := by
  apply List.splitOn_eq_singleton
  unfold behindDot at h
  split at h
  · rename_i heq
    intro hmem
    have hne := List.dropWhile_eq_nil_iff.mp heq '.' hmem
    simp at hne
  · cases h

/-- The parts stored one after the other. -/
def storeParts (sessionId : Text) (ps : List Text) (parts : List UInt64) :
    Except Failure (List UInt64) :=
  ps.foldlM (fun parts part => storePart sessionId part parts) parts

/-- The loop stores the parts between the dots, in order. -/
theorem cutLoop_eq (sessionId rest : Text) (parts : List UInt64) :
    cutLoop sessionId rest parts = storeParts sessionId (rest.splitOn '.') parts := by
  induction rest, parts using cutLoop.induct with
  | case1 rest parts rest' h ih =>
      unfold cutLoop
      split
      · rename_i rest'' hsome
        cases hsome.symm.trans h
        simp [splitOn_of_behindDot h, storeParts, ih]
      · rename_i hnone
        cases hnone.symm.trans h
  | case2 rest parts h =>
      unfold cutLoop
      split
      · rename_i rest' hsome
        cases hsome.symm.trans h
      · simp [splitOn_of_behindDot_eq_none h, storeParts]

section Storing

variable {sessionId part : Text} {ps : List Text} {parts words : List UInt64}

@[simp]
theorem storeParts_nil : storeParts sessionId [] parts = .ok parts :=
  rfl

theorem storeParts_cons :
    storeParts sessionId (part :: ps) parts =
      (storePart sessionId part parts).bind (storeParts sessionId ps) :=
  rfl

/-- A part stored and accepted is followed by the next one. -/
theorem storeParts_of_accepted (hroom : parts.length < partsSize) (h : Accepted part) :
    storeParts sessionId (part :: ps) parts =
      storeParts sessionId ps (parts ++ [strtoul (cString part)]) := by
  rw [storeParts_cons, storePart, if_pos hroom, if_pos h]
  rfl

/-- A part that is not accepted is the last one stored. -/
theorem storeParts_of_not_accepted (hroom : parts.length < partsSize) (h : ¬ Accepted part) :
    storeParts sessionId (part :: ps) parts =
      .error (.requestError ("Invalid session Id:".toList ++ sessionId) ⟨0, 0⟩) := by
  rw [storeParts_cons, storePart, if_pos hroom, if_neg h]
  rfl

theorem storeParts_of_full (hfull : ¬ parts.length < partsSize) :
    storeParts sessionId (part :: ps) parts = .error .outOfBounds := by
  rw [storeParts_cons, storePart, if_neg hfull]
  rfl

/-- All parts are stored if there is room for them and each is accepted. -/
theorem storeParts_eq_ok_iff (hle : parts.length ≤ partsSize) :
    storeParts sessionId ps parts = .ok words ↔
      parts.length + ps.length ≤ partsSize ∧ (∀ part ∈ ps, Accepted part) ∧
        words = parts ++ ps.map fun part => strtoul (cString part) := by
  induction ps generalizing parts with
  | nil => simp [hle, eq_comm]
  | cons part ps ih =>
      by_cases hroom : parts.length < partsSize
      · by_cases h : Accepted part
        · rw [storeParts_of_accepted hroom h, ih (by simpa using Nat.succ_le_of_lt hroom)]
          simp [h, Nat.add_assoc, Nat.add_comm 1]
        · rw [storeParts_of_not_accepted hroom h]
          simp [h]
      · rw [storeParts_of_full hroom]
        simp only [List.length_cons]
        constructor
        · rintro ⟨⟩
        · rintro ⟨hlen, -⟩
          omega

/-- The array is overrun if a part is left when it is full of accepted ones. -/
theorem storeParts_eq_outOfBounds_iff (hle : parts.length ≤ partsSize) :
    storeParts sessionId ps parts = .error .outOfBounds ↔
      partsSize < parts.length + ps.length ∧
        ∀ part ∈ ps.take (partsSize - parts.length), Accepted part := by
  induction ps generalizing parts with
  | nil =>
      simp only [storeParts_nil, List.length_nil]
      constructor
      · rintro ⟨⟩
      · rintro ⟨hlen, -⟩
        omega
  | cons part ps ih =>
      by_cases hroom : parts.length < partsSize
      · have htake : partsSize - parts.length = partsSize - (parts.length + 1) + 1 := by omega
        by_cases h : Accepted part
        · rw [storeParts_of_accepted hroom h, ih (by simpa using Nat.succ_le_of_lt hroom), htake]
          simp [h, Nat.add_assoc, Nat.add_comm 1]
        · rw [storeParts_of_not_accepted hroom h, htake]
          simp [h]
      · rw [storeParts_of_full hroom]
        have hzero : partsSize - parts.length = 0 := by omega
        simp only [hzero, List.take_zero, List.length_cons, true_iff]
        exact ⟨by omega, nofun⟩

end Storing

/-! ## What is accepted -/

variable {sessionId : Text}

/-- Parts stored that are not four are an error. -/
theorem ofParts_eq_ok_iff {parts : List UInt64} {id : SessionId} :
    ofParts sessionId parts = .ok id ↔
      ∃ p1 p2 p3 p4, parts = [p1, p2, p3, p4] ∧
        id = ofWords p1.toUInt32 p2.toUInt32 p3.toUInt32 p4.toUInt32 := by
  unfold ofParts
  split
  · simp [eq_comm]
  · rename_i hfour
    constructor
    · rintro ⟨⟩
    · rintro ⟨p1, p2, p3, p4, rfl, -⟩
      exact absurd rfl (hfour p1 p2 p3 p4)

theorem ofParts_ne_outOfBounds (parts : List UInt64) :
    ofParts sessionId parts ≠ .error .outOfBounds := by
  unfold ofParts
  split <;> nofun

/-- Without a dot there are two parts, or none accepted. -/
theorem ofString_of_behindDot_eq_none (h : behindDot sessionId = none) :
    ∃ msg, ofString sessionId = .error (.requestError msg ⟨0, 0⟩) := by
  have hparts : cutParts sessionId = storeParts sessionId [sessionId, sessionId] [] := by
    simp [cutParts, h, storeParts]
  rw [ofString, hparts]
  by_cases hacc : Accepted sessionId
  · rw [storeParts_of_accepted (by decide) hacc,
      storeParts_of_accepted (by simp [partsSize]) hacc]
    exact ⟨_, rfl⟩
  · rw [storeParts_of_not_accepted (by decide) hacc]
    exact ⟨_, rfl⟩

theorem ofString_of_behindDot {rest : Text} (h : behindDot sessionId = some rest) :
    ofString sessionId =
      (storeParts sessionId (sessionId.splitOn '.') []).bind (ofParts sessionId) := by
  simp only [ofString, cutParts, h, cutLoop_eq]
  rfl

/-- Texts that name an identifier: four parts, and each accepted. -/
theorem ofString_eq_ok_iff {id : SessionId} :
    ofString sessionId = .ok id ↔
      ∃ p1 p2 p3 p4, sessionId.splitOn '.' = [p1, p2, p3, p4] ∧
        (∀ part ∈ sessionId.splitOn '.', Accepted part) ∧
        id = ofWords (strtoul (cString p1)).toUInt32 (strtoul (cString p2)).toUInt32
          (strtoul (cString p3)).toUInt32 (strtoul (cString p4)).toUInt32 := by
  cases h : behindDot sessionId with
  | none =>
      rcases ofString_of_behindDot_eq_none h with ⟨msg, herror⟩
      rw [herror, splitOn_of_behindDot_eq_none h]
      simp
  | some rest =>
      rw [ofString_of_behindDot h]
      cases hstore : storeParts sessionId (sessionId.splitOn '.') [] with
      | error failure =>
          constructor
          · rintro ⟨⟩
          · rintro ⟨p1, p2, p3, p4, hsplit, hacc, -⟩
            have hok : storeParts sessionId (sessionId.splitOn '.') [] = .ok _ :=
              (storeParts_eq_ok_iff (by decide)).mpr ⟨by simp [hsplit, partsSize], hacc, rfl⟩
            cases hok.symm.trans hstore
      | ok words =>
          rcases (storeParts_eq_ok_iff (by decide)).mp hstore with ⟨-, hacc, hwords⟩
          simp only [Except.bind, ofParts_eq_ok_iff, hwords, List.nil_append]
          constructor
          · rintro ⟨n1, n2, n3, n4, hmap, rfl⟩
            simp only [List.map_eq_cons_iff, List.map_eq_nil_iff] at hmap
            rcases hmap with
              ⟨p1, _, hsplit, rfl, p2, _, rfl, rfl, p3, _, rfl, rfl, p4, _, rfl, rfl, rfl⟩
            exact ⟨p1, p2, p3, p4, hsplit, hacc, rfl⟩
          · rintro ⟨p1, p2, p3, p4, hsplit, -, rfl⟩
            exact ⟨_, _, _, _, by rw [hsplit]; rfl, rfl⟩

/-- Texts that overrun the array: six parts or more, and the first five accepted. -/
theorem ofString_eq_outOfBounds_iff (sessionId : Text) :
    ofString sessionId = .error .outOfBounds ↔
      partsSize < (sessionId.splitOn '.').length ∧
        ∀ part ∈ (sessionId.splitOn '.').take partsSize, Accepted part := by
  have hstored : storeParts sessionId (sessionId.splitOn '.') [] = .error .outOfBounds ↔ _ :=
    storeParts_eq_outOfBounds_iff (by decide)
  cases h : behindDot sessionId with
  | none =>
      rcases ofString_of_behindDot_eq_none h with ⟨msg, herror⟩
      rw [herror, splitOn_of_behindDot_eq_none h]
      simp [partsSize]
  | some rest =>
      rw [ofString_of_behindDot h]
      simp only [List.length_nil, Nat.zero_add, Nat.sub_zero] at hstored
      rw [← hstored]
      cases hstore : storeParts sessionId (sessionId.splitOn '.') [] with
      | error failure => simp [Except.bind]
      | ok words =>
          constructor
          · exact fun hbound => absurd hbound (ofParts_ne_outOfBounds words)
          · rintro ⟨⟩

/-! ## Reading back what was printed -/

/-- The buffer holds every word. -/
theorem printWord_eq (w : UInt32) : printWord w = printNat w.toNat := by
  apply List.take_of_length_le
  have hw : w.toNat < 2 ^ 32 := w.toNat_lt
  exact (Nat.length_toDigits_le_iff (by decide) (by decide)).mpr (by omega)

theorem not_mem_printNat {c : Char} (h : c.isDigit = false) (n : Nat) : c ∉ printNat n := by
  intro hmem
  rw [isDigit_of_mem_printNat hmem] at h
  cases h

theorem accepted_printNat (n : Nat) : Accepted (printNat n) := by
  refine ⟨printNat_ne_nil n, ?_⟩
  rw [cString_eq_self (not_mem_printNat (by decide) n)]
  exact strtoulEnd_printNat n

/-- A printed word is read back. -/
theorem strtoul_cString_printNat (w : UInt32) :
    (strtoul (cString (printNat w.toNat))).toUInt32 = w := by
  have hw : w.toNat < 2 ^ 32 := w.toNat_lt
  rw [cString_eq_self (not_mem_printNat (by decide) _), strtoul_printNat (by omega)]
  apply UInt32.toNat_inj.mp
  simp only [UInt64.toNat_toUInt32, UInt64.toNat_ofNat']
  omega

/-- The dots of a text that was printed are those between the words. -/
theorem splitOn_toString (id : SessionId) :
    (toString id).splitOn '.' =
      [printNat id.w1.toNat, printNat id.w2.toNat, printNat id.w3.toNat,
        printNat id.w4.toNat] := by
  have hdot : ∀ n, '.' ∉ printNat n := not_mem_printNat (by decide)
  simp only [toString, printWord_eq, List.append_assoc, List.cons_append,
    List.nil_append]
  rw [List.splitOn_append_cons_self_of_not_mem (hdot _),
    List.splitOn_append_cons_self_of_not_mem (hdot _),
    List.splitOn_append_cons_self_of_not_mem (hdot _), List.splitOn_eq_singleton (hdot _)]

/-- The constructor inverts the printer. -/
theorem ofString_toString (id : SessionId) : ofString (toString id) = .ok id := by
  rw [ofString_eq_ok_iff]
  refine ⟨_, _, _, _, splitOn_toString id, ?_, ?_⟩
  · rw [splitOn_toString]
    simp [accepted_printNat]
  · simp only [strtoul_cString_printNat, ofWords_words]

/-- Every identifier is read back from its text, and so no two have the same text. -/
theorem ofString_toString_and_injective :
    (∀ id, ofString (toString id) = .ok id) ∧ Function.Injective toString := by
  refine ⟨ofString_toString, fun a b htext => ?_⟩
  have hread := ofString_toString a
  rw [htext, ofString_toString b] at hread
  exact (Except.ok.inj hread).symm

/-! ## Which texts are read safely -/

/-- Four parts between dots, none of them empty, that {lit}`strtoul` consumes
completely. -/
def FourNumbers (sessionId : Text) : Prop :=
  (sessionId.splitOn '.').length = 4 ∧
    ∀ part ∈ sessionId.splitOn '.', part ≠ [] ∧ strtoulEnd part = []

/-- The constructor stays inside the array, and it throws unless the text is four
numbers. -/
def ReadSafely (sessionId : Text) : Prop :=
  ofString sessionId ≠ .error .outOfBounds ∧
    ((∃ msg exp, ofString sessionId = .error (.requestError msg exp)) ↔ ¬ FourNumbers sessionId)

/-- A part is accepted if it is consumed completely, or up to a NUL in it. -/
theorem accepted_iff_of_nul_not_mem {part : Text} (h : nul ∉ part) :
    Accepted part ↔ part ≠ [] ∧ strtoulEnd part = [] := by
  rw [Accepted, cString_eq_self h]

/-- Four numbers are four accepted parts without a NUL. -/
theorem fourNumbers_iff (sessionId : Text) :
    FourNumbers sessionId ↔
      (sessionId.splitOn '.').length = 4 ∧ (∀ part ∈ sessionId.splitOn '.', Accepted part) ∧
        ∀ part ∈ sessionId.splitOn '.', nul ∉ part := by
  apply and_congr_right
  intro _
  constructor
  · intro h
    have hnul : ∀ part ∈ sessionId.splitOn '.', nul ∉ part := fun part hpart =>
      nul_not_mem_of_strtoulEnd (h part hpart).2
    exact ⟨fun part hpart => (accepted_iff_of_nul_not_mem (hnul part hpart)).mpr (h part hpart),
      hnul⟩
  · rintro ⟨hacc, hnul⟩ part hpart
    exact (accepted_iff_of_nul_not_mem (hnul part hpart)).mp (hacc part hpart)

/-- The texts the constructor accepts are those of four accepted parts. -/
theorem exists_ofString_eq_ok_iff (sessionId : Text) :
    (∃ id, ofString sessionId = .ok id) ↔
      (sessionId.splitOn '.').length = 4 ∧ ∀ part ∈ sessionId.splitOn '.', Accepted part := by
  simp only [ofString_eq_ok_iff]
  constructor
  · rintro ⟨id, p1, p2, p3, p4, hsplit, hacc, -⟩
    exact ⟨by rw [hsplit]; rfl, hacc⟩
  · rintro ⟨hlen, hacc⟩
    obtain ⟨p1, p2, p3, p4, hsplit⟩ := List.length_eq_four.mp hlen
    exact ⟨_, p1, p2, p3, p4, hsplit, hacc, rfl⟩

/-- A text is read safely unless it has six parts or more, the first five of them numbers,
or four parts that are numbers up to a NUL in one of them. -/
theorem readSafely_iff (sessionId : Text) :
    ReadSafely sessionId ↔
      ¬ (5 < (sessionId.splitOn '.').length ∧
          ∀ part ∈ (sessionId.splitOn '.').take 5, Accepted part) ∧
        ¬ ((sessionId.splitOn '.').length = 4 ∧
          (∀ part ∈ sessionId.splitOn '.', Accepted part) ∧
          ∃ part ∈ sessionId.splitOn '.', nul ∈ part) := by
  have hok := exists_ofString_eq_ok_iff sessionId
  have hbound := ofString_eq_outOfBounds_iff sessionId
  have hfour := fourNumbers_iff sessionId
  unfold ReadSafely
  cases hread : ofString sessionId with
  | ok id =>
      -- accepted parts are numbers unless there is a NUL in one
      obtain ⟨hlen, hacc⟩ := hok.mp ⟨id, hread⟩
      have hnumbers : FourNumbers sessionId ↔ ∀ part ∈ sessionId.splitOn '.', nul ∉ part := by
        rw [hfour]
        exact ⟨fun h => h.2.2, fun h => ⟨hlen, hacc, h⟩⟩
      constructor
      · rintro ⟨-, hthrow⟩
        refine ⟨fun hover => by omega, ?_⟩
        rintro ⟨-, -, part, hpart, hnul⟩
        obtain ⟨msg, exp, hthrown⟩ := hthrow.mpr fun h => hnumbers.mp h part hpart hnul
        cases hthrown
      · rintro ⟨-, hwhole⟩
        refine ⟨nofun, iff_of_false (by rintro ⟨msg, exp, ⟨⟩⟩) (not_not.mpr ?_)⟩
        exact hnumbers.mpr fun part hpart hnul => hwhole ⟨hlen, hacc, part, hpart, hnul⟩
  | error failure =>
      have hrefused : ¬ ((sessionId.splitOn '.').length = 4 ∧
          ∀ part ∈ sessionId.splitOn '.', Accepted part) := by
        intro haccepted
        obtain ⟨id, hid⟩ := hok.mpr haccepted
        cases hid.symm.trans hread
      cases failure with
      | outOfBounds =>
          have hover := hbound.mp hread
          exact ⟨fun h => absurd rfl h.1, fun h => absurd hover h.1⟩
      | requestError msg exp =>
          have hinside := mt hbound.mpr (by rw [hread]; nofun)
          refine iff_of_true ⟨nofun, ?_⟩ ⟨hinside, fun h => hrefused ⟨h.1, h.2.1⟩⟩
          exact iff_of_true ⟨msg, exp, rfl⟩ fun h =>
            hrefused ⟨(hfour.mp h).1, (hfour.mp h).2.1⟩

/-- The sixth part of a text is stored behind the array. -/
theorem not_readSafely_six_parts : ¬ ReadSafely "1.2.3.4.5.6".toList := by
  have hbound : ofString "1.2.3.4.5.6".toList = .error .outOfBounds := by
    rw [ofString_eq_outOfBounds_iff]
    decide
  exact fun h => h.1 hbound

end SessionId

end Anslp
