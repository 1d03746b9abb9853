import Anslp.Msg.Message
import Anslp.Msg.RawIpap

/-!
# What the decoder does with any buffer

The objects of a buffer are framed by their headers.  {lit}`Taken` says which object
the decoder accepts at a header, {lit}`Defect` names the headers at which it leaves its
contract (an exception that escapes, or a NULL result without an error entry), and
{lit}`Reaches` walks from header to header over the objects it accepts.

Main results:

- Theorem {lit}`deserializeObject_outcome`: reading one object accepts it, meets a
  defect or is refused with an error entry.
- Theorem {lit}`deserializeObjects_spec`: the loop over the objects of a message.
- Theorem {lit}`deserialize_isDecoded`: what a decoded message consists of.
- Theorem {lit}`decodesSafely_iff`: the buffers on which the decoder keeps its contract.

Current gaps:

- None for buffers of fewer than {lit}`2 ^ 32` bytes.
-/

namespace Anslp

open AnslpObject

namespace Decoding

variable {α : Type} [IpapMessage α] {headerRaw : UInt32} {rest : List UInt8}

/-- The object that is accepted at a header, and the bytes behind it. -/
inductive Taken (headerRaw : UInt32) (rest : List UInt8) :
    AnslpObject α → List UInt8 → Prop
  | word (t : FixedType) (value : UInt32) (tl : List UInt8)
      (htype : extractObjectType headerRaw = t.objectType)
      (hrest : rest = Words.bytes32 value ++ tl)
      (hlen : extractBodyLength headerRaw ≤ rest.length)
      (hcheck : t = .informationCode → value &&& 0xFFFF = 0) :
      Taken headerRaw rest (ofHeaderWord t headerRaw value) tl
  | ipap (m : α) (n : Nat)
      (htype : extractObjectType headerRaw = ipapObjectType)
      (hlen : extractBodyLength headerRaw ≤ rest.length)
      (himport : IpapMessage.ipapImport (rest.take (extractBodyLength headerRaw)) = some (m, n))
      (hpad : ∀ b ∈ (rest.take (extractBodyLength headerRaw)).drop n, b = 0) :
      Taken headerRaw rest (ofHeaderIpap headerRaw m)
        (rest.drop (extractBodyLength headerRaw))

variable (α) in
/-- A header at which the decoder leaves its contract: a one word object that declares
an empty body at the end of the buffer, an IPAP message the library refuses, and bytes
other than zero behind an IPAP message. -/
inductive Defect (headerRaw : UInt32) (rest : List UInt8) : Prop
  | wordMissing (t : FixedType)
      (htype : extractObjectType headerRaw = t.objectType)
      (hlen : extractBodyLength headerRaw ≤ rest.length) (hshort : rest.length < 4)
  | importFails
      (htype : extractObjectType headerRaw = ipapObjectType)
      (hlen : extractBodyLength headerRaw ≤ rest.length)
      (himport : IpapMessage.ipapImport (α := α)
        (rest.take (extractBodyLength headerRaw)) = none)
  | paddingNotZero (m : α) (n : Nat)
      (htype : extractObjectType headerRaw = ipapObjectType)
      (hlen : extractBodyLength headerRaw ≤ rest.length)
      (himport : IpapMessage.ipapImport (rest.take (extractBodyLength headerRaw)) = some (m, n))
      (hpad : ∃ b ∈ (rest.take (extractBodyLength headerRaw)).drop n, b ≠ 0)

variable (α) in
/-- Walking over accepted objects from one position to another, given the types of the
objects before.  An object that may occur once only is not passed a second time. -/
inductive Reaches : List UInt16 → List UInt8 → List UInt8 → Prop
  | here {seen : List UInt16} {bs : List UInt8} : Reaches seen bs bs
  | behind {seen : List UInt16} {headerRaw : UInt32} {rest tl bs : List UInt8}
      {o : AnslpObject α} (htaken : Taken headerRaw rest o tl)
      (hnew : o.isUnique = true → o.objectType ∉ seen)
      (hrest : Reaches (o.objectType :: seen) tl bs) :
      Reaches seen (Words.bytes32 headerRaw ++ rest) bs

variable (α) in
/-- A defect is met on the walk from a position. -/
def MeetsDefectFrom (seen : List UInt16) (bs : List UInt8) : Prop :=
  ∃ headerRaw rest, Reaches α seen bs (Words.bytes32 headerRaw ++ rest) ∧
    Defect α headerRaw rest

variable (α) in
/-- A defect is met in a buffer: its first word is a header of a registered message
type, and the walk over the objects behind it comes to a defect. -/
def MeetsDefect (buffer : List UInt8) : Prop :=
  ∃ msgHeader body, buffer = Words.bytes32 msgHeader ++ body ∧
    (MsgKind.ofMsgType? (AnslpMsg.extractMsgType msgHeader)).isSome = true ∧
    MeetsDefectFrom α [] body

/-- What the decoder promises: no exception escapes, a NULL result comes with at least
one new error entry, and a message leaves the error list as it was. -/
def DecodesSafely {β : Type} (err : IEErrorList) (r : Except Escape (Option β × IEErrorList)) :
    Prop :=
  match r with
  | .error _ => False
  | .ok (none, err') => ∃ e es, err' = err ++ e :: es
  | .ok (some _, err') => err' = err

/-! ## One object -/

theorem bytes32_append_inj {w w' : UInt32} {rest rest' : List UInt8}
    (h : Words.bytes32 w ++ rest = Words.bytes32 w' ++ rest') : w = w' ∧ rest = rest' := by
  obtain ⟨hw, hrest⟩ := List.append_inj h rfl
  refine ⟨?_, hrest⟩
  have hw₀ := Words.word32_bytes32 w
  simp only [Words.bytes32, List.cons.injEq, and_true] at hw
  obtain ⟨h₀, h₁, h₂, h₃⟩ := hw
  rw [← hw₀, h₀, h₁, h₂, h₃, Words.word32_bytes32]

/-- Four bytes are the bytes of a word. -/
theorem exists_word {bs : List UInt8} (h : 4 ≤ bs.length) :
    ∃ w tl, bs = Words.bytes32 w ++ tl := by
  match bs with
  | b₀ :: b₁ :: b₂ :: b₃ :: tl =>
      exact ⟨Words.word32 b₀ b₁ b₂ b₃, tl, by rw [Words.bytes32_word32]; rfl⟩
  | [] | [_] | [_, _] | [_, _, _] =>
      simp only [List.length_cons, List.length_nil] at h
      omega

/-- No header is both accepted and defective. -/
theorem Taken.not_defect {o : AnslpObject α} {tl : List UInt8}
    (h : Taken headerRaw rest o tl) : ¬ Defect α headerRaw rest := by
  intro hd
  cases h with
  | word t value tl htype hrest hlen hcheck =>
      cases hd with
      | wordMissing u htype' hlen' hshort =>
          rw [hrest, List.length_append, Words.length_bytes32] at hshort
          omega
      | importFails htype' => exact t.objectType_ne_ipap (htype.symm.trans htype')
      | paddingNotZero m n htype' => exact t.objectType_ne_ipap (htype.symm.trans htype')
  | ipap m n htype hlen himport hpad =>
      cases hd with
      | wordMissing u htype' => exact u.objectType_ne_ipap (htype'.symm.trans htype)
      | importFails htype' hlen' himport' => rw [himport] at himport'; cases himport'
      | paddingNotZero m' n' htype' hlen' himport' hpad' =>
          rw [himport] at himport'
          cases himport'
          obtain ⟨b, hb, hne⟩ := hpad'
          exact hne (hpad b hb)

/-- One header is accepted in one way. -/
theorem Taken.unique {o o' : AnslpObject α} {tl tl' : List UInt8}
    (h : Taken headerRaw rest o tl) (h' : Taken headerRaw rest o' tl') : o = o' ∧ tl = tl' := by
  cases h with
  | word t value tl htype hrest hlen hcheck =>
      cases h' with
      | word t' value' tl' htype' hrest' hlen' hcheck' =>
          obtain ⟨rfl, rfl⟩ := bytes32_append_inj (hrest.symm.trans hrest')
          obtain rfl := FixedType.objectType_injective (htype.symm.trans htype')
          exact ⟨rfl, rfl⟩
      | ipap m n htype' => exact absurd (htype.symm.trans htype') t.objectType_ne_ipap
  | ipap m n htype hlen himport hpad =>
      cases h' with
      | word t' value' tl' htype' =>
          exact absurd (htype'.symm.trans htype) t'.objectType_ne_ipap
      | ipap m' n' htype' hlen' himport' =>
          rw [himport] at himport'
          cases himport'
          exact ⟨rfl, rfl⟩

theorem Taken.not_of_length_lt {o : AnslpObject α} {tl : List UInt8}
    (h : rest.length < extractBodyLength headerRaw) : ¬ Taken headerRaw rest o tl := by
  rintro (⟨_, _, _, _, _, hlen⟩ | ⟨_, _, _, hlen⟩) <;> omega

theorem Defect.not_of_length_lt (h : rest.length < extractBodyLength headerRaw) :
    ¬ Defect α headerRaw rest := by
  rintro (⟨_, _, hlen⟩ | ⟨_, hlen⟩ | ⟨_, _, _, hlen⟩) <;> omega

/-- The ways reading one object can end. -/
inductive Outcome (m : NetMsg) (err : IEErrorList) (headerRaw : UInt32) (rest : List UInt8) :
    Except Escape (Option (AnslpObject α × NetMsg × Nat) × IEErrorList) → Prop
  | taken {o : AnslpObject α} {m' : NetMsg} {tl : List UInt8} {n : Nat}
      (htaken : Taken headerRaw rest o tl) (hleft : m'.left = tl)
      (hlen : n + tl.length = m.left.length) (hn : 4 ≤ n) :
      Outcome m err headerRaw rest (.ok (some (o, m', n), err))
  | escaped {e : Escape} (hdefect : Defect α headerRaw rest) :
      Outcome m err headerRaw rest (.error e)
  | silent (hdefect : Defect α headerRaw rest) :
      Outcome m err headerRaw rest (.ok (none, err))
  | refused {e : IEError} (hdefect : ¬ Defect α headerRaw rest)
      (htaken : ∀ (o : AnslpObject α) (tl : List UInt8), ¬ Taken headerRaw rest o tl) :
      Outcome m err headerRaw rest (.ok (none, err.put e))

theorem newObject_fixed (t : FixedType) :
    IEManager.newObject (α := α) t.objectType = some (newFixed t) := by
  simp only [IEManager.newObject, FixedType.ofObjectType?_objectType]

theorem newObject_ipap :
    IEManager.newObject (α := α) ipapObjectType =
      some (ofIpap .mandatory IpapMessage.new) := by
  simp only [IEManager.newObject, show FixedType.ofObjectType? ipapObjectType = none by decide,
    if_true]

theorem newObject_none {objectType : UInt16} (hfixed : ∀ t : FixedType, objectType ≠ t.objectType)
    (hipap : objectType ≠ ipapObjectType) : IEManager.newObject (α := α) objectType = none := by
  cases h : FixedType.ofObjectType? objectType with
  | some t => exact absurd (FixedType.objectType_of_ofObjectType? h).symm (hfixed t)
  | none => simp only [IEManager.newObject, h, if_neg hipap]

/-- Reading an object with the class its header asks for. -/
theorem deserializeObject_eq {m : NetMsg} {err : IEErrorList} {skip : Bool}
    {o : AnslpObject α} (hleft : m.left = Words.bytes32 headerRaw ++ rest)
    (hnew : IEManager.newObject (extractObjectType headerRaw) = some o) :
    IEManager.deserializeObject m err skip = o.deserialize m err skip := by
  simp only [IEManager.deserializeObject, NetMsg.peek32_eq hleft, hnew]

theorem deserializeObject_unknown {m : NetMsg} {err : IEErrorList} {skip : Bool}
    (hleft : m.left = Words.bytes32 headerRaw ++ rest)
    (hnew : IEManager.newObject (α := α) (extractObjectType headerRaw) = none) :
    IEManager.deserializeObject (α := α) m err skip = .ok (none, err.put .wrongSubtype) := by
  simp only [IEManager.deserializeObject, NetMsg.peek32_eq hleft, hnew]

/-- The outcome at the type of a one word class. -/
theorem outcome_fixed {m : NetMsg} (err : IEErrorList) {t : FixedType}
    (hleft : m.left = Words.bytes32 headerRaw ++ rest)
    (htype : extractObjectType headerRaw = t.objectType) :
    Outcome (α := α) m err headerRaw rest ((newFixed t).deserialize m err false) := by
  by_cases hlen : rest.length < extractBodyLength headerRaw
  · rw [deserialize_of_length_lt hleft hlen]
    exact .refused (Defect.not_of_length_lt hlen) fun _ _ => Taken.not_of_length_lt hlen
  · have hlen := Nat.not_lt.mp hlen
    by_cases hshort : rest.length < 4
    · rw [deserialize_of_short hleft hlen hshort]
      exact .escaped (.wordMissing t htype hlen hshort)
    · rcases exists_word (Nat.not_lt.mp hshort) with ⟨value, tl, rfl⟩
      have hlen' : extractBodyLength headerRaw ≤ 4 + tl.length := by simpa using hlen
      by_cases hcheck : t = .informationCode → value &&& 0xFFFF = 0
      · rw [deserialize_word hleft hlen' hcheck]
        refine .taken (.word t value tl htype rfl hlen hcheck) ?_ ?_ (by omega)
        · simp [hleft, Words.bytes32]
        · simp [hleft]
          omega
      · rcases Classical.not_imp.mp hcheck with ⟨rfl, hne⟩
        rcases deserialize_informationCode_of_ne (α := α) err hleft hlen' hne with ⟨e, he⟩
        rw [he]
        refine .refused ?_ ?_
        · rintro (⟨u, _, _, h⟩ | ⟨h⟩ | ⟨_, _, h⟩)
          · rw [List.length_append, Words.length_bytes32] at h
            omega
          · exact FixedType.objectType_ne_ipap _ (htype.symm.trans h)
          · exact FixedType.objectType_ne_ipap _ (htype.symm.trans h)
        · rintro o tl' (⟨u, value', _, htype', hrest, _, h⟩ | ⟨_, _, h⟩)
          · rcases bytes32_append_inj hrest with ⟨rfl, -⟩
            exact hne (h (FixedType.objectType_injective (htype'.symm.trans htype)))
          · exact FixedType.objectType_ne_ipap _ (htype.symm.trans h)

/-- The outcome at the type of IPAP message objects. -/
theorem outcome_ipap {m : NetMsg} (err : IEErrorList) {o : α}
    (hleft : m.left = Words.bytes32 headerRaw ++ rest)
    (htype : extractObjectType headerRaw = ipapObjectType) :
    Outcome (α := α) m err headerRaw rest
      ((ofIpap .mandatory o).deserialize m err false) := by
  by_cases hlen : rest.length < extractBodyLength headerRaw
  · rw [deserialize_of_length_lt hleft hlen]
    exact .refused (Defect.not_of_length_lt hlen) fun _ _ => Taken.not_of_length_lt hlen
  · have hlen := Nat.not_lt.mp hlen
    have hbody : (rest.take (extractBodyLength headerRaw)).length =
        extractBodyLength headerRaw := List.length_take_of_le hlen
    have hsplit : m.left = Words.bytes32 headerRaw ++
        (rest.take (extractBodyLength headerRaw) ++
          rest.drop (extractBodyLength headerRaw)) := by
      rw [List.take_append_drop, hleft]
    rw [deserialize_ipap hsplit hbody]
    cases himport : IpapMessage.ipapImport (α := α)
        (rest.take (extractBodyLength headerRaw)) with
    | none => exact .escaped (.importFails htype hlen himport)
    | some r =>
        rcases r with ⟨message, n⟩
        by_cases hpad : ((rest.take (extractBodyLength headerRaw)).drop n).any (· != 0) = true
        · simp only [hpad, if_true]
          exact .silent (.paddingNotZero message n htype hlen himport (by simpa using hpad))
        · simp only [hpad]
          refine .taken (.ipap message n htype hlen himport (by simpa using hpad))
            ?_ ?_ (by omega)
          · rw [NetMsg.left_advance, hbody, hleft, ← List.drop_drop]
            simp [Words.bytes32]
          · rw [hbody, hleft, List.length_append, Words.length_bytes32, List.length_drop]
            omega

/-- The outcome at any header: it depends on the class registered for the type. -/
theorem deserializeObject_outcome {m : NetMsg} (err : IEErrorList)
    (hleft : m.left = Words.bytes32 headerRaw ++ rest) :
    Outcome (α := α) m err headerRaw rest (IEManager.deserializeObject m err false) := by
  by_cases hfixed : ∃ t : FixedType, extractObjectType headerRaw = t.objectType
  · rcases hfixed with ⟨t, htype⟩
    rw [deserializeObject_eq hleft (htype ▸ newObject_fixed t)]
    exact outcome_fixed err hleft htype
  · have hnot := not_exists.mp hfixed
    by_cases htype : extractObjectType headerRaw = ipapObjectType
    · rw [deserializeObject_eq hleft (htype ▸ newObject_ipap)]
      exact outcome_ipap err hleft htype
    · rw [deserializeObject_unknown hleft (newObject_none hnot htype)]
      refine .refused ?_ ?_
      · rintro (⟨u, h⟩ | ⟨h⟩ | ⟨_, _, h⟩)
        · exact hnot u h
        · exact htype h
        · exact htype h
      · rintro o tl (⟨u, _, _, h⟩ | ⟨_, _, h⟩)
        · exact hnot u h
        · exact htype h

/-- A header that is accepted is read as the object it is accepted as. -/
theorem deserializeObject_of_taken {m : NetMsg} (err : IEErrorList) {o : AnslpObject α}
    {tl : List UInt8} (hleft : m.left = Words.bytes32 headerRaw ++ rest)
    (htaken : Taken headerRaw rest o tl) :
    ∃ m' n, IEManager.deserializeObject m err false = .ok (some (o, m', n), err) ∧
      m'.left = tl ∧ n + tl.length = m.left.length ∧ 4 ≤ n := by
  have houtcome := deserializeObject_outcome (α := α) err hleft
  cases hobj : IEManager.deserializeObject (α := α) m err false with
  | error e =>
      rw [hobj] at houtcome
      cases houtcome with
      | escaped hdefect => exact absurd hdefect htaken.not_defect
  | ok r =>
      rw [hobj] at houtcome
      cases houtcome with
      | silent hdefect => exact absurd hdefect htaken.not_defect
      | refused _ hnot => exact absurd htaken (hnot o tl)
      | taken htaken' hleft' hlen hn =>
          obtain ⟨rfl, rfl⟩ := htaken.unique htaken'
          exact ⟨_, _, rfl, hleft', hlen, hn⟩

/-! ## All objects of a buffer -/

theorem not_meetsDefectFrom_of_length_lt {seen : List UInt16} {bs : List UInt8}
    (h : bs.length < 4) : ¬ MeetsDefectFrom α seen bs := by
  rintro ⟨w, tl, hreach, -⟩
  cases hreach with
  | here =>
      rw [List.length_append, Words.length_bytes32] at h
      omega
  | behind =>
      rw [List.length_append, Words.length_bytes32] at h
      omega

theorem Defect.meetsDefectFrom {seen : List UInt16} (h : Defect α headerRaw rest) :
    MeetsDefectFrom α seen (Words.bytes32 headerRaw ++ rest) :=
  ⟨headerRaw, rest, .here, h⟩

/-- Behind an accepted object the walk goes on. -/
theorem Taken.meetsDefectFrom_iff {seen : List UInt16} {o : AnslpObject α} {tl : List UInt8}
    (h : Taken headerRaw rest o tl) (hnew : o.isUnique = true → o.objectType ∉ seen) :
    MeetsDefectFrom α seen (Words.bytes32 headerRaw ++ rest) ↔
      MeetsDefectFrom α (o.objectType :: seen) tl := by
  constructor
  · rintro ⟨w, tl', hreach, hdefect⟩
    generalize hbs : Words.bytes32 headerRaw ++ rest = bs at hreach
    generalize hto : Words.bytes32 w ++ tl' = dest at hreach
    cases hreach with
    | here =>
        obtain ⟨rfl, rfl⟩ := bytes32_append_inj (hbs.trans hto.symm)
        exact absurd hdefect h.not_defect
    | behind htaken _ hrest =>
        obtain ⟨rfl, rfl⟩ := bytes32_append_inj hbs
        obtain ⟨rfl, rfl⟩ := h.unique htaken
        exact ⟨w, tl', hto ▸ hrest, hdefect⟩
  · rintro ⟨w, tl', hreach, hdefect⟩
    exact ⟨w, tl', .behind h hnew hreach, hdefect⟩

/-- The walk ends at a header that is refused, and before a second object of a type that
may occur once only. -/
theorem not_meetsDefectFrom {seen : List UInt16} (hdefect : ¬ Defect α headerRaw rest)
    (htaken : ∀ (o : AnslpObject α) (tl : List UInt8), Taken headerRaw rest o tl →
      o.isUnique = true ∧ o.objectType ∈ seen) :
    ¬ MeetsDefectFrom α seen (Words.bytes32 headerRaw ++ rest) := by
  rintro ⟨w, tl', hreach, hd⟩
  generalize hbs : Words.bytes32 headerRaw ++ rest = bs at hreach
  generalize hto : Words.bytes32 w ++ tl' = dest at hreach
  cases hreach with
  | here =>
      obtain ⟨rfl, rfl⟩ := bytes32_append_inj (hbs.trans hto.symm)
      exact hdefect hd
  | behind ht hnew _ =>
      obtain ⟨rfl, rfl⟩ := bytes32_append_inj hbs
      obtain ⟨hunique, hmem⟩ := htaken _ _ ht
      exact hnew hunique hmem

/-- An object whose IPAP message was imported from a body that fits a header. -/
def Imported (o : AnslpObject α) : Prop :=
  ∃ m bs n, o.body = .ipapMessage m ∧ IpapMessage.ipapImport bs = some (m, n) ∧
    bs.length ≤ 4 * 4095

/-- What is known of a message while it is read: its layout, that its objects passed
their checks, which types were seen, and that the buffer cannot hold more IPAP message
objects than there are sequence numbers. -/
structure Reading (a : AnslpMsg α) (v : MsgView α) (seen : List UInt16) (m : NetMsg) :
    Prop where
  view : a.HasView v
  checked : ∀ t o, v.fixed t = some o → o.check = true
  imported : ∀ o ∈ v.ipaps, Imported o
  seen_iff : ∀ t : FixedType, t.objectType ∈ seen ↔ (v.fixed t).isSome = true
  room : 4 * v.ipaps.length + m.bytesLeft < 2 ^ 32

theorem extractBodyLength_le (headerRaw : UInt32) : extractBodyLength headerRaw ≤ 4 * 4095 := by
  simp only [extractBodyLength, UInt32.toNat_and, UInt32.reduceToNat]
  rw [show 4095 = 2 ^ 12 - 1 by decide, Words.and_mask]
  omega

omit [IpapMessage α] in
theorem fixedType?_ofWord (t : FixedType) (value : UInt32) :
    (ofWord t value : Body α).fixedType? = some t := by
  cases t <;> rfl

/-- Storing an accepted object adds it to the layout. -/
theorem Reading.add {a : AnslpMsg α} {v : MsgView α} {seen : List UInt16} {m m' : NetMsg}
    {o : AnslpObject α} {tl : List UInt8} {n : Nat} (h : Reading a v seen m)
    (htaken : Taken headerRaw rest o tl) (hleft : m'.left = tl)
    (hlen : n + tl.length = m.left.length) (hn : 4 ≤ n) :
    Reading (a.setObject o) (v.add o) (o.objectType :: seen) m' := by
  have hroom := h.room
  have hbytes : n + m'.bytesLeft = m.bytesLeft := by
    simpa [NetMsg.bytesLeft, hleft] using hlen
  cases htaken with
  | word t value tl htype hrest hlen' hcheck =>
      have hfixed : (ofHeaderWord t headerRaw value : AnslpObject α).IsFixed t :=
        ⟨htype, rfl, fixedType?_ofWord t value⟩
      have hadd : v.add (ofHeaderWord t headerRaw value) =
          v.setFixed t (ofHeaderWord t headerRaw value) := by
        simp only [MsgView.add, hfixed.fixedType]
      rw [hadd]
      refine ⟨h.view.setObject_fixed hfixed, ?_, h.imported, ?_, ?_⟩
      · intro u o ho
        by_cases hu : u = t
        · subst hu
          simp only [MsgView.setFixed, Function.update_self, Option.some.injEq] at ho
          exact ho ▸ (check_ofHeaderWord u headerRaw value).mpr hcheck
        · simp only [MsgView.setFixed, Function.update_of_ne hu] at ho
          exact h.checked u o ho
      · intro u
        by_cases hu : u = t
        · subst hu
          simp [MsgView.setFixed, ofHeaderWord, htype]
        · have hne : u.objectType ≠ t.objectType := fun he =>
            hu (FixedType.objectType_injective he)
          simp [MsgView.setFixed, ofHeaderWord, htype, hne, Function.update_of_ne hu,
            h.seen_iff u]
      · simp only [MsgView.setFixed]
        omega
  | ipap message k htype hlen' himport hpad =>
      have hipap : (ofHeaderIpap headerRaw message : AnslpObject α).IsIpap :=
        ⟨htype, rfl, message, rfl⟩
      have hmax : v.ipaps.length < maxIpaps := by
        simp only [maxIpaps]
        omega
      have hadd : v.add (ofHeaderIpap headerRaw message) =
          v.addIpap (ofHeaderIpap headerRaw message) := rfl
      rw [hadd]
      refine ⟨h.view.setObject_ipap hipap hmax, h.checked, ?_, ?_, ?_⟩
      · intro o ho
        simp only [MsgView.addIpap, List.mem_append, List.mem_singleton] at ho
        rcases ho with ho | rfl
        · exact h.imported o ho
        · exact ⟨message, _, k, rfl, himport,
            le_trans (List.length_take_le _ _) (extractBodyLength_le headerRaw)⟩
      · intro u
        have hne : u.objectType ≠ ipapObjectType := u.objectType_ne_ipap
        simp [MsgView.addIpap, ofHeaderIpap, htype, hne, h.seen_iff u]
      · simp only [MsgView.addIpap, List.length_append, List.length_singleton]
        omega

/-- One round of the loop over the objects: an object is accepted and stored. -/
theorem deserializeObjects_round {rounds : Nat} {a a' : AnslpMsg α} {m m' : NetMsg}
    {err err' : IEErrorList} {n n' : Nat} (hmore : m.bytesLeft ≠ 0)
    (h : AnslpMsg.deserializeObjects false (rounds + 1) a m err n =
      .ok (some (a', m', n'), err')) :
    ∃ headerRaw rest o tl m₁ k, m.left = Words.bytes32 headerRaw ++ rest ∧
      Taken (α := α) headerRaw rest o tl ∧ m₁.left = tl ∧ k + tl.length = m.left.length ∧ 4 ≤ k ∧
      AnslpMsg.deserializeObjects false rounds (a.setObject o) m₁ err (n + k) =
        .ok (some (a', m', n'), err') := by
  simp only [AnslpMsg.deserializeObjects, if_neg hmore] at h
  by_cases hshort : m.bytesLeft < 4
  · have hpeek := (NetMsg.peek32_error_iff (e := .tooShort)).mpr hshort
    simp only [IEManager.deserializeObject, hpeek] at h
    cases h
  · obtain ⟨headerRaw, rest, hleft⟩ := exists_word (Nat.not_lt.mp hshort)
    have houtcome := deserializeObject_outcome (α := α) err hleft
    cases hobj : IEManager.deserializeObject (α := α) m err false with
    | error e =>
        rw [hobj] at h
        cases h
    | ok r =>
        rw [hobj] at houtcome h
        cases houtcome with
        | silent => cases h
        | refused => cases h
        | @taken o m₁ tl k htaken hleft' hlen hk =>
            simp only [Bool.false_eq_true, if_false] at h
            split at h
            · cases h
            · exact ⟨headerRaw, rest, o, tl, m₁, k, hleft, htaken, hleft', hlen, hk, h⟩

/-- The test for a second object of a type that may occur once only. -/
theorem Reading.duplicate_iff {a : AnslpMsg α} {v : MsgView α} {seen : List UInt16}
    {m : NetMsg} {o : AnslpObject α} {tl : List UInt8} (h : Reading a v seen m)
    (htaken : Taken headerRaw rest o tl) :
    (o.isUnique && (a.objects.get ⟨o.objectType.toUInt32, 1⟩).isSome) = true ↔
      o.isUnique = true ∧ o.objectType ∈ seen := by
  cases htaken with
  | word t value tl htype hrest hlen' hcheck =>
      have hget := h.view.store.get_fixed t
      simp only [FixedType.key] at hget
      simp [ofHeaderWord, htype, hget, h.seen_iff t]
  | ipap message k htype hlen' himport hpad => simp [ofHeaderIpap]

/-- The ways reading all objects of a message can end. -/
inductive LoopOutcome (kind : MsgKind) (err : IEErrorList) (seen : List UInt16)
    (bs : List UInt8) :
    Except Escape (Option (AnslpMsg α × NetMsg × Nat) × IEErrorList) → Prop
  | accepted {a : AnslpMsg α} {v : MsgView α} {seen' : List UInt16} {m : NetMsg} {n : Nat}
      (hdefect : ¬ MeetsDefectFrom α seen bs) (hkind : a.kind = kind)
      (hread : Reading a v seen' m) : LoopOutcome kind err seen bs (.ok (some (a, m, n), err))
  | refused {e : IEError} (hdefect : ¬ MeetsDefectFrom α seen bs) :
      LoopOutcome kind err seen bs (.ok (none, err.put e))
  | escaped {e : Escape} (hdefect : MeetsDefectFrom α seen bs) :
      LoopOutcome kind err seen bs (.error e)
  | silent (hdefect : MeetsDefectFrom α seen bs) :
      LoopOutcome kind err seen bs (.ok (none, err))

theorem deserializeObjects_spec {rounds : Nat} {a : AnslpMsg α} {v : MsgView α}
    {seen : List UInt16} {m : NetMsg} (err : IEErrorList) (n : Nat)
    (hread : Reading a v seen m) (hrounds : m.bytesLeft ≤ rounds) :
    LoopOutcome a.kind err seen m.left
      (AnslpMsg.deserializeObjects false rounds a m err n) := by
  induction rounds generalizing a v seen m n with
  | zero =>
      simp only [AnslpMsg.deserializeObjects]
      refine .accepted (not_meetsDefectFrom_of_length_lt ?_) rfl hread
      simp only [NetMsg.bytesLeft] at hrounds
      omega
  | succ rounds ih =>
      simp only [AnslpMsg.deserializeObjects]
      by_cases hend : m.bytesLeft = 0
      · rw [if_pos hend]
        refine .accepted (not_meetsDefectFrom_of_length_lt ?_) rfl hread
        simp only [NetMsg.bytesLeft] at hend
        omega
      · rw [if_neg hend]
        by_cases hshort : m.bytesLeft < 4
        · have hpeek := (NetMsg.peek32_error_iff (e := .tooShort)).mpr hshort
          simp only [IEManager.deserializeObject, hpeek]
          exact .refused (not_meetsDefectFrom_of_length_lt hshort)
        · obtain ⟨headerRaw, rest, hleft⟩ := exists_word (Nat.not_lt.mp hshort)
          have houtcome := deserializeObject_outcome (α := α) err hleft
          rw [hleft]
          cases hobj : IEManager.deserializeObject (α := α) m err false with
          | error e =>
              rw [hobj] at houtcome
              cases houtcome with
              | escaped hdefect => exact .escaped hdefect.meetsDefectFrom
          | ok r =>
              rw [hobj] at houtcome
              cases houtcome with
              | silent hdefect => exact .silent hdefect.meetsDefectFrom
              | refused hdefect htaken =>
                  exact .refused (not_meetsDefectFrom hdefect fun o tl h =>
                    absurd h (htaken o tl))
              | @taken o m' tl k htaken hleft' hlen hk =>
                  simp only
                  by_cases hdup : (o.isUnique &&
                      (a.objects.get ⟨o.objectType.toUInt32, 1⟩).isSome) = true
                  · simp only [hdup, if_true]
                    refine .refused (not_meetsDefectFrom htaken.not_defect ?_)
                    intro o' tl' h'
                    obtain ⟨rfl, rfl⟩ := htaken.unique h'
                    exact (hread.duplicate_iff htaken).mp hdup
                  · simp only [hdup]
                    have hread' := hread.add htaken hleft' hlen hk
                    have hnew : o.isUnique = true → o.objectType ∉ seen := fun hu hmem =>
                      hdup ((hread.duplicate_iff htaken).mpr ⟨hu, hmem⟩)
                    have hstep := ih (n + k) hread' (by
                      simp only [NetMsg.bytesLeft, hleft'] at hrounds ⊢
                      omega)
                    rw [AnslpMsg.kind_setObject, hleft'] at hstep
                    cases hloop : AnslpMsg.deserializeObjects false rounds (a.setObject o) m'
                        err (n + k) with
                    | error e =>
                        rw [hloop] at hstep
                        cases hstep with
                        | escaped hd => exact .escaped ((htaken.meetsDefectFrom_iff hnew).mpr hd)
                    | ok r =>
                        rw [hloop] at hstep
                        cases hstep with
                        | accepted hd hkind hr =>
                            exact .accepted (fun h => hd ((htaken.meetsDefectFrom_iff hnew).mp h))
                              hkind hr
                        | refused hd =>
                            exact .refused fun h => hd ((htaken.meetsDefectFrom_iff hnew).mp h)
                        | silent hd =>
                            exact .silent ((htaken.meetsDefectFrom_iff hnew).mpr hd)

/-! ## The decoder -/

theorem reading_new (kind : MsgKind) {m : NetMsg} :
    Reading (AnslpMsg.new kind : AnslpMsg α) MsgView.empty [] m where
  view := AnslpMsg.hasView_new kind
  checked := by simp [MsgView.empty]
  imported := by simp [MsgView.empty]
  seen_iff := by simp [MsgView.empty]
  room := by simpa [MsgView.empty] using m.bytesLeft_lt

/-- Without a header of a registered type the buffer is refused. -/
theorem deserialize_refused {m : NetMsg} (err : IEErrorList)
    (h : ∀ msgHeader body, m.left = Words.bytes32 msgHeader ++ body →
      MsgKind.ofMsgType? (AnslpMsg.extractMsgType msgHeader) = none) :
    ∃ e, IEManager.deserialize (α := α) m err false = .ok (none, err.put e) := by
  cases hpeek : m.peek32 with
  | error e => exact ⟨.msgTooShort .anslpMsg m.pos, by simp only [IEManager.deserialize, hpeek]⟩
  | ok msgHeader =>
      obtain ⟨body, hleft⟩ := NetMsg.left_of_peek32 hpeek
      exact ⟨.wrongType, by simp only [IEManager.deserialize, hpeek, h msgHeader body hleft]⟩

/-- With one, everything is up to the loop over the objects; a message without objects
is refused. -/
theorem deserialize_eq {m : NetMsg} {err : IEErrorList} {msgHeader : UInt32}
    {body : List UInt8} {kind : MsgKind} (hleft : m.left = Words.bytes32 msgHeader ++ body)
    (hkind : MsgKind.ofMsgType? (AnslpMsg.extractMsgType msgHeader) = some kind) :
    IEManager.deserialize (α := α) m err false =
      match AnslpMsg.deserializeObjects false (m.advance 4).bytesLeft (AnslpMsg.new kind)
        (m.advance 4) err 4 with
      | .error e => .error e
      | .ok (none, err') => .ok (none, err')
      | .ok (some (a, m', n), err') =>
          if a.getNumObjects = 0 then .ok (none, err'.put
            (.pduSyntaxError .anslpMsg 0 0 m.pos "message may not be empty"))
          else .ok (some (a, m', n), err') := by
  simp only [IEManager.deserialize, NetMsg.peek32_eq hleft, hkind, AnslpMsg.deserialize,
    NetMsg.decode32_eq hleft]
  rfl

/-- A decoded message is what the loop over the objects gives behind a header. -/
theorem deserialize_eq_ok {m m' : NetMsg} {err err' : IEErrorList} {a : AnslpMsg α} {n : Nat}
    (h : IEManager.deserialize m err false = .ok (some (a, m', n), err')) :
    ∃ msgHeader body kind, m.left = Words.bytes32 msgHeader ++ body ∧
      AnslpMsg.deserializeObjects false (m.advance 4).bytesLeft (AnslpMsg.new kind)
        (m.advance 4) err 4 = .ok (some (a, m', n), err') := by
  by_cases hreg : ∃ msgHeader body kind, m.left = Words.bytes32 msgHeader ++ body ∧
      MsgKind.ofMsgType? (AnslpMsg.extractMsgType msgHeader) = some kind
  · rcases hreg with ⟨msgHeader, body, kind, hleft, hkind⟩
    rw [deserialize_eq hleft hkind] at h
    refine ⟨msgHeader, body, kind, hleft, ?_⟩
    split at h
    · cases h
    · cases h
    · rename_i hloop
      split_ifs at h
      · cases h
      · rw [hloop, h]
  · have hnone : ∀ msgHeader body, m.left = Words.bytes32 msgHeader ++ body →
        MsgKind.ofMsgType? (AnslpMsg.extractMsgType msgHeader) = none := by
      intro msgHeader body hleft
      cases hkind : MsgKind.ofMsgType? (AnslpMsg.extractMsgType msgHeader) with
      | none => rfl
      | some kind => exact absurd ⟨msgHeader, body, kind, hleft, hkind⟩ hreg
    rcases deserialize_refused (α := α) err hnone with ⟨e, he⟩
    rw [he] at h
    cases h

/-- A decoded message has a layout whose objects passed their checks. -/
theorem deserialize_reading {m m' : NetMsg} {err err' : IEErrorList} {a : AnslpMsg α} {n : Nat}
    (h : IEManager.deserialize m err false = .ok (some (a, m', n), err')) :
    ∃ v seen, Reading a v seen m' := by
  rcases deserialize_eq_ok h with ⟨msgHeader, body, kind, hleft, hloop⟩
  have hspec := deserializeObjects_spec err 4
    (reading_new (α := α) kind (m := m.advance 4)) le_rfl
  rw [hloop] at hspec
  cases hspec with
  | @accepted _ v seen _ _ _ _ hread => exact ⟨v, seen, hread⟩

theorem deserialize_isDecoded {m m' : NetMsg} {err err' : IEErrorList} {a : AnslpMsg α}
    {n : Nat} (h : IEManager.deserialize m err false = .ok (some (a, m', n), err')) :
    a.IsDecoded := by
  obtain ⟨v, seen, hread⟩ := deserialize_reading h
  have hroom := hread.room
  exact ⟨v, hread.view, by omega⟩

/-- The decoder keeps its contract exactly on the buffers without a defect. -/
theorem decodesSafely_iff (m : NetMsg) (err : IEErrorList) :
    DecodesSafely err (IEManager.deserialize (α := α) m err false) ↔
      ¬ MeetsDefect α m.left := by
  by_cases hreg : ∃ msgHeader body kind, m.left = Words.bytes32 msgHeader ++ body ∧
      MsgKind.ofMsgType? (AnslpMsg.extractMsgType msgHeader) = some kind
  · obtain ⟨msgHeader, body, kind, hleft, hkind⟩ := hreg
    have hmeets : MeetsDefect α m.left ↔ MeetsDefectFrom α [] body := by
      constructor
      · rintro ⟨w, body', heq, _, h⟩
        obtain ⟨rfl, rfl⟩ := bytes32_append_inj (hleft.symm.trans heq)
        exact h
      · exact fun h => ⟨msgHeader, body, hleft, by simp [hkind], h⟩
    have hspec := deserializeObjects_spec err 4
      (reading_new (α := α) kind (m := m.advance 4)) le_rfl
    rw [NetMsg.left_advance_four hleft] at hspec
    rw [hmeets, deserialize_eq hleft hkind]
    cases hloop : AnslpMsg.deserializeObjects false (m.advance 4).bytesLeft
        (AnslpMsg.new kind : AnslpMsg α) (m.advance 4) err 4 with
    | error e =>
        rw [hloop] at hspec
        cases hspec with
        | escaped hdefect => simp [DecodesSafely, hdefect]
    | ok r =>
        rw [hloop] at hspec
        cases hspec with
        | silent hdefect => simp [DecodesSafely, hdefect]
        | refused hdefect => simp [DecodesSafely, hdefect, IEErrorList.put]
        | accepted hdefect _ _ =>
            simp only [hdefect, not_false_eq_true, iff_true]
            split_ifs <;> simp [DecodesSafely, IEErrorList.put]
  · have hnot : ∀ w body, m.left = Words.bytes32 w ++ body →
        MsgKind.ofMsgType? (AnslpMsg.extractMsgType w) = none := by
      intro w body hleft
      cases hk : MsgKind.ofMsgType? (AnslpMsg.extractMsgType w) with
      | none => rfl
      | some kind => exact absurd ⟨w, body, kind, hleft, hk⟩ hreg
    obtain ⟨e, he⟩ := deserialize_refused (α := α) err hnot
    have hmeets : ¬ MeetsDefect α m.left := by
      rintro ⟨w, body, hleft, hsome, _⟩
      rw [hnot w body hleft] at hsome
      cases hsome
    simp [he, DecodesSafely, hmeets, IEErrorList.put]

/-- A REFRESH that ends behind the header of a session lifetime of no words. -/
def truncatedRefresh : NetMsg :=
  .ofBytes [5, 0, 0, 0, 0, 0xF8, 0, 0] (by decide)

/-- The read error of the missing word leaves the decoder. -/
theorem truncatedRefresh_escapes :
    ¬ DecodesSafely [] (IEManager.deserialize (α := RawIpap) truncatedRefresh [] false) := by
  have h : IEManager.deserialize (α := RawIpap) truncatedRefresh [] false =
      .error .netMsgError := rfl
  simp only [h, DecodesSafely, not_false_eq_true]

end Decoding
end Anslp
