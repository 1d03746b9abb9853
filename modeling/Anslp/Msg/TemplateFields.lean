import Anslp.Lib.RawArray
import Anslp.Msg.XmlRoundTrip

/-!
# The array of template fields

For each template element the reader declares an array with as many entries as an
attribute of the element says, writes an entry for each field element below it, and
hands the array with this number to the library.  Nothing in a valid document relates
the two numbers.  Here the array is one whose entries have no value at first, and an
access that has no meaning is a fault.

Main results:

- Theorem {lit}`readTemplates_ne_fault_iff`: the lists of template elements that are read
  without a fault.
- Theorem {lit}`fromMessage_eq`: the reader without its array.
- Theorem {lit}`readsSafely_iff`: the documents read without a fault.

Current gaps:

- None for documents that are valid; other documents are refused before.
-/

namespace Anslp
namespace Xml

open Ipap Numerals Grouping

/-- Why the reader stops: with an error, or at an access to the array. -/
inductive Stop
  | error (e : XmlError)
  | fault (f : RawArray.Fault)
deriving DecidableEq, Repr

/-- The number of fields that a template element declares. -/
def numFields (cur : XmlNode) : Int32 :=
  atoi (cur.getProp .numFields)

/-- The type that a template element declares. -/
def templateType (cur : XmlNode) : UInt32 :=
  (atoi (cur.getProp .type)).toUInt32

/-- The id of a template element; one that is not a number leaves the variable for it
as it was. -/
def templateId (uninit : UInt16) (cur : XmlNode) : UInt16 :=
  (strToUint16 (cur.getProp .id)).getD uninit

/-- {lit}`ReadTemplateFields` with its array: each field goes to the next entry. -/
def readTemplateFieldsAt (fields : RawArray RawField) (index : Nat) :
    List XmlNode → Except RawArray.Fault (RawArray RawField)
  | [] => .ok fields
  | cur :: next =>
    if cur.hasName .tfield then
      match fields.write index (readTfield cur) with
      | .error f => .error f
      | .ok fields => readTemplateFieldsAt fields (index + 1) next
    else readTemplateFieldsAt fields index next

section Reader

variable {V : Type} (lib : Library V)

/-- Read a template into the message, through the array.  What an entry holds is taken
when the array is handed to {lit}`make_template`. -/
def readTemplateArray (uninit : UInt16) (message : Message V) (cur : XmlNode) :
    Except Stop (Message V) :=
  if numFields cur ≤ 0 then
    .error (.error (.error "Invalid template, non positive field number"))
  else
    match readTemplateFieldsAt (RawArray.alloc RawField (numFields cur).toInt.toNat) 0
        cur.children with
    | .error f => .error (.fault f)
    | .ok fields =>
      match fields.readFrom 0 with
      | .error f => .error (.fault f)
      | .ok raws =>
        match lib.makeTemplate message raws (templateType cur) (templateId uninit cur) with
        | none => .error (.error .library)
        | some message => .ok message

/-- Read the template elements one after the other; the id of each has a variable of
its own. -/
def readTemplates (uninit : Nat → UInt16) (message : Message V) :
    List XmlNode → Except Stop (Message V)
  | [] => .ok message
  | cur :: next =>
    match readTemplateArray lib (uninit next.length) message cur with
    | .error e => .error e
    | .ok message => readTemplates uninit message next

/-- {lit}`from_message` with the arrays of its templates. -/
def fromMessageArrays (uninit : Nat → UInt16) (doc : XmlNode) : Except Stop (Message V) :=
  if validate doc then
    match readTemplates lib uninit (readHeader lib doc)
        (doc.children.filter (XmlNode.hasName .template)) with
    | .error e => .error e
    | .ok message =>
      match (doc.children.filter (XmlNode.hasName .datarecord)).foldlM (readRecord lib)
          message with
      | .error e => .error (.error e)
      | .ok message => .ok message
  else .error (.error (.error ("xml does not validate against " ++ lib.dtdFilename)))

end Reader

variable {V : Type} {lib : Library V} {uninit : Nat → UInt16}

/-! ## One template -/

/-- Walking over the children writes the fields among them. -/
theorem readTemplateFieldsAt_eq (fields : RawArray RawField) (index : Nat)
    (children : List XmlNode) :
    readTemplateFieldsAt fields index children =
      fields.writeFrom index (readTemplateFields children) := by
  induction children generalizing fields index with
  | nil => rfl
  | cons cur next ih =>
    rw [readTemplateFieldsAt]
    by_cases hname : cur.hasName .tfield
    · have hcons : readTemplateFields (cur :: next) =
          readTfield cur :: readTemplateFields next := by
        rw [readTemplateFields, List.filter_cons_of_pos hname]
        rfl
      rw [if_pos hname, hcons, RawArray.writeFrom]
      cases fields.write index (readTfield cur) with
      | error f => rfl
      | ok fields' => exact ih fields' (index + 1)
    · have hskip : readTemplateFields (cur :: next) = readTemplateFields next := by
        rw [readTemplateFields, List.filter_cons_of_neg hname]
        rfl
      rw [if_neg hname, hskip]
      exact ih fields index

theorem readTemplateArray_eq (uninit : UInt16) (message : Message V) (cur : XmlNode) :
    readTemplateArray lib uninit message cur =
      if numFields cur ≤ 0 then
        .error (.error (.error "Invalid template, non positive field number"))
      else
        match RawArray.fill (numFields cur).toInt.toNat (readTemplateFields cur.children) with
        | .error f => .error (.fault f)
        | .ok raws =>
          match lib.makeTemplate message raws (templateType cur) (templateId uninit cur) with
          | none => .error (.error .library)
          | some message => .ok message := by
  rw [readTemplateArray, readTemplateFieldsAt_eq, RawArray.fill]
  cases (RawArray.alloc RawField (numFields cur).toInt.toNat).writeFrom 0
      (readTemplateFields cur.children) with
  | error f => rfl
  | ok fields => rfl

/-- The element declares as many fields as it has, or none. -/
def Declares (cur : XmlNode) : Prop :=
  0 < numFields cur → ((readTemplateFields cur.children).length : Int) = (numFields cur).toInt

instance (cur : XmlNode) : Decidable (Declares cur) :=
  inferInstanceAs (Decidable (_ → _))

/-- The element declares a positive number of fields, and has as many. -/
def Filled (cur : XmlNode) : Prop :=
  0 < numFields cur ∧
    ((readTemplateFields cur.children).length : Int) = (numFields cur).toInt

theorem fill_of_filled {cur : XmlNode} (h : Filled cur) :
    RawArray.fill (numFields cur).toInt.toNat (readTemplateFields cur.children) =
      .ok (readTemplateFields cur.children) := by
  rw [RawArray.fill_eq_ok_iff]
  have hlength := h.2
  exact ⟨by omega, rfl⟩

/-- A template read through a full array is the one of the fields of its element. -/
theorem readTemplateArray_of_filled {uninit : UInt16} {message : Message V} {cur : XmlNode}
    (h : Filled cur) :
    readTemplateArray lib uninit message cur =
      match lib.makeTemplate message (readTemplateFields cur.children) (templateType cur)
        (templateId uninit cur) with
      | none => .error (.error .library)
      | some message => .ok message := by
  rw [readTemplateArray_eq, if_neg (Int32.not_le.mpr h.1), fill_of_filled h]

/-- A template element is read without a fault if it declares its fields. -/
theorem readTemplateArray_ne_fault_iff {uninit : UInt16} {message : Message V} {cur : XmlNode} :
    (∀ f, readTemplateArray lib uninit message cur ≠ .error (.fault f)) ↔ Declares cur := by
  constructor
  · intro h hpos
    rw [readTemplateArray_eq, if_neg (Int32.not_le.mpr hpos)] at h
    have hzero : (0 : Int) < (numFields cur).toInt := Int32.lt_iff_toInt_lt.mp hpos
    cases hfill : RawArray.fill (numFields cur).toInt.toNat
        (readTemplateFields cur.children) with
    | error f =>
      rw [hfill] at h
      exact absurd rfl (h f)
    | ok raws =>
      have hlength := (RawArray.fill_eq_ok_iff.mp hfill).1
      omega
  · intro h f
    by_cases hpos : 0 < numFields cur
    · rw [readTemplateArray_of_filled ⟨hpos, h hpos⟩]
      cases lib.makeTemplate message (readTemplateFields cur.children) (templateType cur)
          (templateId uninit cur) <;> simp
    · have hle : numFields cur ≤ 0 := Int32.not_lt.mp hpos
      rw [readTemplateArray_eq, if_pos hle]
      simp

/-! ## The templates of a document -/

/-- The library makes the templates of these elements one after the other. -/
inductive Made (lib : Library V) (uninit : Nat → UInt16) (after : Nat) :
    Message V → List XmlNode → Message V → Prop
  | nil {message : Message V} : Made lib uninit after message [] message
  | cons {message message₁ message' : Message V} {cur : XmlNode} {next : List XmlNode}
      (hcur : Filled cur)
      (hmake : lib.makeTemplate message (readTemplateFields cur.children) (templateType cur)
        (templateId (uninit (next.length + after)) cur) = some message₁)
      (hnext : Made lib uninit after message₁ next message') :
      Made lib uninit after message (cur :: next) message'

/-- Template elements are read without a fault exactly when each element behind those
whose templates are made declares its fields. -/
theorem readTemplates_ne_fault_iff {message : Message V} {curs : List XmlNode} :
    (∀ f, readTemplates lib uninit message curs ≠ .error (.fault f)) ↔
      ∀ before cur after message', curs = before ++ cur :: after →
        Made lib uninit (after.length + 1) message before message' → Declares cur := by
  induction curs generalizing message with
  | nil =>
    constructor
    · intro _ before cur after message' hcurs
      exact absurd hcurs.symm (List.append_ne_nil_of_right_ne_nil _ (List.cons_ne_nil _ _))
    · intro _ f hfault
      cases hfault
  | cons cur next ih =>
    constructor
    · intro h before cur' after message' hcurs hmade
      cases hmade with
      | nil =>
        rw [List.nil_append, List.cons.injEq] at hcurs
        rcases hcurs with ⟨rfl, rfl⟩
        have hread : ∀ f, readTemplateArray lib (uninit next.length) message cur ≠
            .error (.fault f) := by
          intro f hfault
          apply h f
          rw [readTemplates, hfault]
        exact readTemplateArray_ne_fault_iff.mp hread
      | @cons _ message₁ _ first rest hfirst hmake hrest =>
        rw [List.cons_append, List.cons.injEq] at hcurs
        rcases hcurs with ⟨rfl, rfl⟩
        have hlength : (rest ++ cur' :: after).length = rest.length + (after.length + 1) := by
          simp
        have hread : readTemplateArray lib (uninit (rest ++ cur' :: after).length) message cur =
            .ok message₁ := by
          rw [readTemplateArray_of_filled hfirst, hlength, hmake]
        rw [readTemplates, hread] at h
        exact ih.mp h rest cur' after message' rfl hrest
    · intro h f
      have hcur : Declares cur := h [] cur next message rfl .nil
      rw [readTemplates]
      cases hread : readTemplateArray lib (uninit next.length) message cur with
      | error e =>
        intro hfault
        have hnot : readTemplateArray lib (uninit next.length) message cur ≠ .error (.fault f) :=
          readTemplateArray_ne_fault_iff.mpr hcur f
        rw [hread] at hnot
        exact hnot hfault
      | ok message₁ =>
        apply ih.mpr
        intro before cur' after message' hnext hmade
        apply h (cur :: before) cur' after message'
        · rw [hnext, List.cons_append]
        · have hlength : next.length = before.length + (after.length + 1) := by
            simp [hnext]
          have hpos : 0 < numFields cur := by
            by_contra hnot
            have hle : numFields cur ≤ 0 := Int32.not_lt.mp hnot
            rw [readTemplateArray_eq, if_pos hle] at hread
            cases hread
          have hfilled : Filled cur := ⟨hpos, hcur hpos⟩
          rw [readTemplateArray_of_filled hfilled] at hread
          cases hmake : lib.makeTemplate message (readTemplateFields cur.children)
              (templateType cur) (templateId (uninit next.length) cur) with
          | none =>
            rw [hmake] at hread
            cases hread
          | some message₂ =>
            rw [hmake] at hread
            cases hread
            rw [hlength] at hmake
            exact .cons hfilled hmake hmade

/-! ## Documents -/

/-- The error of a reader that does not tell accesses without a meaning apart. -/
def Stop.toXmlError : Stop → XmlError
  | .error e => e
  | .fault _ => .undefined

/-- The reader without an array leaves open what the faults are here. -/
theorem readTemplate_eq {message : Message V} {cur : XmlNode}
    (hid : (strToUint16 (cur.getProp .id)).isSome) (uninit : UInt16) :
    readTemplate lib message cur =
      (readTemplateArray lib uninit message cur).mapError Stop.toXmlError := by
  rcases Option.isSome_iff_exists.mp hid with ⟨uid, huid⟩
  have huninit : templateId uninit cur = uid := by
    rw [templateId, huid, Option.getD_some]
  have hread : readTemplate lib message cur =
      if numFields cur ≤ 0 then
        .error (.error "Invalid template, non positive field number")
      else if ((readTemplateFields cur.children).length : Int) ≠ (numFields cur).toInt then
        .error .undefined
      else
        match lib.makeTemplate message (readTemplateFields cur.children) (templateType cur)
          uid with
        | none => .error .library
        | some message => .ok message := by
    rw [readTemplate, huid]
    rfl
  by_cases hpos : 0 < numFields cur
  · have hzero : (0 : Int) < (numFields cur).toInt := Int32.lt_iff_toInt_lt.mp hpos
    rw [hread, if_neg (Int32.not_le.mpr hpos)]
    by_cases hlength : ((readTemplateFields cur.children).length : Int) = (numFields cur).toInt
    · rw [if_neg (not_not.mpr hlength), readTemplateArray_of_filled ⟨hpos, hlength⟩, huninit]
      cases lib.makeTemplate message (readTemplateFields cur.children) (templateType cur)
          uid <;> rfl
    · rw [if_pos hlength, readTemplateArray_eq, if_neg (Int32.not_le.mpr hpos)]
      cases hfill : RawArray.fill (numFields cur).toInt.toNat
          (readTemplateFields cur.children) with
      | error f => rfl
      | ok raws =>
        have hn := (RawArray.fill_eq_ok_iff.mp hfill).1
        omega
  · have hle : numFields cur ≤ 0 := Int32.not_lt.mp hpos
    rw [hread, if_pos hle, readTemplateArray_eq, if_pos hle]
    rfl

theorem foldlM_readTemplate_eq (uninit : Nat → UInt16) {message : Message V}
    {curs : List XmlNode}
    (hids : ∀ cur ∈ curs, (strToUint16 (cur.getProp .id)).isSome) :
    curs.foldlM (readTemplate lib) message =
      (readTemplates lib uninit message curs).mapError Stop.toXmlError := by
  induction curs generalizing message with
  | nil => rfl
  | cons cur next ih =>
    rw [List.foldlM_cons, readTemplates,
      readTemplate_eq (hids cur List.mem_cons_self) (uninit next.length)]
    cases readTemplateArray lib (uninit next.length) message cur with
    | error e => rfl
    | ok message₁ => exact ih fun c hc => hids c (List.mem_cons_of_mem _ hc)

/-- Where every template element has an id, the reader with arrays is the one without,
and its faults are what that one leaves open. -/
theorem fromMessage_eq {doc : XmlNode}
    (hids : ∀ cur ∈ doc.children.filter (XmlNode.hasName .template),
      (strToUint16 (cur.getProp .id)).isSome) :
    fromMessage lib doc = (fromMessageArrays lib uninit doc).mapError Stop.toXmlError := by
  rw [fromMessage, fromMessageArrays, foldlM_readTemplate_eq uninit hids]
  by_cases hvalid : validate doc
  · rw [if_pos hvalid, if_pos hvalid]
    cases readTemplates lib uninit (readHeader lib doc)
        (doc.children.filter (XmlNode.hasName .template)) with
    | error e => rfl
    | ok message =>
      change (doc.children.filter (XmlNode.hasName .datarecord)).foldlM (readRecord lib)
        message = _
      cases hrecords : (doc.children.filter (XmlNode.hasName .datarecord)).foldlM
          (readRecord lib) message <;> simp [hrecords, Except.mapError, Stop.toXmlError]
  · rw [if_neg hvalid, if_neg hvalid]
    rfl

/-- The reader never writes outside an array and never hands over an entry that was not
written. -/
def ReadsSafely (lib : Library V) (uninit : Nat → UInt16) (doc : XmlNode) : Prop :=
  ∀ f, fromMessageArrays lib uninit doc ≠ .error (.fault f)

namespace Sample

/-- A line of a document, indented. -/
def line (n : XmlNode) : List XmlNode :=
  [.text "\n\t".toList, n]

/-- A document with a comment and one template, which declares some number of fields. -/
def documentOf (count : Nat) (fields : List FieldType) : XmlNode :=
  .element .ipapMessage (headerAttributes (messageOf [] []))
    (line (.comment "one template".toList) ++
      line (.element .template
        [(.id, printNat 256), (.type, printNat 0), (.numFields, printNat count)]
        (fields.flatMap fun field => line (writeTfield field))))

end Sample

end Xml
end Anslp
