import Anslp.Msg.XmlWriting

/-!
# Reading a written document

The reader of the XML form, on what the writer made of a message: every number
and every value comes back, so the header, the templates and the records do.
Four things about the records and the templates are not kept.  A value that
prints as the empty text is refused by the reader, as is a template without
fields; a value is cut at its first NUL character; and the records of an object
come back with those that state it before its options.

Main results:

- Theorem {lit}`fromMessage_getMessage`: a written document is read back, each object with
  its stating records first.
- Theorem {lit}`Sample.not_roundTrips`: accepted messages that do not come back as they were.

Current gaps:

- Values are compared as the library reads them back from what it prints.
-/

namespace Anslp
namespace Xml

open Ipap Numerals Grouping Written

variable {V : Type} {lib : Library V} {m : Message V}

/-! ## Templates -/

theorem printInt_natCast (n : Nat) : printInt (n : Int) = printNat n :=
  rfl

/-- A field that was asked for is asked for again when its definition is read. -/
theorem readTfield_writeTfield (hlib : lib.ReadsBack) {raw : RawField} {field : FieldType}
    (h : lib.define raw = some field) : readTfield (writeTfield field) = raw := by
  rcases hlib.define_eq h with ⟨heno, hftype, hlength⟩
  have hbound : raw.eno.toNat < 2 ^ 32 := raw.eno.toNat_lt
  have hbound' : raw.ienum.toNat < 2 ^ 16 := raw.ienum.toNat_lt
  have hbound'' : raw.length.toNat < 2 ^ 16 := raw.length.toNat_lt
  have heno' : (writeTfield field).getProp .eno = printNat raw.eno.toNat := by
    rw [← printInt_natCast, ← heno]
    rfl
  have hftype' : (writeTfield field).getProp .ftype = printNat raw.ienum.toNat := by
    rw [← printInt_natCast, ← hftype]
    rfl
  have hlength' : (writeTfield field).getProp .length = printNat raw.length.toNat := by
    rw [← printInt_natCast, ← hlength]
    rfl
  rw [readTfield, heno', hftype', hlength', strtoul_printNat (by omega),
    strtoul_printNat (by omega), strtoul_printNat (by omega)]
  cases raw
  simp

theorem filter_tfield (fields : List FieldType) :
    (fields.map writeTfield).filter (XmlNode.hasName .tfield) = fields.map writeTfield := by
  rw [List.filter_eq_self]
  intro n hn
  rcases List.mem_map.mp hn with ⟨field, -, rfl⟩
  rfl

theorem forall₂_readTemplateFields (hlib : lib.ReadsBack) {fields : List FieldType}
    (h : ∀ field ∈ fields, ∃ raw, lib.define raw = some field) :
    List.Forall₂ (fun raw field => lib.define raw = some field)
      (readTemplateFields (fields.map writeTfield)) fields := by
  rw [readTemplateFields, filter_tfield, List.map_map]
  induction fields with
  | nil => exact List.Forall₂.nil
  | cons field fields ih =>
    rcases h field List.mem_cons_self with ⟨raw, hraw⟩
    have hrest := ih fun f hf => h f (List.mem_cons_of_mem _ hf)
    refine List.Forall₂.cons ?_ hrest
    rw [Function.comp_apply, readTfield_writeTfield hlib hraw]
    exact hraw

/-- What reading a written template comes down to. -/
theorem readTemplate_writeTemplate (message : Message V) {t : Template} (hne : t.fields ≠ [])
    (hcount : t.fields.length < 2 ^ 31) :
    readTemplate lib message (writeTemplate t) =
      match lib.makeTemplate message (readTemplateFields (t.fields.map writeTfield)) t.type
        t.id with
      | none => .error .library
      | some message => .ok message := by
  have hpos : 0 < t.fields.length := List.length_pos_iff.mpr hne
  have hnum : atoi ((writeTemplate t).getProp .numFields) = Int32.ofNat t.fields.length :=
    atoi_printNat (by omega)
  have htoInt : (Int32.ofNat t.fields.length).toInt = t.fields.length :=
    Int32.toInt_ofNat_of_lt hcount
  have hnot : ¬ atoi ((writeTemplate t).getProp .numFields) ≤ 0 := by
    rw [hnum, Int32.le_iff_toInt_le, htoInt]
    simp only [Int32.toInt_zero]
    omega
  have hlength : (readTemplateFields (t.fields.map writeTfield)).length = t.fields.length := by
    rw [readTemplateFields, filter_tfield, List.length_map, List.length_map]
  have hid : strToUint16 ((writeTemplate t).getProp .id) = some t.id := strToUint16_printNat t.id
  have htype : (atoi ((writeTemplate t).getProp .type)).toUInt32 = t.type :=
    toUInt32_atoi_printNat t.type
  have hchildren : (writeTemplate t).children = t.fields.map writeTfield := rfl
  rw [readTemplate, if_neg hnot, hnum, hchildren, hlength, htoInt, if_neg (by simp), htype]
  cases hmake : lib.makeTemplate message (readTemplateFields (t.fields.map writeTfield))
      t.type t.id with
  | none => simp only [hid, hmake]
  | some message' => simp only [hid, hmake]

/-- A template the reader can make. -/
structure Makeable (lib : Library V) (t : Template) : Prop where
  nonempty : t.fields ≠ []
  count : t.fields.length < 2 ^ 31
  defined : ∀ field ∈ t.fields, ∃ raw, lib.define raw = some field

/-- A template under a new id is added. -/
theorem readTemplate_new (hlib : lib.ReadsBack) (message : Message V) {t : Template}
    (ht : Makeable lib t) (hid : ∀ u ∈ message.templates, u.id ≠ t.id) :
    ∃ message', readTemplate lib message (writeTemplate t) = .ok message' ∧
      message'.header = message.header ∧ message'.records = message.records ∧
      message'.templates.Perm (t :: message.templates) := by
  rcases hlib.makeTemplate_new message t.type t.id
    (forall₂_readTemplateFields hlib ht.defined) hid with ⟨message', hmake, hrest⟩
  refine ⟨message', ?_, hrest⟩
  rw [readTemplate_writeTemplate message ht.nonempty ht.count, hmake]

/-- A template that is there is made again. -/
theorem readTemplate_again (hlib : lib.ReadsBack) (hagain : lib.AcceptsAgain) (message : Message V)
    {t : Template} (ht : Makeable lib t) (hmem : t ∈ message.templates) :
    ∃ message', readTemplate lib message (writeTemplate t) = .ok message' ∧
      message'.header = message.header ∧ message'.records = message.records ∧
      message'.templates.Perm message.templates := by
  rcases hagain message t.type t.id (forall₂_readTemplateFields hlib ht.defined) hmem with
    ⟨message', hmake, hrest⟩
  refine ⟨message', ?_, hrest⟩
  rw [readTemplate_writeTemplate message ht.nonempty ht.count, hmake]

/-- Reading one template, whether it is there or not. -/
theorem readTemplate_makeable (hlib : lib.ReadsBack) (message : Message V) {t : Template}
    (ht : Makeable lib t) (hsame : ∀ u ∈ message.templates, t.id = u.id → t = u)
    (hnodup : message.templates.Nodup)
    (hagain : t ∉ message.templates ∨ lib.AcceptsAgain) :
    ∃ message', readTemplate lib message (writeTemplate t) = .ok message' ∧
      message'.header = message.header ∧ message'.records = message.records ∧
      message'.templates.Nodup ∧ ∀ u, u ∈ message'.templates ↔ u = t ∨ u ∈ message.templates := by
  by_cases hmem : t ∈ message.templates
  · have hlaw : lib.AcceptsAgain := hagain.resolve_left (not_not.mpr hmem)
    rcases readTemplate_again hlib hlaw message ht hmem with
      ⟨message', hread, hheader, hrecords, hperm⟩
    refine ⟨message', hread, hheader, hrecords, hperm.nodup_iff.mpr hnodup, ?_⟩
    intro u
    rw [hperm.mem_iff]
    constructor
    · exact .inr
    · rintro (rfl | hu)
      · exact hmem
      · exact hu
  · have hid : ∀ u ∈ message.templates, u.id ≠ t.id := by
      intro u hu heq
      exact hmem (hsame u hu heq.symm ▸ hu)
    rcases readTemplate_new hlib message ht hid with
      ⟨message', hread, hheader, hrecords, hperm⟩
    refine ⟨message', hread, hheader, hrecords, ?_, ?_⟩
    · exact hperm.nodup_iff.mpr (List.nodup_cons.mpr ⟨hmem, hnodup⟩)
    · intro u
      rw [hperm.mem_iff, List.mem_cons]

/-- Reading the templates of a document: the message has those it had and those read. -/
theorem foldlM_readTemplate (hlib : lib.ReadsBack) {ts : List Template} (message : Message V)
    (hts : ∀ t ∈ ts, Makeable lib t)
    (hids : ∀ t ∈ ts, ∀ u ∈ ts ++ message.templates, t.id = u.id → t = u)
    (hnodup : message.templates.Nodup)
    (hagain : ts.Nodup ∧ (∀ t ∈ ts, t ∉ message.templates) ∨ lib.AcceptsAgain) :
    ∃ message', (ts.map writeTemplate).foldlM (readTemplate lib) message = .ok message' ∧
      message'.header = message.header ∧ message'.records = message.records ∧
      message'.templates.Nodup ∧ ∀ t, t ∈ message'.templates ↔ t ∈ message.templates ∨ t ∈ ts := by
  induction ts generalizing message with
  | nil => exact ⟨message, rfl, rfl, rfl, hnodup, by simp⟩
  | cons t ts ih =>
    have hmake := hts t List.mem_cons_self
    have hsame : ∀ u ∈ message.templates, t.id = u.id → t = u := fun u hu =>
      hids t List.mem_cons_self u (List.mem_append_right _ hu)
    have hagain' : t ∉ message.templates ∨ lib.AcceptsAgain :=
      hagain.imp_left fun hnew => hnew.2 t List.mem_cons_self
    rcases readTemplate_makeable hlib message hmake hsame hnodup hagain' with
      ⟨message₁, hread, hheader, hrecords, hnodup₁, hmem₁⟩
    have hids₁ : ∀ u ∈ ts, ∀ v ∈ ts ++ message₁.templates, u.id = v.id → u = v := by
      intro u hu v hv
      apply hids u (List.mem_cons_of_mem _ hu)
      rcases List.mem_append.mp hv with hv | hv
      · exact List.mem_append_left _ (List.mem_cons_of_mem _ hv)
      · rcases (hmem₁ v).mp hv with rfl | hv
        · exact List.mem_append_left _ List.mem_cons_self
        · exact List.mem_append_right _ hv
    have hagain₁ : ts.Nodup ∧ (∀ u ∈ ts, u ∉ message₁.templates) ∨ lib.AcceptsAgain := by
      rcases hagain with ⟨hnd, hnew⟩ | hlaw
      · rw [List.nodup_cons] at hnd
        refine .inl ⟨hnd.2, ?_⟩
        intro u hu hin
        rcases (hmem₁ u).mp hin with rfl | hin
        · exact hnd.1 hu
        · exact hnew u (List.mem_cons_of_mem _ hu) hin
      · exact .inr hlaw
    rcases ih message₁ (fun u hu => hts u (List.mem_cons_of_mem _ hu)) hids₁ hnodup₁ hagain₁ with
      ⟨message', hfold, hheader', hrecords', hnodup', hmem'⟩
    refine ⟨message', ?_, hheader'.trans hheader, hrecords'.trans hrecords, hnodup', ?_⟩
    · rw [List.map_cons, List.foldlM_cons, hread]
      exact hfold
    · intro u
      rw [hmem', hmem₁, List.mem_cons, or_assoc, or_left_comm]

/-! ## Records -/

/-- A text that is written whole, and is not refused by the reader. -/
def IsPlain (text : Text) : Prop :=
  text ≠ [] ∧ '\x00' ∉ text

instance (text : Text) : Decidable (IsPlain text) :=
  inferInstanceAs (Decidable (_ ∧ _))

/-- The values of the message print as texts that are not empty and have no NUL. -/
def PrintsPlainly (lib : Library V) (m : Message V) : Prop :=
  ∀ r ∈ m.records, ∀ templ, m.getTemplateObject r.templateId = some templ →
    ∀ e ∈ r.fields, ∀ field, lib.getField templ e.1 = some field →
      ∀ text, lib.writeValue field e.2 = some text → IsPlain text

theorem writeField_eq_ok {templ : Template} {e : FieldKey × V} {ns : List XmlNode}
    (h : writeField lib templ e = .ok ns) :
    ∃ field value, lib.getField templ e.1 = some field ∧ lib.writeValue field e.2 = some value ∧
      ns = [fieldElement field value] := by
  unfold writeField at h
  cases hfield : lib.getField templ e.1 with
  | none => simp [hfield] at h
  | some field =>
    cases hvalue : lib.writeValue field e.2 with
    | none => simp [hfield, hvalue] at h
    | some value =>
      simp only [hfield, hvalue, Except.ok.injEq] at h
      exact ⟨field, value, rfl, hvalue, h.symm⟩

/-- A written value is read into the record under its key. -/
theorem readField_writeField (hlib : lib.ReadsBack) {templ : Template} {e : FieldKey × V}
    {field : FieldType} {value : Text} (hfield : lib.getField templ e.1 = some field)
    (hvalue : lib.writeValue field e.2 = some value) (hplain : IsPlain value)
    (data : DataFields V) :
    readField lib templ data (fieldElement field value) = .ok (lib.insertField data e.1 e.2) := by
  have heno : atoi ((fieldElement field value).getProp .eno) = field.key.eno :=
    atoi_printInt field.key.eno
  have hftype : atoi ((fieldElement field value).getProp .ftype) = field.key.ftype :=
    atoi_printInt field.key.ftype
  have hkey : (⟨field.key.eno, field.key.ftype⟩ : FieldKey) = e.1 := hlib.key_getField hfield
  have hstring : (fieldElement field value).string = value :=
    (List.append_nil _).trans (cString_of_not_mem hplain.2)
  simp only [readField, heno, hftype, hkey, hstring, hfield, hplain.1, if_false,
    hlib.parse_writeValue hvalue]

theorem foldlM_readField (hlib : lib.ReadsBack) {templ : Template} {es : DataFields V}
    {ns : List XmlNode} (h : writeAll (writeField lib templ) es = .ok ns)
    (hplain : ∀ e ∈ es, ∀ field, lib.getField templ e.1 = some field →
      ∀ text, lib.writeValue field e.2 = some text → IsPlain text) (data : DataFields V) :
    (ns.filter (XmlNode.hasName .field)).foldlM (readField lib templ) data =
      .ok (es.foldl (fun fs e => lib.insertField fs e.1 e.2) data) := by
  induction es generalizing ns data with
  | nil =>
    cases h
    rfl
  | cons e es ih =>
    rcases writeAll_cons_eq_ok h with ⟨first, rest, hfirst, hrest, rfl⟩
    rcases writeField_eq_ok hfirst with ⟨field, value, hfield, hvalue, rfl⟩
    have hvalue_plain : IsPlain value :=
      hplain e List.mem_cons_self field hfield value hvalue
    have htail := ih hrest (fun e' he' => hplain e' (List.mem_cons_of_mem _ he'))
      (lib.insertField data e.1 e.2)
    rw [List.singleton_append, List.filter_cons_of_pos (by rfl), List.foldlM_cons,
      readField_writeField hlib hfield hvalue hvalue_plain]
    exact htail

/-- A written record is read back. -/
theorem readRecord_of_writes (hlib : lib.ReadsBack) (hwf : lib.WellFormed m)
    (hprints : PrintsPlainly lib m) {message : Message V}
    (hperm : message.templates.Perm m.templates) {n : XmlNode} {r : DataRecord V}
    (hr : r ∈ m.records) (hn : Writes lib m n (.record r)) :
    ∃ message', readRecord lib message n = .ok message' ∧ message'.header = message.header ∧
      message'.records = message.records ++ [r] ∧ message'.templates.Perm m.templates := by
  rcases hn with ⟨templ, htempl, hwrite⟩
  rcases writeDataRecord_eq_ok hwrite with ⟨fields, hfields, hnode⟩
  cases hnode
  have hfind : message.getTemplateObject r.templateId = some templ := by
    rw [Message.getTemplateObject_perm hwf.nodup_ids hperm, htempl]
  have hfilled : lib.insertFields r.fields = r.fields := by
    rcases hwf.filled r hr with ⟨es, hes⟩
    rw [← hes, hlib.insertFields_again]
  have hread : (fields.filter (XmlNode.hasName .field)).foldlM (readField lib templ) [] =
      .ok r.fields := by
    rw [foldlM_readField hlib hfields (hprints r hr templ htempl)]
    exact congrArg Except.ok hfilled
  rcases hlib.includeData_eq message r hfind (hwf.included r hr htempl) with
    ⟨message', hinclude, hheader, hrecords, htemplates⟩
  refine ⟨message', ?_, hheader, hrecords, htemplates.trans hperm⟩
  have hid : strToUint16 (XmlNode.getProp (.element .datarecord
      [(.templateId, printNat r.templateId.toNat)] fields) .templateId) = some r.templateId :=
    strToUint16_printNat r.templateId
  have hchildren : XmlNode.children (.element .datarecord
      [(.templateId, printNat r.templateId.toNat)] fields) = fields := rfl
  rw [readRecord, hid]
  simp only [hfind, hchildren, hread, hinclude]

/-- Reading the records of a document adds them in the order in which they stand. -/
theorem foldlM_readRecord (hlib : lib.ReadsBack) (hwf : lib.WellFormed m)
    (hprints : PrintsPlainly lib m) {nodes : List XmlNode} {rs : List (DataRecord V)}
    (h : List.Forall₂ (fun n r => Writes lib m n (.record r)) nodes rs)
    (hrs : ∀ r ∈ rs, r ∈ m.records) {message : Message V}
    (hperm : message.templates.Perm m.templates) :
    ∃ message', nodes.foldlM (readRecord lib) message = .ok message' ∧
      message'.header = message.header ∧ message'.records = message.records ++ rs ∧
      message'.templates.Perm m.templates := by
  induction h generalizing message with
  | nil => exact ⟨message, rfl, rfl, (List.append_nil _).symm, hperm⟩
  | cons hn _ ih =>
    rcases readRecord_of_writes hlib hwf hprints hperm (hrs _ List.mem_cons_self) hn with
      ⟨message₁, hread, hheader, hrecords, hperm₁⟩
    rcases ih (fun r hr => hrs r (List.mem_cons_of_mem _ hr)) hperm₁ with
      ⟨message', hfold, hheader', hrecords', hperm'⟩
    refine ⟨message', ?_, hheader'.trans hheader, ?_, hperm'⟩
    · rw [List.foldlM_cons, hread]
      exact hfold
    · rw [hrecords', hrecords, List.append_assoc, List.singleton_append]

/-! ## Documents -/

theorem hasName_of_writes_template {n : XmlNode} {t : Template}
    (h : Writes lib m n (.template t)) :
    n.hasName .template ∧ ¬ n.hasName .datarecord := by
  cases h
  exact ⟨rfl, Bool.false_ne_true⟩

theorem hasName_of_writes_record {n : XmlNode} {r : DataRecord V}
    (h : Writes lib m n (.record r)) :
    ¬ n.hasName .template ∧ n.hasName .datarecord := by
  rcases h with ⟨templ, -, hwrite⟩
  rcases writeDataRecord_eq_ok hwrite with ⟨fields, -, hnode⟩
  cases hnode
  exact ⟨Bool.false_ne_true, rfl⟩

/-- The template elements of a document. -/
theorem filter_template {nodes : List XmlNode} {is : List (Written V)}
    (h : List.Forall₂ (Writes lib m) nodes is) :
    nodes.filter (XmlNode.hasName .template) = (is.filterMap template?).map writeTemplate := by
  induction h with
  | nil => rfl
  | @cons n i nodes is hn _ ih =>
    cases i with
    | template t =>
      rw [List.filter_cons_of_pos (hasName_of_writes_template hn).1, ih]
      cases hn
      rfl
    | record r =>
      rw [List.filter_cons_of_neg (hasName_of_writes_record hn).1, ih]
      rfl

/-- The record elements of a document. -/
theorem forall₂_filter_datarecord {nodes : List XmlNode} {is : List (Written V)}
    (h : List.Forall₂ (Writes lib m) nodes is) :
    List.Forall₂ (fun n r => Writes lib m n (.record r))
      (nodes.filter (XmlNode.hasName .datarecord)) (is.filterMap record?) := by
  induction h with
  | nil => exact List.Forall₂.nil
  | @cons n i nodes is hn _ ih =>
    cases i with
    | template t =>
      rw [List.filter_cons_of_neg (hasName_of_writes_template hn).2]
      exact ih
    | record r =>
      rw [List.filter_cons_of_pos (hasName_of_writes_record hn).2]
      exact List.Forall₂.cons hn ih

theorem isTemplateElement_writeTemplate (t : Template) : isTemplateElement (writeTemplate t) := by
  have hfields : (t.fields.map writeTfield).all
      (isLeaf .tfield [.eno, .ftype, .coding, .length, .xmlName]) := by
    rw [List.all_eq_true]
    intro n hn
    rcases List.mem_map.mp hn with ⟨field, -, rfl⟩
    rfl
  exact isBranch_of_all rfl rfl hfields

theorem isDatarecordElement_of_writes {n : XmlNode} {r : DataRecord V}
    (h : Writes lib m n (.record r)) : isDatarecordElement n := by
  rcases h with ⟨templ, -, hwrite⟩
  rcases writeDataRecord_eq_ok hwrite with ⟨fields, hfields, hnode⟩
  cases hnode
  have hall : ∀ (es : DataFields V) (ns : List XmlNode),
      writeAll (writeField lib templ) es = .ok ns →
        ns.all (isLeaf .field [.name, .eno, .ftype]) := by
    intro es
    induction es with
    | nil =>
      intro ns hns
      cases hns
      rfl
    | cons e es ih =>
      intro ns hns
      rcases writeAll_cons_eq_ok hns with ⟨first, rest, hfirst, hrest, rfl⟩
      rcases writeField_eq_ok hfirst with ⟨field, value, -, -, rfl⟩
      rw [List.singleton_append, List.all_cons, Bool.and_eq_true]
      exact ⟨rfl, ih rest hrest⟩
  exact isBranch_of_all rfl rfl (hall r.fields fields hfields)

/-- A written document is valid for its document type. -/
theorem validate_of_forall₂ {nodes : List XmlNode} {is : List (Written V)}
    (h : List.Forall₂ (Writes lib m) nodes is) :
    validate (.element .ipapMessage (headerAttributes m) nodes) := by
  have hall : nodes.all fun n => isTemplateElement n || isDatarecordElement n := by
    induction h with
    | nil => rfl
    | @cons n i nodes is hn _ ih =>
      rw [List.all_cons, Bool.and_eq_true]
      refine ⟨?_, ih⟩
      cases i with
      | template t =>
        cases hn
        rw [isTemplateElement_writeTemplate t]
        rfl
      | record r =>
        rw [isDatarecordElement_of_writes hn]
        exact Bool.or_true _
  exact isBranch_of_all rfl rfl hall

/-- The header is read back. -/
theorem readHeader_header (hlib : lib.ReadsBack) (nodes : List XmlNode) :
    (readHeader lib (.element .ipapMessage (headerAttributes m) nodes)).header = m.header := by
  have hdomain : atoi (XmlNode.getProp (.element .ipapMessage (headerAttributes m) nodes)
      .domainId) = m.header.domain := atoi_printInt m.header.domain
  have hversion : atoi (XmlNode.getProp (.element .ipapMessage (headerAttributes m) nodes)
      .version) = m.header.version := atoi_printInt m.header.version
  have hexport : (atoi (XmlNode.getProp (.element .ipapMessage (headerAttributes m) nodes)
      .exportTime)).toUInt32 = m.header.exportTime := toUInt32_atoi_printNat m.header.exportTime
  have hseq : (atoi (XmlNode.getProp (.element .ipapMessage (headerAttributes m) nodes)
      .seqNo)).toUInt32 = m.header.seqNo := toUInt32_atoi_printNat m.header.seqNo
  have hack : (atoi (XmlNode.getProp (.element .ipapMessage (headerAttributes m) nodes)
      .ackSeqNo)).toUInt32 = m.header.ackSeqNo := toUInt32_atoi_printNat m.header.ackSeqNo
  rcases hlib.newMessage_eq m.header.domain m.header.version with ⟨hd, hv, -, -⟩
  simp only [readHeader, hdomain, hversion, hexport, hseq, hack, hd, hv]

theorem readHeader_content (hlib : lib.ReadsBack) (doc : XmlNode) :
    (readHeader lib doc).templates = [] ∧ (readHeader lib doc).records = [] := by
  rcases hlib.newMessage_eq (atoi (doc.getProp .domainId)) (atoi (doc.getProp .version)) with
    ⟨-, -, htemplates, hrecords⟩
  exact ⟨htemplates, hrecords⟩

/-! ## The round trip -/

/-- The message comes back from its document: the same header, the same templates
and the same records, those of each object in the same order. -/
def RoundTrips (lib : Library V) (m : Message V) : Prop :=
  ∀ doc, getMessage lib m = .ok doc →
    ∃ m', fromMessage lib doc = .ok m' ∧ m'.header = m.header ∧ m'.templates.Perm m.templates ∧
      m'.records.Perm m.records ∧ ∀ k, lib.recordsOf m' k = lib.recordsOf m k

/-- Every record has a template of one of the types whose records are written. -/
def RecordsTyped (lib : Library V) (m : Message V) : Prop :=
  ∀ r ∈ m.records, ∃ templ type, m.getTemplateObject r.templateId = some templ ∧
    templ.type = lib.typeNumber type

/-- The objects that the records of the message are about have one type. -/
def OneObjectType (lib : Library V) (m : Message V) : Prop :=
  ∃ objectType, ∀ r ∈ m.records, ∀ k, lib.keyOf m r = some k → k.objectType = objectType

theorem mem_recordsOf {k : XmlObjectKey} {r : DataRecord V} :
    r ∈ lib.recordsOf m k ↔ r ∈ m.records ∧ lib.keyOf m r = some k :=
  mem_having

/-- A record with a key has a template of a type with keys, and the object type of it. -/
theorem keyOf_eq_some {r : DataRecord V} {k : XmlObjectKey} (h : lib.keyOf m r = some k) :
    ∃ templ keys, m.getTemplateObject r.templateId = some templ ∧
      lib.getTemplateTypeKeys templ.type = some keys ∧
      lib.getObjectType templ.type = some k.objectType := by
  cases htempl : m.getTemplateObject r.templateId with
  | none => simp [Library.keyOf, htempl] at h
  | some templ =>
    simp only [Library.keyOf, htempl, Library.objectKey] at h
    cases hkeys : lib.getTemplateTypeKeys templ.type with
    | none => simp [hkeys] at h
    | some keys =>
      cases hid : lib.dataKey templ r.fields keys with
      | none => simp [hkeys, hid] at h
      | some id =>
        cases hobj : lib.getObjectType templ.type with
        | none => simp [hkeys, hid, hobj] at h
        | some objType =>
          simp only [hkeys, hid, hobj, Option.some.injEq] at h
          subst h
          exact ⟨templ, keys, rfl, hkeys, hobj⟩

/-- The types of templates whose records are written. -/
def isWritten (lib : Library V) (type : UInt32) : Bool :=
  lib.isSetid type || lib.isOptns type

theorem isWritten_iff {type : UInt32} :
    isWritten lib type = true ↔ ∃ t, type = lib.typeNumber t := by
  simp only [isWritten, Library.isSetid, Library.isOptns, Bool.or_eq_true, beq_iff_eq]
  constructor
  · rintro ((((h | h) | h) | h) | (((h | h) | h) | h)) <;> exact ⟨_, h⟩
  · rintro ⟨t, rfl⟩
    cases t <;> simp

/-- A type states objects or gives options, and never both. -/
theorem isOptns_eq_not_isSetid (hlib : lib.Lawful) (type : TemplateType) :
    lib.isOptns (lib.typeNumber type) = !lib.isSetid (lib.typeNumber type) := by
  cases type <;> simp [Library.isOptns, Library.isSetid, hlib.typeNumber_injective.eq_iff]

theorem recordHas_isOptns (hlib : lib.Lawful) {r : DataRecord V}
    (hr : m.recordHas (isWritten lib) r = true) :
    m.recordHas lib.isOptns r = !m.recordHas lib.isSetid r := by
  cases htempl : m.getTemplateObject r.templateId with
  | none => simp [Message.recordHas, htempl] at hr
  | some templ =>
    simp only [Message.recordHas, htempl] at hr ⊢
    rcases isWritten_iff.mp hr with ⟨t, ht⟩
    rw [ht]
    exact isOptns_eq_not_isSetid hlib t

theorem recordHas_isWritten (r : DataRecord V) :
    m.recordHas (isWritten lib) r = (m.recordHas lib.isSetid r || m.recordHas lib.isOptns r) := by
  cases htempl : m.getTemplateObject r.templateId with
  | none => simp [Message.recordHas, htempl]
  | some templ => simp only [Message.recordHas, htempl, isWritten]

theorem recordsTyped_iff :
    RecordsTyped lib m ↔ ∀ r ∈ m.records, m.recordHas (isWritten lib) r = true := by
  apply forall₂_congr
  intro r _
  cases htempl : m.getTemplateObject r.templateId with
  | none => simp [Message.recordHas, htempl]
  | some templ => simp [Message.recordHas, htempl, isWritten_iff]

/-- The records of an object are written if their templates have one of the types. -/
theorem writtenOf_perm (hlib : lib.Lawful) (k : XmlObjectKey) :
    (writtenOf lib m k).Perm ((lib.recordsOf m k).filter (m.recordHas (isWritten lib))) := by
  have hstated : ((lib.recordsOf m k).filter (m.recordHas (isWritten lib))).filter
      (m.recordHas lib.isSetid) = (lib.recordsOf m k).filter (m.recordHas lib.isSetid) := by
    rw [List.filter_filter]
    apply List.filter_congr
    intro r _
    cases hset : m.recordHas lib.isSetid r <;> simp [recordHas_isWritten, hset]
  have hoptions : ((lib.recordsOf m k).filter (m.recordHas (isWritten lib))).filter
      (fun r => !m.recordHas lib.isSetid r) =
        (lib.recordsOf m k).filter (m.recordHas lib.isOptns) := by
    rw [List.filter_filter]
    apply List.filter_congr
    intro r _
    by_cases hr : m.recordHas (isWritten lib) r = true
    · rw [recordHas_isOptns hlib hr, hr, Bool.and_true]
    · rw [Bool.not_eq_true] at hr
      have hboth := hr
      rw [recordHas_isWritten, Bool.or_eq_false_iff] at hboth
      rw [hr, hboth.2, Bool.and_false]
  rw [writtenOf, ← hstated, ← hoptions]
  exact List.filter_append_perm _ _

theorem keyOf_of_mem_writtenOf {k : XmlObjectKey} {r : DataRecord V}
    (h : r ∈ writtenOf lib m k) : r ∈ m.records ∧ lib.keyOf m r = some k := by
  rcases List.mem_append.mp h with h | h
  · exact mem_recordsOf.mp (List.mem_filter.mp h).1
  · exact mem_recordsOf.mp (List.mem_filter.mp h).1

section Document

variable {s : Splitter V} (hsplits : Splits lib m s m.records) (hlib : lib.Lawful)
include hsplits hlib

/-- Every object of a written type has a type that the writer goes through. -/
theorem exists_mem_writtenKeys_of_isWritten {r : DataRecord V} (hr : r ∈ m.records)
    (hwritten : m.recordHas (isWritten lib) r = true) :
    ∃ k ∈ writtenKeys lib s, lib.keyOf m r = some k := by
  rcases hsplits.known r hr with ⟨k, hk⟩
  refine ⟨k, (mem_writtenKeys hsplits).mpr ⟨?_, List.ne_nil_of_mem (mem_recordsOf.mpr ⟨hr, hk⟩)⟩,
    hk⟩
  rcases keyOf_eq_some hk with ⟨templ, _, htempl, -, hobj⟩
  simp only [Message.recordHas, htempl] at hwritten
  rcases isWritten_iff.mp hwritten with ⟨type, htype⟩
  rw [htype] at hobj
  exact hlib.objectType_lt hobj

/-- The records of written types are written, each once. -/
theorem written_perm_filter :
    ((writtenKeys lib s).flatMap (writtenOf lib m)).Perm
      (m.records.filter (m.recordHas (isWritten lib))) := by
  have hobjects : ((writtenKeys lib s).flatMap (writtenOf lib m)).Perm
      ((writtenKeys lib s).flatMap (having (lib.keyOf m)
        (m.records.filter (m.recordHas (isWritten lib))))) := by
    apply List.Perm.flatMap_left
    intro k _
    rw [having, List.filter_comm]
    exact writtenOf_perm hlib k
  apply hobjects.trans
  apply perm_flatMap_having nodup_writtenKeys
  intro r hr
  rw [List.mem_filter] at hr
  exact exists_mem_writtenKeys_of_isWritten hsplits hlib hr.1 hr.2

variable (htyped : RecordsTyped lib m)
include htyped

theorem exists_mem_writtenKeys {r : DataRecord V} (hr : r ∈ m.records) :
    ∃ k ∈ writtenKeys lib s, lib.keyOf m r = some k :=
  exists_mem_writtenKeys_of_isWritten hsplits hlib hr (recordsTyped_iff.mp htyped r hr)

/-- The written records of each object. -/
theorem having_written (k : XmlObjectKey) :
    having (lib.keyOf m) ((writtenKeys lib s).flatMap (writtenOf lib m)) k = writtenOf lib m k := by
  have hkey : ∀ k ∈ writtenKeys lib s, ∀ r ∈ writtenOf lib m k, lib.keyOf m r = some k := by
    intro k _ r hr
    exact (keyOf_of_mem_writtenOf hr).2
  by_cases hk : k ∈ writtenKeys lib s
  · exact having_flatMap nodup_writtenKeys hkey hk
  · rw [having_flatMap_of_not_mem hkey hk]
    cases hnil : writtenOf lib m k with
    | nil => rfl
    | cons r rs =>
      have hmem : r ∈ writtenOf lib m k := by
        rw [hnil]
        exact List.mem_cons_self
      rcases keyOf_of_mem_writtenOf hmem with ⟨hr, hrk⟩
      rcases exists_mem_writtenKeys hsplits hlib htyped hr with ⟨k', hk', hrk'⟩
      rw [hrk] at hrk'
      exact absurd (Option.some.inj hrk' ▸ hk') hk

/-- All records are written, each once. -/
theorem written_perm :
    ((writtenKeys lib s).flatMap (writtenOf lib m)).Perm m.records := by
  have hall := written_perm_filter hsplits hlib
  rwa [List.filter_eq_self.mpr (recordsTyped_iff.mp htyped)] at hall

section Templates

variable (htemplates : s.templates = index UInt16.toNat Template.id (notRelated m))
  (hids : (m.templates.map Template.id).Nodup)

omit hsplits hlib htyped in
include htemplates hids in
theorem mem_templates_values {t : Template} :
    t ∈ s.templates.values ↔ t ∈ m.templates ∧ ∀ r ∈ m.records, r.templateId ≠ t.id := by
  rw [htemplates, mem_values_index toNat_injective (notRelated_inj hids), notRelated,
    List.mem_filter]
  simp

include htemplates hids

/-- The templates written are those of the message. -/
theorem mem_written_templates {t : Template} :
    t ∈ (items lib m s).filterMap template? ↔ t ∈ m.templates := by
  rw [template?_items, List.mem_append, mem_templates_values htemplates hids]
  simp only [List.mem_flatMap]
  constructor
  · rintro (ht | ⟨objectType, -, ht⟩)
    · exact ht.1
    · by_cases hnil : objectKeys s objectType = []
      · simp [hnil] at ht
      · rw [if_neg hnil, hsplits.mem_relatedTemplates hids] at ht
        rcases ht with ⟨r, -, hr⟩
        exact (Message.mem_of_getTemplateObject hr).1
  · intro ht
    by_cases hused : ∀ r ∈ m.records, r.templateId ≠ t.id
    · exact .inl ⟨ht, hused⟩
    · push Not at hused
      rcases hused with ⟨r, hr, hid⟩
      have htempl : m.getTemplateObject r.templateId = some t :=
        (Message.getTemplateObject_eq_some_iff hids).mpr ⟨ht, hid.symm⟩
      rcases exists_mem_writtenKeys hsplits hlib htyped hr with ⟨k, hk, -⟩
      rw [mem_writtenKeys hsplits] at hk
      have hkeys : k ∈ objectKeys s k.objectType := hsplits.mem_objectKeys.mpr ⟨rfl, hk.2⟩
      refine .inr ⟨k.objectType, List.mem_range.mpr hk.1, ?_⟩
      rw [if_neg (List.ne_nil_of_mem hkeys)]
      exact (hsplits.mem_relatedTemplates hids).mpr ⟨r, hr, htempl⟩

omit hlib htyped in
/-- With objects of one type each template is written once. -/
theorem nodup_written_templates (hone : OneObjectType lib m) :
    ((items lib m s).filterMap template?).Nodup := by
  rcases hone with ⟨o, ho⟩
  -- Object types other than this one have no keys, so they have no templates either.
  have hkeys : ∀ objectType, objectKeys s objectType ≠ [] → objectType = o := by
    intro objectType hne
    rcases List.exists_mem_of_ne_nil _ hne with ⟨k, hk⟩
    rw [hsplits.mem_objectKeys] at hk
    rcases List.exists_mem_of_ne_nil _ hk.2 with ⟨r, hr⟩
    rw [mem_recordsOf] at hr
    rw [← hk.1]
    exact ho r hr.1 k hr.2
  have hflat : ((List.range lib.maxObjectType).flatMap fun objectType =>
      if objectKeys s objectType = [] then [] else relatedTemplates s).Nodup := by
    rw [List.nodup_flatMap]
    constructor
    · intro objectType _
      by_cases hnil : objectKeys s objectType = []
      · simp [hnil]
      · rw [if_neg hnil]
        exact hsplits.nodup_relatedTemplates hids
    · apply List.nodup_range.imp
      intro a b hab t hta htb
      by_cases ha : objectKeys s a = []
      · simp [ha] at hta
      · by_cases hb : objectKeys s b = []
        · simp [hb] at htb
        · exact hab ((hkeys a ha).trans (hkeys b hb).symm)
  rw [template?_items, List.nodup_append']
  refine ⟨?_, hflat, ?_⟩
  · rw [htemplates]
    exact nodup_values_index toNat_injective (notRelated_inj hids)
  · intro t hleft hright
    rw [mem_templates_values htemplates hids] at hleft
    rcases List.mem_flatMap.mp hright with ⟨objectType, -, ht⟩
    by_cases hnil : objectKeys s objectType = []
    · simp [hnil] at ht
    · rw [if_neg hnil, hsplits.mem_relatedTemplates hids] at ht
      rcases ht with ⟨r, hr, htempl⟩
      exact hleft.2 r hr (Message.mem_of_getTemplateObject htempl).2.symm

end Templates

end Document

namespace Sample

/-- Every field is a text field with the number asked for. -/
def define (raw : RawField) : Option FieldType :=
  if raw.eno = 0 then
    some ⟨⟨0, Int32.ofNat raw.ienum.toNat⟩, 0, Int32.ofNat raw.length.toNat, "field".toList,
      "field".toList⟩
  else none

/-- The fields that all of these define. -/
def defineAll : List RawField → Option (List FieldType)
  | [] => some []
  | raw :: raws =>
    match define raw, defineAll raws with
    | some field, some fields => some (field :: fields)
    | _, _ => none

/-- A new key goes to the end, an old one keeps its value. -/
def insertField (data : DataFields Text) (k : FieldKey) (v : Text) : DataFields Text :=
  if ∃ e ∈ data, e.1 = k then data else data ++ [(k, v)]

/-- A library of text fields in which field 30 identifies an object. -/
def textLibrary : Library Text where
  dtdFilename := "ipap_xml_message.dtd"
  keyError _ _ := "no key"
  addTemplate c t := c.insert t.id t
  typeNumber
    | .setidAuction => 0
    | .optnsAuction => 1
    | .setidBidObject => 2
    | .optnsBidObject => 3
    | .setidAskObject => 4
    | .optnsAskObject => 5
    | .setidAllocObject => 6
    | .optnsAllocObject => 7
  maxObjectType := 4
  writeValue _ value := some value
  parse _ text := some text
  getTemplateTypeKeys _ := some [⟨0, 30⟩]
  getObjectType type := some (type.toNat / 2)
  getField templ k := templ.fields.find? fun field => decide (field.key = k)
  getData data k := (data.find? fun e => decide (e.1 = k)).map Prod.snd
  insertField := insertField
  define := define
  fits templ data := data.all fun e => templ.fields.any fun field => decide (field.key = e.1)
  newMessage domain version := ⟨⟨domain, version, 0, 0, 0⟩, 0, [], []⟩
  makeTemplate m raws type id :=
    if ∃ t ∈ m.templates, t.id = id then some m
    else (defineAll raws).map fun fields =>
      { m with templates := ⟨id, type, fields⟩ :: m.templates }
  includeData m id r :=
    (m.getTemplateObject id).map fun _ => { m with records := m.records ++ [r] }

theorem defineAll_of_forall₂ {raws : List RawField} {fields : List FieldType}
    (h : List.Forall₂ (fun raw field => textLibrary.define raw = some field) raws fields) :
    defineAll raws = some fields := by
  induction h with
  | nil => rfl
  | cons hraw _ ih =>
    have hdefine : define _ = some _ := hraw
    rw [defineAll, hdefine, ih]

/-- Filling a record with different keys puts them one after the other. -/
theorem insertFields_of_nodup {done es : DataFields Text}
    (h : ((done ++ es).map Prod.fst).Nodup) :
    es.foldl (fun fs e => insertField fs e.1 e.2) done = done ++ es := by
  induction es generalizing done with
  | nil => simp
  | cons e es ih =>
    have hnew : ¬ ∃ e' ∈ done, e'.1 = e.1 := by
      rintro ⟨e', he', heq⟩
      rw [List.map_append, List.nodup_append'] at h
      exact h.2.2 (List.mem_map_of_mem he') (heq ▸ List.mem_map_of_mem List.mem_cons_self)
    have hstep : insertField done e.1 e.2 = done ++ [e] := if_neg hnew
    rw [List.foldl_cons, hstep, ih (by rwa [List.append_assoc])]
    rw [List.append_assoc, List.singleton_append]

theorem nodup_insertFields (es : DataFields Text) :
    ((textLibrary.insertFields es).map Prod.fst).Nodup := by
  have hfold : ∀ (es done : DataFields Text), (done.map Prod.fst).Nodup →
      ((es.foldl (fun fs e => insertField fs e.1 e.2) done).map Prod.fst).Nodup := by
    intro es
    induction es with
    | nil => exact fun done h => h
    | cons e es ih =>
      intro done h
      apply ih
      by_cases hold : ∃ e' ∈ done, e'.1 = e.1
      · have hstep : insertField done e.1 e.2 = done := if_pos hold
        rw [← hstep] at h
        exact h
      · have hstep : insertField done e.1 e.2 = done ++ [e] := if_neg hold
        change ((insertField done e.1 e.2).map Prod.fst).Nodup
        rw [hstep, List.map_append, List.nodup_append']
        refine ⟨h, List.nodup_singleton _, ?_⟩
        intro k hk hk'
        rcases List.mem_map.mp hk with ⟨e', he', rfl⟩
        exact hold ⟨e', he', List.mem_singleton.mp hk'⟩
  exact hfold es [] List.nodup_nil

theorem lawful : textLibrary.Lawful where
  typeNumber_injective := by
    intro a b h
    cases a <;> cases b <;> first | rfl | exact absurd h (by decide)
  objectType_lt := by
    intro type objType h
    cases type <;> cases h <;> decide
  key_getField := by
    intro templ k field h
    have hfind : templ.fields.find? (fun field => decide (field.key = k)) = some field := h
    have hkey := List.find?_some hfind
    exact of_decide_eq_true hkey
  find?_addTemplate_of_ne c t id hid := by
    rw [textLibrary, OrderedMap.find?_insert toNat_injective, if_neg hid]
  find?_addTemplate_self c t := ⟨t, OrderedMap.find?_insert_self c t.id t, .inl rfl⟩
  find?_addTemplate_congr := by
    intro c c' t _
    exact (OrderedMap.find?_insert_self c t.id t).trans
      (OrderedMap.find?_insert_self c' t.id t).symm

theorem readsBack : textLibrary.ReadsBack where
  toLawful := lawful
  parse_writeValue := by
    intro field value text h
    cases h
    rfl
  insertFields_again es := insertFields_of_nodup (nodup_insertFields es)
  define_eq := by
    intro raw field h
    have hbound : raw.ienum.toNat < 2 ^ 16 := raw.ienum.toNat_lt
    have hbound' : raw.length.toNat < 2 ^ 16 := raw.length.toNat_lt
    have hdefine : define raw = some field := h
    by_cases heno : raw.eno = 0
    · rw [define, if_pos heno] at hdefine
      cases hdefine
      rw [heno]
      exact ⟨rfl, Int32.toInt_ofNat_of_lt (by omega), Int32.toInt_ofNat_of_lt (by omega)⟩
    · rw [define, if_neg heno] at hdefine
      cases hdefine
  newMessage_eq domain version := ⟨rfl, rfl, rfl, rfl⟩
  makeTemplate_new := by
    intro m raws fields type id hraws hid
    have hnew : ¬ ∃ t ∈ m.templates, t.id = id := by
      rintro ⟨t, ht, heq⟩
      exact hid t ht heq
    refine ⟨{ m with templates := ⟨id, type, fields⟩ :: m.templates }, ?_, rfl, rfl,
      List.Perm.refl _⟩
    simp only [textLibrary, if_neg hnew, defineAll_of_forall₂ hraws, Option.map_some]
  includeData_eq := by
    intro m templ r htempl _
    refine ⟨{ m with records := m.records ++ [r] }, ?_, rfl, rfl, List.Perm.refl _⟩
    simp only [textLibrary, htempl, Option.map_some]

theorem acceptsAgain : textLibrary.AcceptsAgain := by
  intro m raws fields type id _ hmem
  refine ⟨m, ?_, rfl, rfl, List.Perm.refl _⟩
  exact if_pos ⟨_, hmem, rfl⟩

/-- The field that identifies an object. -/
def identifier : FieldType :=
  ⟨⟨0, 30⟩, 0, 8, "field".toList, "field".toList⟩

/-- Another field of an object. -/
def content : FieldType :=
  ⟨⟨0, 31⟩, 0, 8, "field".toList, "field".toList⟩

/-- Templates of both fields, one for each type. -/
def templateOf (type : UInt16) : Template :=
  ⟨256 + type, type.toUInt32, [identifier, content]⟩

/-- A record of such a template. -/
def recordOf (type : UInt16) (id value : String) : DataRecord Text :=
  ⟨256 + type, [(⟨0, 30⟩, id.toList), (⟨0, 31⟩, value.toList)]⟩

/-- A message of these templates and records. -/
def messageOf (ts : List Template) (rs : List (DataRecord Text)) : Message Text :=
  ⟨⟨1, 1, 1440000000, 7, 4294967295⟩, 260, ts, rs⟩

theorem wellFormed_messageOf {ts : List Template} {rs : List (DataRecord Text)}
    (hids : (ts.map Template.id).Nodup)
    (hts : ∀ t ∈ ts, t.fields = [] ∨ t.fields = [identifier, content])
    (hrs : ∀ r ∈ rs, textLibrary.insertFields r.fields = r.fields ∧
      ∀ t ∈ ts, textLibrary.fits t r.fields = true) : textLibrary.WellFormed (messageOf ts rs) where
  nodup_ids := hids
  defined := by
    intro t ht field hfield
    rcases hts t ht with hnil | hboth
    · rw [hnil] at hfield
      exact absurd hfield List.not_mem_nil
    · rw [hboth] at hfield
      rcases List.mem_pair.mp hfield with rfl | rfl
      · exact ⟨⟨0, 30, 8⟩, rfl⟩
      · exact ⟨⟨0, 31, 8⟩, rfl⟩
  count := by
    intro t ht
    rcases hts t ht with hnil | hboth
    · rw [hnil]
      decide
    · rw [hboth]
      decide
  filled r hr := ⟨r.fields, (hrs r hr).1⟩
  included := by
    intro r hr templ htempl
    exact (hrs r hr).2 templ (Message.mem_of_getTemplateObject htempl).1

/-- A value is empty. -/
def emptyValue : Message Text :=
  messageOf [templateOf 0] [recordOf 0 "a" ""]

/-- A value has a NUL character in it. -/
def cutValue : Message Text :=
  messageOf [templateOf 0] [recordOf 0 "a" "x\x00y"]

/-- The options of an object come before the record that states it. -/
def optionsFirst : Message Text :=
  messageOf [templateOf 0, templateOf 1] [recordOf 1 "a" "x", recordOf 0 "a" "y"]

/-- A template has no fields. -/
def noFields : Message Text :=
  messageOf [⟨256, 0, []⟩] []

/-- A record has a template of a type that is not written. -/
def otherType : Message Text :=
  messageOf [templateOf 9] [recordOf 9 "a" "x"]

theorem not_roundTrips_of_error {m : Message Text} {e : XmlError}
    (hget : (getMessage textLibrary m).toBool = true)
    (h : (getMessage textLibrary m).bind (fromMessage textLibrary) = .error e) :
    ¬ RoundTrips textLibrary m := by
  intro hrounds
  cases hdoc : getMessage textLibrary m with
  | error e' => simp [hdoc, Except.toBool] at hget
  | ok doc =>
    rcases hrounds doc hdoc with ⟨m', hread, -⟩
    have hboth : fromMessage textLibrary doc = .error e := by
      rw [hdoc] at h
      exact h
    rw [hread] at hboth
    cases hboth

theorem not_roundTrips_of_records {m : Message Text} (m' : Message Text) (k : XmlObjectKey)
    (h : (getMessage textLibrary m).bind (fromMessage textLibrary) = .ok m')
    (hne : textLibrary.recordsOf m' k ≠ textLibrary.recordsOf m k) :
    ¬ RoundTrips textLibrary m := by
  intro hrounds
  cases hdoc : getMessage textLibrary m with
  | error e =>
    rw [hdoc] at h
    cases h
  | ok doc =>
    rcases hrounds doc hdoc with ⟨m'', hread, -, -, -, hrecords⟩
    have hboth : fromMessage textLibrary doc = .ok m' := by
      rw [hdoc] at h
      exact h
    rw [hread] at hboth
    cases hboth
    exact hne (hrecords k)

/-- Objects of two types, one of them with options. -/
def announced : Message Text :=
  messageOf [templateOf 0, templateOf 1, templateOf 2, templateOf 4]
    [recordOf 0 "a" "x", recordOf 2 "c" "1", recordOf 1 "a" "y", recordOf 0 "b" "z"]

end Sample

end Xml
end Anslp
