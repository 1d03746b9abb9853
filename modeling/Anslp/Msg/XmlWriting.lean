import Anslp.Msg.Xml

/-!
# What a written document holds

The splitter keeps for each object its records, in the order of the message,
and their templates.  From this it follows which templates and records the
children of the root element are, in order.

Main results:

- Theorem {lit}`splits_foldlM`: what the splitter holds after the records of a message.
- Theorem {lit}`getMessage_eq_ok`: the templates and the records of a written document.

Current gaps:

- None for documents that are written; when writing fails is the concern of {lit}`XmlOnce` and
  {lit}`Splitting`.
-/

namespace Anslp
namespace Xml

open Ipap Numerals Grouping

variable {V : Type} {lib : Library V} {m : Message V}

/-! ## Splitting -/

/-- The templates of records, under their ids. -/
def templatesOf (m : Message V) (rs : List (DataRecord V)) : TemplateContainer :=
  index UInt16.toNat Template.id (rs.filterMap fun r => m.getTemplateObject r.templateId)

/-- What the splitter holds after some records. -/
structure Splits (lib : Library V) (m : Message V) (s : Splitter V)
    (rs : List (DataRecord V)) : Prop where
  known : ∀ r ∈ rs, ∃ k, lib.keyOf m r = some k
  records : Groups s.objectDataRecords (lib.keyOf m) rs
  objectTemplates : ∀ k, s.objectTemplates.find? k =
    if having (lib.keyOf m) rs k = [] then none
    else some (templatesOf m (having (lib.keyOf m) rs k))
  comparable : ∀ k ∈ s.objectTemplates.keys, ∀ k' ∈ s.objectTemplates.keys,
    ¬ (k.less k' ∧ k'.less k)

/-- A new splitter holds no records. -/
theorem splits_new : Splits lib m Splitter.new [] where
  known r h := absurd h List.not_mem_nil
  records := Groups.empty
  objectTemplates k := by simp [Splitter.new, having]
  comparable k h := absurd h List.not_mem_nil

theorem not_less_self (k : XmlObjectKey) : ¬ (k.less k ∧ k.less k) := by
  simp [XmlObjectKey.less]

/-- A record that was put into the splitter has a template and is about an object. -/
theorem splitRecord_eq_ok {s s' : Splitter V} {r : DataRecord V}
    (h : splitRecord lib m s r = .ok s') :
    ∃ templ k, m.getTemplateObject r.templateId = some templ ∧ lib.keyOf m r = some k ∧
      (∀ k' ∈ s.objectTemplates.keys, ¬ (k.less k' ∧ k'.less k)) ∧
      s' = { s with
        objectTemplates := s.objectTemplates.insert k
          (lib.addTemplate ((s.objectTemplates.find? k).getD .empty) templ)
        objectDataRecords := collect s.objectDataRecords k r } := by
  unfold splitRecord at h
  cases htempl : m.getTemplateObject r.templateId with
  | none => simp [htempl] at h
  | some templ =>
    cases hkey : lib.objectKey templ r.fields with
    | none => simp [htempl, hkey] at h
    | some k =>
      simp only [htempl, hkey] at h
      split at h
      · rename_i hall
        refine ⟨templ, k, rfl, ?_, ?_, (Except.ok.inj h).symm⟩
        · rw [Library.keyOf, htempl]
          exact hkey
        · intro k' hk'
          have hcomparable := List.all_eq_true.mp hall k' hk'
          rintro ⟨hless, hless'⟩
          simp [Xml.comparable, hless, hless'] at hcomparable
      · exact absurd h (by simp)

/-- The templates found for records are those that the message has for them. -/
theorem getTemplateObject_of_find?_templatesOf {rs : List (DataRecord V)} {id : UInt16}
    {templ : Template} (h : (templatesOf m rs).find? id = some templ) :
    m.getTemplateObject id = some templ := by
  have hsame : ∀ t ∈ rs.filterMap (fun r => m.getTemplateObject r.templateId),
      m.getTemplateObject t.id = some t := by
    intro t ht
    rcases List.mem_filterMap.mp ht with ⟨r, -, hr⟩
    rwa [(Message.mem_of_getTemplateObject hr).2]
  have hinj : ∀ t ∈ rs.filterMap (fun r => m.getTemplateObject r.templateId),
      ∀ u ∈ rs.filterMap (fun r => m.getTemplateObject r.templateId), t.id = u.id → t = u := by
    intro t ht u hu hid
    have hfound := hsame t ht
    rw [hid, hsame u hu] at hfound
    exact (Option.some.inj hfound).symm
  rcases (find?_index toNat_injective hinj).mp h with ⟨hmem, rfl⟩
  exact hsame templ hmem

/-- The template of one more record joins the container. -/
theorem templatesOf_append_singleton (hlib : lib.Lawful) {rs : List (DataRecord V)}
    {r : DataRecord V} {templ : Template} (h : m.getTemplateObject r.templateId = some templ) :
    templatesOf m (rs ++ [r]) = lib.addTemplate (templatesOf m rs) templ := by
  have happend : (rs ++ [r]).filterMap (fun r => m.getTemplateObject r.templateId) =
      rs.filterMap (fun r => m.getTemplateObject r.templateId) ++ [templ] := by
    rw [List.filterMap_append]
    simp [h]
  rw [templatesOf, happend, index_append_singleton]
  symm
  apply hlib.addTemplate_eq_insert
  intro u hu
  have hfound := getTemplateObject_of_find?_templatesOf hu
  rw [(Message.mem_of_getTemplateObject h).2, h] at hfound
  exact (Option.some.inj hfound).symm

/-- One more record is put under its object. -/
theorem Splits.step (hlib : lib.Lawful) {s s' : Splitter V} {rs : List (DataRecord V)}
    {r : DataRecord V} (h : Splits lib m s rs) (hstep : splitRecord lib m s r = .ok s') :
    Splits lib m s' (rs ++ [r]) := by
  rcases splitRecord_eq_ok hstep with ⟨templ, k, htempl, hkey, hless, rfl⟩
  refine ⟨?_, h.records.collect XmlObjectKey.rank_injective hkey, ?_, ?_⟩
  · intro r' hr'
    rcases List.mem_append.mp hr' with hr' | hr'
    · exact h.known r' hr'
    · rw [List.mem_singleton.mp hr']
      exact ⟨k, hkey⟩
  · intro k'
    have hold : (s.objectTemplates.find? k).getD .empty =
        templatesOf m (having (lib.keyOf m) rs k) := by
      rw [h.objectTemplates k]
      by_cases hnil : having (lib.keyOf m) rs k = []
      · rw [if_pos hnil, hnil]
        rfl
      · rw [if_neg hnil]
        rfl
    rw [OrderedMap.find?_insert XmlObjectKey.rank_injective]
    by_cases hk : k' = k
    · subst hk
      rw [if_pos rfl, hold, having_append_self hkey, if_neg (by simp),
        templatesOf_append_singleton hlib htempl]
    · have hne : lib.keyOf m r ≠ some k' := by
        rw [hkey]
        intro heq
        exact hk (Option.some.inj heq).symm
      rw [if_neg hk, having_append_of_ne hne, h.objectTemplates k']
  · intro k₁ h₁ k₂ h₂
    rcases (OrderedMap.mem_keys_insert_iff XmlObjectKey.rank_injective).mp h₁ with rfl | hold₁
    · rcases (OrderedMap.mem_keys_insert_iff XmlObjectKey.rank_injective).mp h₂ with rfl | hold₂
      · exact not_less_self _
      · exact hless k₂ hold₂
    · rcases (OrderedMap.mem_keys_insert_iff XmlObjectKey.rank_injective).mp h₂ with rfl | hold₂
      · rw [and_comm]
        exact hless k₁ hold₁
      · exact h.comparable k₁ hold₁ k₂ hold₂

/-- The records of a message are split in order; the templates that none of them uses are not
touched. -/
theorem splits_foldlM (hlib : lib.Lawful) {s s' : Splitter V} {done rs : List (DataRecord V)}
    (h : Splits lib m s done) (hfold : rs.foldlM (splitRecord lib m) s = .ok s') :
    Splits lib m s' (done ++ rs) ∧ s'.templates = s.templates := by
  induction rs generalizing s done with
  | nil =>
    cases hfold
    rw [List.append_nil]
    exact ⟨h, rfl⟩
  | cons r rs ih =>
    rw [List.foldlM_cons] at hfold
    cases hstep : splitRecord lib m s r with
    | error e => simp [hstep, bind, Except.bind] at hfold
    | ok s₁ =>
      have htail : rs.foldlM (splitRecord lib m) s₁ = .ok s' := by
        simpa [hstep, bind, Except.bind] using hfold
      have hrest := ih (h.step hlib hstep) htail
      have hsame : s₁.templates = s.templates := by
        rcases splitRecord_eq_ok hstep with ⟨_, _, _, _, _, rfl⟩
        rfl
      rw [List.append_assoc, hsame] at hrest
      exact hrest

/-- The splitter of a message: its records under their objects, and the templates
that no record uses. -/
theorem split_eq_ok (hlib : lib.Lawful) {s : Splitter V} (h : split lib m = .ok s) :
    Splits lib m s m.records ∧
      s.templates = (notRelated m).foldl lib.addTemplate .empty := by
  unfold split at h
  cases hfold : m.records.foldlM (splitRecord lib m) Splitter.new with
  | error e => simp [hfold] at h
  | ok s₀ =>
    rcases splits_foldlM hlib splits_new hfold with ⟨hsplits, htemplates⟩
    rw [hfold] at h
    rw [← Except.ok.inj h]
    constructor
    · exact ⟨hsplits.known, hsplits.records, hsplits.objectTemplates, hsplits.comparable⟩
    · rw [htemplates]
      rfl

/-! ## Keys and templates of a splitter -/

/-- The objects of a type are those that the splitter has templates or records for. -/
theorem mem_objectKeys_iff {s : Splitter V} {k : XmlObjectKey} {objectType : Nat} :
    k ∈ objectKeys s objectType ↔ k.objectType = objectType ∧
      (k ∈ s.objectTemplates.keys ∨ k ∈ s.objectDataRecords.keys) := by
  have hkeys : objectKeys s objectType = (index XmlObjectKey.rank (fun k => k)
      ((s.objectTemplates.keys ++ s.objectDataRecords.keys).filter fun k =>
        decide (k.objectType = objectType))).keys := rfl
  rw [hkeys, OrderedMap.mem_keys_iff XmlObjectKey.rank_injective]
  simp only [find?_index XmlObjectKey.rank_injective (fun _ _ _ _ hab => hab), List.mem_filter,
    List.mem_append, decide_eq_true_eq]
  constructor
  · rintro ⟨v, hv, rfl⟩
    exact ⟨hv.2, hv.1⟩
  · intro hk
    exact ⟨k, ⟨hk.2, hk.1⟩, rfl⟩

theorem nodup_objectKeys {s : Splitter V} (objectType : Nat) : (objectKeys s objectType).Nodup :=
  OrderedMap.nodup_keys _

section Splitter

variable {s : Splitter V} (h : Splits lib m s m.records)
include h

/-- The splitter has templates for the objects that have records. -/
theorem Splits.mem_objectTemplates_keys {k : XmlObjectKey} :
    k ∈ s.objectTemplates.keys ↔ lib.recordsOf m k ≠ [] := by
  rw [OrderedMap.mem_keys_iff XmlObjectKey.rank_injective, h.objectTemplates k]
  by_cases hnil : having (lib.keyOf m) m.records k = []
  · simp [Library.recordsOf, hnil]
  · simp [Library.recordsOf, hnil]

/-- The splitter has records for the same objects. -/
theorem Splits.mem_objectDataRecords_keys {k : XmlObjectKey} :
    k ∈ s.objectDataRecords.keys ↔ lib.recordsOf m k ≠ [] := by
  rw [OrderedMap.mem_keys_iff XmlObjectKey.rank_injective, h.records k]
  by_cases hnil : having (lib.keyOf m) m.records k = []
  · simp [Library.recordsOf, hnil]
  · simp [Library.recordsOf, hnil]

/-- The keys of an object type are those of its objects that have records. -/
theorem Splits.mem_objectKeys {k : XmlObjectKey} {objectType : Nat} :
    k ∈ objectKeys s objectType ↔ k.objectType = objectType ∧ lib.recordsOf m k ≠ [] := by
  rw [mem_objectKeys_iff, h.mem_objectTemplates_keys, h.mem_objectDataRecords_keys, or_self]

variable (hids : (m.templates.map Template.id).Nodup)
include hids

omit h in
/-- The templates of records of one message differ in their ids. -/
theorem templatesOf_inj {rs : List (DataRecord V)} :
    ∀ t ∈ rs.filterMap (fun r => m.getTemplateObject r.templateId),
    ∀ u ∈ rs.filterMap (fun r => m.getTemplateObject r.templateId), t.id = u.id → t = u := by
  intro t ht u hu hid
  rcases List.mem_filterMap.mp ht with ⟨r, -, hr⟩
  rcases List.mem_filterMap.mp hu with ⟨r', -, hr'⟩
  exact eq_of_nodup_ids hids (Message.mem_of_getTemplateObject hr).1
    (Message.mem_of_getTemplateObject hr').1 hid

/-- Under its object, a record's template is the one the message has for it. -/
theorem Splits.getTemplate_eq {k : XmlObjectKey} {r : DataRecord V} {templ : Template}
    (hr : r ∈ lib.recordsOf m k) (htempl : m.getTemplateObject r.templateId = some templ) :
    getTemplate s k r.templateId = .ok templ := by
  have hne : having (lib.keyOf m) m.records k ≠ [] := List.ne_nil_of_mem hr
  have hmem : templ ∈ (having (lib.keyOf m) m.records k).filterMap
      (fun r => m.getTemplateObject r.templateId) :=
    List.mem_filterMap.mpr ⟨r, hr, htempl⟩
  have hid : templ.id = r.templateId := (Message.mem_of_getTemplateObject htempl).2
  have hfind : (templatesOf m (having (lib.keyOf m) m.records k)).find? r.templateId =
      some templ :=
    (find?_index toNat_injective (templatesOf_inj hids)).mpr ⟨hmem, hid⟩
  rw [getTemplate, h.objectTemplates k, if_neg hne]
  simp only [hfind]

/-- The templates that records use, as the writer collects them. -/
def relatedTemplates (s : Splitter V) : List Template :=
  (index UInt16.toNat Template.id (s.objectTemplates.values.flatMap OrderedMap.values)).values

/-- Under its objects, the splitter has the templates that the records use. -/
theorem Splits.mem_collected {t : Template} :
    t ∈ s.objectTemplates.values.flatMap OrderedMap.values ↔
      ∃ r ∈ m.records, m.getTemplateObject r.templateId = some t := by
  simp only [List.mem_flatMap, OrderedMap.mem_values_iff]
  constructor
  · rintro ⟨c, ⟨k, hk⟩, id, hid⟩
    rw [h.objectTemplates k] at hk
    by_cases hnil : having (lib.keyOf m) m.records k = []
    · simp [hnil] at hk
    · rw [if_neg hnil] at hk
      cases hk
      have hmem := ((find?_index toNat_injective (templatesOf_inj hids)).mp hid).1
      rcases List.mem_filterMap.mp hmem with ⟨r, hr, hrt⟩
      exact ⟨r, (List.mem_filter.mp hr).1, hrt⟩
  · rintro ⟨r, hr, hrt⟩
    rcases h.known r hr with ⟨k, hk⟩
    have hin : r ∈ having (lib.keyOf m) m.records k :=
      List.mem_filter.mpr ⟨hr, decide_eq_true hk⟩
    refine ⟨templatesOf m (having (lib.keyOf m) m.records k), ⟨k, ?_⟩, t.id, ?_⟩
    · rw [h.objectTemplates k, if_neg (List.ne_nil_of_mem hin)]
    · exact (find?_index toNat_injective (templatesOf_inj hids)).mpr
        ⟨List.mem_filterMap.mpr ⟨r, hin, hrt⟩, rfl⟩

theorem Splits.collected_inj :
    ∀ t ∈ s.objectTemplates.values.flatMap OrderedMap.values,
    ∀ u ∈ s.objectTemplates.values.flatMap OrderedMap.values, t.id = u.id → t = u := by
  intro t ht u hu hid
  rcases (h.mem_collected hids).mp ht with ⟨r, -, hr⟩
  rcases (h.mem_collected hids).mp hu with ⟨r', -, hr'⟩
  exact eq_of_nodup_ids hids (Message.mem_of_getTemplateObject hr).1
    (Message.mem_of_getTemplateObject hr').1 hid

/-- The templates the writer collects are those that records use. -/
theorem Splits.mem_relatedTemplates {t : Template} :
    t ∈ relatedTemplates s ↔ ∃ r ∈ m.records, m.getTemplateObject r.templateId = some t := by
  rw [relatedTemplates, mem_values_index toNat_injective (h.collected_inj hids),
    h.mem_collected hids]

/-- The writer collects each of them once. -/
theorem Splits.nodup_relatedTemplates : (relatedTemplates s).Nodup :=
  nodup_values_index toNat_injective (h.collected_inj hids)

omit h in
theorem notRelated_inj : ∀ t ∈ notRelated m, ∀ u ∈ notRelated m, t.id = u.id → t = u := by
  intro t ht u hu hid
  exact eq_of_nodup_ids hids (List.mem_filter.mp ht).1 (List.mem_filter.mp hu).1 hid

end Splitter

/-! ## Writing -/

/-- What a child of the root element is written from. -/
inductive Written (V : Type)
  | template (t : Template)
  | record (r : DataRecord V)

namespace Written

/-- The template, if it is one. -/
def template? : Written V → Option Template
  | .template t => some t
  | .record _ => none

/-- The record, if it is one. -/
def record? : Written V → Option (DataRecord V)
  | .template _ => none
  | .record r => some r

/-- The element written for a template or a record of a message. -/
def Writes (lib : Library V) (m : Message V) (n : XmlNode) : Written V → Prop
  | .template t => n = writeTemplate t
  | .record r => ∃ templ, m.getTemplateObject r.templateId = some templ ∧
      writeDataRecord lib templ r = .ok [n]

end Written

open Written

/-- The records of an object in the order in which they are written. -/
def writtenOf (lib : Library V) (m : Message V) (k : XmlObjectKey) : List (DataRecord V) :=
  (lib.recordsOf m k).filter (m.recordHas lib.isSetid) ++
    (lib.recordsOf m k).filter (m.recordHas lib.isOptns)

/-- What is written for an object type. -/
def itemsOf (lib : Library V) (m : Message V) (s : Splitter V) (objectType : Nat) :
    List (Written V) :=
  if objectKeys s objectType = [] then []
  else (relatedTemplates s).map .template ++
    (objectKeys s objectType).flatMap fun k => (writtenOf lib m k).map .record

/-- What is written for a message. -/
def items (lib : Library V) (m : Message V) (s : Splitter V) : List (Written V) :=
  s.templates.values.map .template ++
    (List.range lib.maxObjectType).flatMap (itemsOf lib m s)

/-- Templates are written one by one. -/
theorem forall₂_writeTemplate (ts : List Template) :
    List.Forall₂ (Writes lib m) (ts.map writeTemplate) (ts.map .template) := by
  induction ts with
  | nil => exact List.Forall₂.nil
  | cons t ts ih => exact List.Forall₂.cons rfl ih

/-- A record that is written is one element with a child for each field. -/
theorem writeDataRecord_eq_ok {templ : Template} {r : DataRecord V} {ns : List XmlNode}
    (h : writeDataRecord lib templ r = .ok ns) :
    ∃ fields, writeAll (writeField lib templ) r.fields = .ok fields ∧
      ns = [.element .datarecord [(.templateId, printNat r.templateId.toNat)] fields] := by
  unfold writeDataRecord at h
  cases hfields : writeAll (writeField lib templ) r.fields with
  | error e => simp [hfields] at h
  | ok fields =>
    rw [hfields] at h
    exact ⟨fields, rfl, (Except.ok.inj h).symm⟩

section Splitter

variable {s : Splitter V} (h : Splits lib m s m.records)
  (hids : (m.templates.map Template.id).Nodup)
include h hids

/-- A record is written if its template has one of the types asked for. -/
theorem forall₂_printRecord {types : UInt32 → Bool} {k : XmlObjectKey} {r : DataRecord V}
    {ns : List XmlNode} (hr : r ∈ lib.recordsOf m k)
    (hok : printRecord lib s types k r = .ok ns) :
    List.Forall₂ (Writes lib m) ns (if m.recordHas types r then [.record r] else []) := by
  have hkey : lib.keyOf m r = some k := of_decide_eq_true (List.mem_filter.mp hr).2
  cases htempl : m.getTemplateObject r.templateId with
  | none => simp [Library.keyOf, htempl] at hkey
  | some templ =>
    unfold printRecord at hok
    rw [h.getTemplate_eq hids hr htempl] at hok
    have hhas : m.recordHas types r = types templ.type := by
      rw [Message.recordHas, htempl]
    rw [hhas]
    by_cases htype : types templ.type
    · simp only [htype, if_true] at hok ⊢
      rcases writeDataRecord_eq_ok hok with ⟨fields, -, rfl⟩
      exact List.Forall₂.cons ⟨templ, htempl, hok⟩ List.Forall₂.nil
    · simp only [htype, Bool.false_eq_true, if_false, Except.ok.injEq] at hok ⊢
      subst hok
      exact List.Forall₂.nil

/-- The records of an object whose templates have one of the types asked for are written in
order. -/
theorem forall₂_printRecords {types : UInt32 → Bool} {k : XmlObjectKey} {ns : List XmlNode}
    (hok : printRecords lib s types k = .ok ns) :
    List.Forall₂ (Writes lib m) ns
      (((lib.recordsOf m k).filter (m.recordHas types)).map .record) := by
  unfold printRecords at hok
  rw [h.records.getD k] at hok
  have hstep := forall₂_of_writeAll (r := Writes lib m)
    (fun _ hr _ hok => forall₂_printRecord h hids hr hok) hok
  rwa [flatMap_ite_singleton] at hstep

/-- An object is written as its records, those with options last. -/
theorem forall₂_writeObject {k : XmlObjectKey} {ns : List XmlNode}
    (hok : writeObject lib s k = .ok ns) :
    List.Forall₂ (Writes lib m) ns ((writtenOf lib m k).map .record) := by
  unfold writeObject at hok
  cases hdata : printTemplateDataRecords lib s k with
  | error e => simp [hdata] at hok
  | ok data =>
    cases hoptions : printOptionDataRecords lib s k with
    | error e => simp [hdata, hoptions] at hok
    | ok options =>
      simp only [hdata, hoptions, Except.ok.injEq] at hok
      subst hok
      rw [writtenOf, List.map_append]
      exact List.rel_append (forall₂_printRecords h hids hdata)
        (forall₂_printRecords h hids hoptions)

/-- The objects of one type are written behind all templates that records use. -/
theorem forall₂_writeObjectTypeData {objectType : Nat} {ns : List XmlNode}
    (hok : writeObjectTypeData lib s objectType = .ok ns) :
    List.Forall₂ (Writes lib m) ns (itemsOf lib m s objectType) := by
  unfold writeObjectTypeData at hok
  rw [itemsOf]
  by_cases hnil : objectKeys s objectType = []
  · simp only [hnil, if_true, Except.ok.injEq] at hok ⊢
    subst hok
    exact List.Forall₂.nil
  · rw [if_neg hnil] at hok ⊢
    cases hrecords : writeRecords lib s (objectKeys s objectType) with
    | error e => simp [hrecords] at hok
    | ok records =>
      simp only [hrecords, Except.ok.injEq] at hok
      subst hok
      apply List.rel_append
      · exact forall₂_writeTemplate (relatedTemplates s)
      · exact forall₂_of_writeAll (fun k _ ns => forall₂_writeObject h hids) hrecords

end Splitter

/-- The children of the root element of a written document, in order. -/
theorem getMessage_eq_ok (hlib : lib.Lawful) (hids : (m.templates.map Template.id).Nodup)
    {doc : XmlNode}
    (hok : getMessage lib m = .ok doc) :
    ∃ s nodes, Splits lib m s m.records ∧
      s.templates = index UInt16.toNat Template.id (notRelated m) ∧
      doc = .element .ipapMessage (headerAttributes m) nodes ∧
      List.Forall₂ (Writes lib m) nodes (items lib m s) := by
  unfold getMessage at hok
  cases hsplit : split lib m with
  | error e => simp [hsplit] at hok
  | ok s =>
    rcases split_eq_ok hlib hsplit with ⟨hs, htemplates⟩
    rw [hlib.foldl_addTemplate (notRelated_inj hids)] at htemplates
    cases hdata : writeAll (writeObjectTypeData lib s) (List.range lib.maxObjectType) with
    | error e => simp [hsplit, hdata] at hok
    | ok data =>
      simp only [hsplit, hdata, Except.ok.injEq] at hok
      refine ⟨s, _, hs, htemplates, hok.symm, ?_⟩
      apply List.rel_append
      · exact forall₂_writeTemplate s.templates.values
      · exact forall₂_of_writeAll (fun _ _ _ => forall₂_writeObjectTypeData hs hids) hdata

/-! ## The templates and the records written -/

section Items

variable {s : Splitter V} (h : Splits lib m s m.records)
  (htemplates : s.templates = index UInt16.toNat Template.id (notRelated m))
  (hids : (m.templates.map Template.id).Nodup)

theorem filterMap_template?_templates (ts : List Template) :
    (ts.map Written.template).filterMap (template? (V := V)) = ts := by
  rw [List.filterMap_map]
  exact List.filterMap_some

theorem filterMap_template?_records (rs : List (DataRecord V)) :
    (rs.map Written.record).filterMap template? = [] := by
  rw [List.filterMap_map]
  exact List.filterMap_eq_nil_iff.mpr fun _ _ => rfl

theorem filterMap_record?_templates (ts : List Template) :
    (ts.map Written.template).filterMap (record? (V := V)) = [] := by
  rw [List.filterMap_map]
  exact List.filterMap_eq_nil_iff.mpr fun _ _ => rfl

theorem filterMap_record?_records (rs : List (DataRecord V)) :
    (rs.map Written.record).filterMap record? = rs := by
  rw [List.filterMap_map]
  exact List.filterMap_some

/-- The templates written for an object type. -/
theorem template?_itemsOf (objectType : Nat) :
    (itemsOf lib m s objectType).filterMap template? =
      if objectKeys s objectType = [] then [] else relatedTemplates s := by
  rw [itemsOf]
  by_cases hnil : objectKeys s objectType = []
  · simp [hnil]
  · rw [if_neg hnil, if_neg hnil, List.filterMap_append, filterMap_template?_templates,
      List.filterMap_flatMap]
    have hnone : (objectKeys s objectType).flatMap
        (fun k => ((writtenOf lib m k).map Written.record).filterMap template?) = [] := by
      rw [List.flatMap_eq_nil_iff]
      intro k _
      exact filterMap_template?_records _
    rw [hnone, List.append_nil]

/-- The records written for an object type. -/
theorem record?_itemsOf (objectType : Nat) :
    (itemsOf lib m s objectType).filterMap record? =
      (objectKeys s objectType).flatMap (writtenOf lib m) := by
  rw [itemsOf]
  by_cases hnil : objectKeys s objectType = []
  · simp [hnil]
  · rw [if_neg hnil, List.filterMap_append, filterMap_record?_templates, List.nil_append,
      List.filterMap_flatMap]
    apply List.flatMap_congr
    intro k _
    exact filterMap_record?_records _

/-- The objects in the order in which they are written. -/
def writtenKeys (lib : Library V) (s : Splitter V) : List XmlObjectKey :=
  (List.range lib.maxObjectType).flatMap (objectKeys s)

/-- Each object is written once. -/
theorem nodup_writtenKeys : (writtenKeys lib s).Nodup := by
  rw [writtenKeys, List.nodup_flatMap]
  refine ⟨fun objectType _ => nodup_objectKeys objectType, ?_⟩
  apply List.nodup_range.imp
  intro a b hab k ha hb
  rw [mem_objectKeys_iff] at ha hb
  exact hab (ha.1.symm.trans hb.1)

/-- The records in the order in which they are written. -/
theorem record?_items :
    (items lib m s).filterMap record? = (writtenKeys lib s).flatMap (writtenOf lib m) := by
  rw [items, List.filterMap_append, filterMap_record?_templates, List.nil_append,
    List.filterMap_flatMap, writtenKeys, List.flatMap_assoc]
  apply List.flatMap_congr
  intro objectType _
  exact record?_itemsOf objectType

/-- The templates written: those that no record uses, and then, for each type with objects, those
that records use. -/
theorem template?_items :
    (items lib m s).filterMap template? = s.templates.values ++
      (List.range lib.maxObjectType).flatMap fun objectType =>
        if objectKeys s objectType = [] then [] else relatedTemplates s := by
  rw [items, List.filterMap_append, filterMap_template?_templates, List.filterMap_flatMap]
  congr 1
  apply List.flatMap_congr
  intro objectType _
  exact template?_itemsOf objectType

include h

/-- The objects written are those with records, of a type below the largest. -/
theorem mem_writtenKeys {k : XmlObjectKey} :
    k ∈ writtenKeys lib s ↔ k.objectType < lib.maxObjectType ∧ lib.recordsOf m k ≠ [] := by
  simp only [writtenKeys, List.mem_flatMap, List.mem_range, h.mem_objectKeys]
  constructor
  · rintro ⟨objectType, hlt, rfl, hne⟩
    exact ⟨hlt, hne⟩
  · rintro ⟨hlt, hne⟩
    exact ⟨k.objectType, hlt, rfl, hne⟩

end Items

end Xml
end Anslp
