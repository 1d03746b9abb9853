import Anslp.Lib.Grouping
import Anslp.Lib.Numerals
import Mathlib.Data.Prod.Lex
import Mathlib.Data.Char
import Mathlib.Data.List.Lex
import Mathlib.Order.Nat

/-!
# IPAP messages as data

A message of the auction protocol carries a header, templates that say which
fields a record has, and data records.  The message library itself is outside
the repository; what the program calls of it is a parameter here, with the
behaviour it relies on as laws.  A record belongs to an object, told by the
values of the key fields of its template.

Main results:

- Theorem {lit}`Message.getTemplateObject_eq_some_iff`: with ids that differ, the
  template of an id is the listed one.
- Theorem {lit}`Message.getTemplateObject_perm`: it does not depend on the order in
  which templates are listed.
- Theorem {lit}`Library.Lawful.foldl_addTemplate`: templates that are told apart by their
  ids are found in a container they are put into.

Current gaps:

- The bytes of a message are the concern of the library and are not modelled here.
-/

namespace Anslp
namespace Ipap

open Numerals

/-! ## Data -/

/-- What tells fields apart ({lit}`ipap_field_key`). -/
structure FieldKey where
  eno : Int32
  ftype : Int32
deriving DecidableEq, Repr

/-- The definition of a field ({lit}`ipap_field_type_t`). -/
structure FieldType where
  key : FieldKey
  coding : Int32
  length : Int32
  name : Text
  xmlName : Text
deriving DecidableEq, Repr

/-- A field as a template is asked for it ({lit}`ipap_fields_t`). -/
structure RawField where
  eno : UInt32
  ienum : UInt16
  length : UInt16
deriving DecidableEq, Repr

/-- A template: its fields in order. -/
structure Template where
  id : UInt16
  type : UInt32
  fields : List FieldType
deriving DecidableEq, Repr

/-- The fields of a data record with their values, in the order of iteration. -/
abbrev DataFields (V : Type) :=
  List (FieldKey × V)

/-- A data record of a template. -/
structure DataRecord (V : Type) where
  templateId : UInt16
  fields : DataFields V
deriving DecidableEq, Repr

/-- The header of a message. -/
structure Header where
  domain : Int32
  version : Int32
  exportTime : UInt32
  seqNo : UInt32
  ackSeqNo : UInt32
deriving DecidableEq, Repr

/-- A message, as its accessors show it. -/
structure Message (V : Type) where
  header : Header
  lastTemplateId : UInt16
  templates : List Template
  records : List (DataRecord V)
deriving DecidableEq, Repr

/-- A container of templates, as its accessors show it: the ids that it lists, in their
order, and the template of each ({lit}`ipap_template_container`). -/
abbrev TemplateContainer :=
  OrderedMap UInt16.toNat Template

/-- The template types whose records the program writes. -/
inductive TemplateType
  | setidAuction
  | setidBidObject
  | setidAskObject
  | setidAllocObject
  | optnsAuction
  | optnsBidObject
  | optnsAskObject
  | optnsAllocObject
deriving DecidableEq, Repr

/-- The template of an id. -/
def Message.getTemplateObject {V : Type} (m : Message V) (id : UInt16) : Option Template :=
  m.templates.find? fun t => decide (t.id = id)

/-- The template of a record has one of these types. -/
def Message.recordHas {V : Type} (m : Message V) (types : UInt32 → Bool)
    (r : DataRecord V) : Bool :=
  match m.getTemplateObject r.templateId with
  | none => false
  | some templ => types templ.type

/-- An object that records are about: its type and the values of its key fields. -/
structure XmlObjectKey where
  objectType : Nat
  idObject : Text
deriving DecidableEq, Repr

/-- {lit}`xml_object_key::operator<`: the ids are compared also when the type of
the left key is the greater one. -/
def XmlObjectKey.less (k rhs : XmlObjectKey) : Bool :=
  if k.objectType < rhs.objectType then true else decide (k.idObject < rhs.idObject)

/-- Where two keys are not both less than the other, they compare by type, then id. -/
def XmlObjectKey.rank (k : XmlObjectKey) : Nat ×ₗ Text :=
  toLex (k.objectType, k.idObject)

/-! ## The library -/

/-- What the program calls of the message library, and where its build puts the document
type.  A call that throws gives {lit}`none`. -/
structure Library (V : Type) where
  /-- {lit}`DTD_FILENAME`. -/
  dtdFilename : String
  /-- The number of a template type. -/
  typeNumber : TemplateType → UInt32
  /-- {lit}`IPAP_MAX_OBJECT_TYPE`. -/
  maxObjectType : Nat
  /-- {lit}`ipap_field::writeValue`. -/
  writeValue : FieldType → V → Option Text
  /-- {lit}`ipap_field::parse`. -/
  parse : FieldType → Text → Option V
  /-- {lit}`ipap_template::getTemplateTypeKeys`. -/
  getTemplateTypeKeys : UInt32 → Option (List FieldKey)
  /-- {lit}`ipap_template::getObjectType`. -/
  getObjectType : UInt32 → Option Nat
  /-- {lit}`ipap_template::get_field`. -/
  getField : Template → FieldKey → Option FieldType
  /-- The text of the exception that reading the key fields of a record throws. -/
  keyError : Template → DataFields V → String
  /-- {lit}`ipap_template_container::add_template`. -/
  addTemplate : TemplateContainer → Template → TemplateContainer
  /-- {lit}`ipap_data_record::get_field`. -/
  getData : DataFields V → FieldKey → Option V
  /-- {lit}`ipap_data_record::insert_field`. -/
  insertField : DataFields V → FieldKey → V → DataFields V
  /-- The definition that {lit}`make_template` finds for a field asked for. -/
  define : RawField → Option FieldType
  /-- What {lit}`include_data` checks of a record. -/
  fits : Template → DataFields V → Bool
  /-- A message just constructed, with its domain and version. -/
  newMessage : Int32 → Int32 → Message V
  /-- {lit}`ipap_message::make_template`. -/
  makeTemplate : Message V → List RawField → UInt32 → UInt16 → Option (Message V)
  /-- {lit}`ipap_message::include_data`. -/
  includeData : Message V → UInt16 → DataRecord V → Option (Message V)

namespace Library

variable {V : Type} (lib : Library V)

/-- A record filled field by field. -/
def insertFields (es : DataFields V) : DataFields V :=
  es.foldl (fun fs e => lib.insertField fs e.1 e.2) []

/-- The types whose records state an object. -/
def isSetid (type : UInt32) : Bool :=
  type == lib.typeNumber .setidAuction || type == lib.typeNumber .setidBidObject ||
    type == lib.typeNumber .setidAskObject || type == lib.typeNumber .setidAllocObject

/-- The types whose records state options of an object. -/
def isOptns (type : UInt32) : Bool :=
  type == lib.typeNumber .optnsAuction || type == lib.typeNumber .optnsBidObject ||
    type == lib.typeNumber .optnsAskObject || type == lib.typeNumber .optnsAllocObject

/-- The values of the key fields, each behind a percent sign. -/
def dataKey (templ : Template) (data : DataFields V) : List FieldKey → Option Text
  | [] => some []
  | k :: ks =>
    match lib.getField templ k, lib.getData data k with
    | some field, some value =>
      match lib.writeValue field value, dataKey templ data ks with
      | some text, some rest => some ('%' :: text ++ rest)
      | _, _ => none
    | _, _ => none

/-- The object a record of a template is about. -/
def objectKey (templ : Template) (data : DataFields V) : Option XmlObjectKey :=
  match lib.getTemplateTypeKeys templ.type with
  | none => none
  | some keys =>
    match lib.dataKey templ data keys, lib.getObjectType templ.type with
    | some id, some objType => some ⟨objType, id⟩
    | _, _ => none

/-- The object a record of a message is about. -/
def keyOf (m : Message V) (r : DataRecord V) : Option XmlObjectKey :=
  match m.getTemplateObject r.templateId with
  | none => none
  | some templ => lib.objectKey templ r.fields

/-- The records of one object. -/
def recordsOf (m : Message V) (k : XmlObjectKey) : List (DataRecord V) :=
  Grouping.having (lib.keyOf m) m.records k

/-- What writing a message relies on.  A template that is put into a container is found
there under its id, unless the container keeps another one that it has under this id; which
of the two it keeps is up to the library, but not a matter of its other templates. -/
structure Lawful : Prop where
  typeNumber_injective : Function.Injective lib.typeNumber
  objectType_lt : ∀ {type objType}, lib.getObjectType (lib.typeNumber type) = some objType →
    objType < lib.maxObjectType
  key_getField : ∀ {templ k field}, lib.getField templ k = some field → field.key = k
  find?_addTemplate_of_ne : ∀ (c : TemplateContainer) (t : Template) {id}, id ≠ t.id →
    (lib.addTemplate c t).find? id = c.find? id
  find?_addTemplate_self : ∀ (c : TemplateContainer) (t : Template),
    ∃ u, (lib.addTemplate c t).find? t.id = some u ∧ (u = t ∨ c.find? t.id = some u)
  find?_addTemplate_congr : ∀ {c c' : TemplateContainer} {t : Template},
    c.find? t.id = c'.find? t.id →
      (lib.addTemplate c t).find? t.id = (lib.addTemplate c' t).find? t.id

/-- What reading a message back relies on besides.  Templates may be listed in any order. -/
structure ReadsBack : Prop extends lib.Lawful where
  parse_writeValue : ∀ {field value text}, lib.writeValue field value = some text →
    lib.parse field text = some value
  insertFields_again : ∀ es, lib.insertFields (lib.insertFields es) = lib.insertFields es
  define_eq : ∀ {raw field}, lib.define raw = some field →
    field.key.eno.toInt = raw.eno.toNat ∧ field.key.ftype.toInt = raw.ienum.toNat ∧
      field.length.toInt = raw.length.toNat
  newMessage_eq : ∀ domain version, (lib.newMessage domain version).header.domain = domain ∧
    (lib.newMessage domain version).header.version = version ∧
    (lib.newMessage domain version).templates = [] ∧ (lib.newMessage domain version).records = []
  makeTemplate_new : ∀ (m : Message V) {raws fields} (type id),
    List.Forall₂ (fun raw field => lib.define raw = some field) raws fields →
    (∀ t ∈ m.templates, t.id ≠ id) →
    ∃ m', lib.makeTemplate m raws type id = some m' ∧ m'.header = m.header ∧
      m'.records = m.records ∧ m'.templates.Perm (⟨id, type, fields⟩ :: m.templates)
  includeData_eq : ∀ (m : Message V) {templ} (r), m.getTemplateObject r.templateId = some templ →
    lib.fits templ r.fields = true →
    ∃ m', lib.includeData m r.templateId r = some m' ∧ m'.header = m.header ∧
      m'.records = m.records ++ [r] ∧ m'.templates.Perm m.templates

/-- Which fields identify an object does not matter to these laws. -/
theorem Lawful.withTypeKeys {lib : Library V} (h : lib.Lawful)
    (typeKeys : UInt32 → Option (List FieldKey)) :
    ({ lib with getTemplateTypeKeys := typeKeys } : Library V).Lawful where
  typeNumber_injective := h.typeNumber_injective
  objectType_lt := h.objectType_lt
  key_getField := h.key_getField
  find?_addTemplate_of_ne := h.find?_addTemplate_of_ne
  find?_addTemplate_self := h.find?_addTemplate_self
  find?_addTemplate_congr := h.find?_addTemplate_congr

/-- Making a template that is there already changes nothing. -/
def AcceptsAgain : Prop :=
  ∀ (m : Message V) {raws fields} (type id),
    List.Forall₂ (fun raw field => lib.define raw = some field) raws fields →
    ⟨id, type, fields⟩ ∈ m.templates →
    ∃ m', lib.makeTemplate m raws type id = some m' ∧ m'.header = m.header ∧
      m'.records = m.records ∧ m'.templates.Perm m.templates

/-- A message as the library lets one be built: templates under different ids,
made of fields that are defined, a number of them that an {lit}`int` counts, and
records filled field by field that were checked against their templates. -/
structure WellFormed (m : Message V) : Prop where
  nodup_ids : (m.templates.map Template.id).Nodup
  defined : ∀ t ∈ m.templates, ∀ field ∈ t.fields, ∃ raw, lib.define raw = some field
  count : ∀ t ∈ m.templates, t.fields.length < 2 ^ 31
  filled : ∀ r ∈ m.records, ∃ es, lib.insertFields es = r.fields
  included : ∀ r ∈ m.records, ∀ {templ}, m.getTemplateObject r.templateId = some templ →
    lib.fits templ r.fields = true

end Library

/-! ## Containers of templates -/

theorem toNat_injective : Function.Injective UInt16.toNat := by
  intro a b h
  exact UInt16.toNat_inj.mp h

namespace Library.Lawful

variable {V : Type} {lib : Library V} (h : lib.Lawful)
include h

/-- A template that is alone under its id is put into a container as into a map. -/
theorem addTemplate_eq_insert {c : TemplateContainer} {t : Template}
    (halone : ∀ u, c.find? t.id = some u → u = t) : lib.addTemplate c t = c.insert t.id t := by
  apply OrderedMap.eq_of_find? toNat_injective
  intro id
  rw [OrderedMap.find?_insert toNat_injective]
  by_cases hid : id = t.id
  · rcases h.find?_addTemplate_self c t with ⟨u, hu, hboth⟩
    have hut : u = t := hboth.elim (fun heq => heq) (halone u)
    rw [if_pos hid, hid, hu, hut]
  · rw [if_neg hid, h.find?_addTemplate_of_ne c t hid]

/-- Templates that are told apart by their ids are put into an empty container as into a
map. -/
theorem foldl_addTemplate {ts : List Template}
    (hids : ∀ t ∈ ts, ∀ u ∈ ts, t.id = u.id → t = u) :
    ts.foldl lib.addTemplate .empty = Grouping.index UInt16.toNat Template.id ts := by
  induction ts using List.reverseRecOn with
  | nil => rfl
  | append_singleton ts t ih =>
    have hbefore : ∀ t ∈ ts, ∀ u ∈ ts, t.id = u.id → t = u := fun t ht u hu =>
      hids t (List.mem_append_left _ ht) u (List.mem_append_left _ hu)
    rw [List.foldl_append, ih hbefore, Grouping.index_append_singleton]
    apply h.addTemplate_eq_insert
    intro u hu
    rcases (Grouping.find?_index toNat_injective hbefore).mp hu with ⟨hmem, hid⟩
    exact hids u (List.mem_append_left _ hmem) t (List.mem_append_right _ List.mem_cons_self) hid

/-- Templates under other ids leave what a container has under an id. -/
theorem find?_foldl_addTemplate_of_ne {ts : List Template} {id : UInt16}
    (hids : ∀ t ∈ ts, t.id ≠ id) (c : TemplateContainer) :
    (ts.foldl lib.addTemplate c).find? id = c.find? id := by
  induction ts generalizing c with
  | nil => rfl
  | cons t ts ih =>
    rw [List.foldl_cons, ih (fun u hu => hids u (List.mem_cons_of_mem _ hu)),
      h.find?_addTemplate_of_ne c t (hids t List.mem_cons_self).symm]

/-- Of templates under different ids each meets what was under its id before all of them. -/
theorem find?_foldl_addTemplate_of_mem {ts : List Template} (hids : (ts.map Template.id).Nodup)
    {t : Template} (ht : t ∈ ts) (c : TemplateContainer) :
    (ts.foldl lib.addTemplate c).find? t.id = (lib.addTemplate c t).find? t.id := by
  induction ts generalizing c with
  | nil => exact absurd ht List.not_mem_nil
  | cons u ts ih =>
    rw [List.map_cons, List.nodup_cons] at hids
    rw [List.foldl_cons]
    rcases List.mem_cons.mp ht with rfl | ht
    · apply h.find?_foldl_addTemplate_of_ne
      intro v hv heq
      exact hids.1 (List.mem_map.mpr ⟨v, hv, heq⟩)
    · rw [ih hids.2 ht]
      apply h.find?_addTemplate_congr
      apply h.find?_addTemplate_of_ne
      intro heq
      exact hids.1 (List.mem_map.mpr ⟨t, ht, heq⟩)

end Library.Lawful

/-! ## Templates by their ids -/

section Templates

variable {V : Type} {m : Message V}

theorem Message.mem_of_getTemplateObject {id : UInt16} {t : Template}
    (h : m.getTemplateObject id = some t) : t ∈ m.templates ∧ t.id = id := by
  have hid := List.find?_some h
  rw [decide_eq_true_eq] at hid
  exact ⟨List.mem_of_find?_eq_some h, hid⟩

theorem eq_of_nodup_ids {ts : List Template} (h : (ts.map Template.id).Nodup) {t u : Template}
    (ht : t ∈ ts) (hu : u ∈ ts) (hid : t.id = u.id) : t = u :=
  List.inj_on_of_nodup_map h ht hu hid

/-- The template of an id is the one listed under it. -/
theorem Message.getTemplateObject_eq_some_iff (h : (m.templates.map Template.id).Nodup)
    {id : UInt16} {t : Template} :
    m.getTemplateObject id = some t ↔ t ∈ m.templates ∧ t.id = id := by
  constructor
  · exact Message.mem_of_getTemplateObject
  · intro ht
    cases hfind : m.getTemplateObject id with
    | none =>
      have hnone := List.find?_eq_none.mp hfind t ht.1
      simp [ht.2] at hnone
    | some u =>
      have hu := Message.mem_of_getTemplateObject hfind
      rw [eq_of_nodup_ids h ht.1 hu.1 (ht.2.trans hu.2.symm)]

theorem Message.getTemplateObject_perm {m' : Message V}
    (h : (m.templates.map Template.id).Nodup) (hperm : m'.templates.Perm m.templates)
    (id : UInt16) : m'.getTemplateObject id = m.getTemplateObject id := by
  have h' : (m'.templates.map Template.id).Nodup := (hperm.map Template.id).nodup_iff.mpr h
  apply Option.ext
  intro t
  rw [Message.getTemplateObject_eq_some_iff h, Message.getTemplateObject_eq_some_iff h',
    hperm.mem_iff]

/-- What a record is about only depends on the listed templates. -/
theorem Library.keyOf_perm (lib : Library V) {m' : Message V}
    (h : (m.templates.map Template.id).Nodup) (hperm : m'.templates.Perm m.templates) :
    lib.keyOf m' = lib.keyOf m := by
  funext r
  rw [Library.keyOf, Library.keyOf, Message.getTemplateObject_perm h hperm]

end Templates

/-! ## Keys of objects -/

theorem XmlObjectKey.rank_injective : Function.Injective XmlObjectKey.rank := by
  intro a b h
  have hpair := toLex.injective h
  cases a
  cases b
  simp_all

/-- Keys of which one alone is less, or that are equal, are in the order of their ranks. -/
theorem XmlObjectKey.less_iff {a b : XmlObjectKey} (h : ¬ (a.less b ∧ b.less a)) :
    a.less b ↔ a.rank < b.rank := by
  have hrank : a.rank < b.rank ↔
      a.objectType < b.objectType ∨ a.objectType = b.objectType ∧ a.idObject < b.idObject :=
    Prod.Lex.toLex_lt_toLex
  rw [hrank]
  simp only [less] at h ⊢
  by_cases hlt : a.objectType < b.objectType
  · simp [hlt]
  · by_cases heq : a.objectType = b.objectType
    · simp [heq]
    · have hgt : b.objectType < a.objectType := by omega
      simp_all

end Ipap
end Anslp
