import Anslp.Msg.XmlOnce

/-!
# Writing two messages with one object

The object that writes messages keeps what its splitter made of a message: nothing empties
the maps before the next one is split.  So the second document also has the templates and
the records that were kept of the first message.

Main results:

- Theorem {lit}`getMessage_eq`: the first message of an object.
- Theorem {lit}`countP_writeDocument`: a document has all records that the splitter holds.
- Theorem {lit}`getMessageAfter_eq_iff`: when an earlier message leaves the next document as
  it is.

Current gaps:

- None for any number of messages with one writer.
-/

namespace Anslp

/-- Only the types of templates that the program knows have key fields. -/
def Ipap.Library.TypesKnown {V : Type} (lib : Ipap.Library V) : Prop :=
  ∀ type keys, lib.getTemplateTypeKeys type = some keys → ∃ t, type = lib.typeNumber t

namespace Xml

open Ipap Numerals Grouping

section Object

variable {V : Type} (lib : Library V) (m : Message V)

/-- Put records into a splitter up to the first that is refused: the splitter then, and
why it was refused. -/
def splitRecords (s : Splitter V) : List (DataRecord V) → Splitter V × Option XmlError
  | [] => (s, none)
  | gData :: rest =>
    match splitRecord lib m s gData with
    | .error e => (s, some e)
    | .ok s => splitRecords s rest

/-- {lit}`split` into the maps as they are. -/
def splitInto (s : Splitter V) : Splitter V × Option XmlError :=
  match splitRecords lib m s m.records with
  | (s, some e) => (s, some e)
  | (s, none) =>
    ({ s with templates := (notRelated m).foldl lib.addTemplate s.templates }, none)

/-- The document of what a splitter holds. -/
def writeDocument (s : Splitter V) : Except XmlError XmlNode :=
  match writeAll (writeObjectTypeData lib s) (List.range lib.maxObjectType) with
  | .error e => .error e
  | .ok data =>
    .ok (.element .ipapMessage (headerAttributes m) (writeNotRelatedTemplates s ++ data))

/-- {lit}`get_message` of an object: what it gives, and the splitter it leaves. -/
def getMessageOn (s : Splitter V) : Except XmlError XmlNode × Splitter V :=
  match splitInto lib m s with
  | (s, some e) => (.error e, s)
  | (s, none) => (writeDocument lib m s, s)

/-- {lit}`get_message` of an object that was asked for another message before. -/
def getMessageAfter (m₁ m₂ : Message V) : Except XmlError XmlNode :=
  match getMessageOn lib m₁ .new with
  | (.error .undefined, _) => .error .undefined
  | (_, s) => (getMessageOn lib m₂ s).1

end Object

variable {V : Type} {lib : Library V} {m : Message V} {s : Splitter V}

/-! ## The first message -/

theorem splitRecords_eq (s : Splitter V) (rs : List (DataRecord V)) :
    rs.foldlM (splitRecord lib m) s =
      match splitRecords lib m s rs with
      | (_, some e) => .error e
      | (s, none) => .ok s := by
  induction rs generalizing s with
  | nil => rfl
  | cons r rs ih =>
    rw [List.foldlM_cons, splitRecords]
    cases splitRecord lib m s r with
    | error e => rfl
    | ok s₁ => exact ih s₁

/-- An object just constructed writes a message as a fresh one does. -/
theorem getMessage_eq : getMessage lib m = (getMessageOn lib m .new).1 := by
  rw [getMessage, getMessageOn, split, splitInto, splitRecords_eq]
  rcases splitRecords lib m .new m.records with ⟨s, _ | e⟩
  · rfl
  · rfl

/-! ## The records that a splitter holds -/

/-- The number of records in a splitter. -/
def Splitter.recordCount (s : Splitter V) : Nat :=
  s.objectDataRecords.values.flatten.length

/-- The records of an object in a splitter. -/
def Splitter.group (s : Splitter V) (k : XmlObjectKey) : List (DataRecord V) :=
  (s.objectDataRecords.find? k).getD []

/-- What a splitter holds of any messages: every object has templates and records, its type
is one that the writer goes through, and the templates are of types that are written. -/
structure Stored (lib : Library V) (s : Splitter V) : Prop where
  keys_iff : ∀ k, k ∈ s.objectTemplates.keys ↔ k ∈ s.objectDataRecords.keys
  objectType_lt : ∀ k ∈ s.objectTemplates.keys, k.objectType < lib.maxObjectType
  isWritten : ∀ k c id t, s.objectTemplates.find? k = some c → c.find? id = some t →
    isWritten lib t.type = true

theorem stored_new : Stored lib .new where
  keys_iff _ := Iff.rfl
  objectType_lt _ h := absurd h List.not_mem_nil
  isWritten k c id t h := by
    simp [Splitter.new] at h

section Step

variable (hlib : lib.Lawful) (hknown : lib.TypesKnown)
include hlib hknown

/-- A record with a key has a template of a written type, and is about an object of a type
that the writer goes through. -/
theorem isWritten_of_keyOf {r : DataRecord V} {k : XmlObjectKey} {templ : Template}
    (hkey : lib.keyOf m r = some k) (htempl : m.getTemplateObject r.templateId = some templ) :
    isWritten lib templ.type = true ∧ k.objectType < lib.maxObjectType := by
  rcases keyOf_eq_some hkey with ⟨templ', keys, htempl', hkeys, hobj⟩
  rw [htempl] at htempl'
  cases htempl'
  rcases hknown templ.type keys hkeys with ⟨t, ht⟩
  rw [ht] at hobj
  exact ⟨isWritten_iff.mpr ⟨t, ht⟩, hlib.objectType_lt hobj⟩

/-- A record that is put into a splitter is one more record there. -/
theorem Stored.step (h : Stored lib s) {r : DataRecord V} {s' : Splitter V}
    (hstep : splitRecord lib m s r = .ok s') :
    Stored lib s' ∧ s'.recordCount = s.recordCount + 1 := by
  rcases splitRecord_eq_ok hstep with ⟨templ, k, htempl, hkey, -, rfl⟩
  rcases isWritten_of_keyOf hlib hknown hkey htempl with ⟨hwritten, hlt⟩
  refine ⟨⟨?_, ?_, ?_⟩, ?_⟩
  · intro k'
    rw [collect, OrderedMap.mem_keys_insert_iff XmlObjectKey.rank_injective,
      OrderedMap.mem_keys_insert_iff XmlObjectKey.rank_injective, h.keys_iff]
  · intro k' hk'
    rcases (OrderedMap.mem_keys_insert_iff XmlObjectKey.rank_injective).mp hk' with rfl | hold
    · exact hlt
    · exact h.objectType_lt k' hold
  · intro k' c id t hc ht
    rw [OrderedMap.find?_insert XmlObjectKey.rank_injective] at hc
    by_cases hk : k' = k
    · rw [if_pos hk, Option.some.injEq] at hc
      rw [← hc] at ht
      -- the template is the one added, or one that the object had before
      have hboth : t = templ ∨
          ((s.objectTemplates.find? k).getD .empty).find? id = some t := by
        by_cases hid : id = templ.id
        · rcases hlib.find?_addTemplate_self ((s.objectTemplates.find? k).getD .empty) templ with
            ⟨u, hu, hor⟩
          rw [hid, hu, Option.some.injEq] at ht
          rw [← ht, hid]
          exact hor
        · rw [hlib.find?_addTemplate_of_ne _ templ hid] at ht
          exact .inr ht
      rcases hboth with rfl | hbefore
      · exact hwritten
      · cases hold : s.objectTemplates.find? k with
        | none => simp [hold] at hbefore
        | some c₀ =>
          rw [hold, Option.getD_some] at hbefore
          exact h.isWritten k c₀ id t hold hbefore
    · rw [if_neg hk] at hc
      exact h.isWritten k' c id t hc ht
  · exact (flatten_values_collect_perm _ _ _).length_eq

/-- Records that are put into a splitter stay there. -/
theorem Stored.splitRecords (h : Stored lib s) (rs : List (DataRecord V)) :
    Stored lib (splitRecords lib m s rs).1 ∧
      s.recordCount ≤ (splitRecords lib m s rs).1.recordCount ∧
      ((splitRecords lib m s rs).2 = none →
        (splitRecords lib m s rs).1.recordCount = s.recordCount + rs.length) := by
  induction rs generalizing s with
  | nil => exact ⟨h, Nat.le_refl _, fun _ => rfl⟩
  | cons r rs ih =>
    rw [Xml.splitRecords]
    cases hstep : splitRecord lib m s r with
    | error e => exact ⟨h, Nat.le_refl _, fun hnone => absurd hnone (by simp)⟩
    | ok s₁ =>
      rcases h.step hlib hknown hstep with ⟨h₁, hcount⟩
      rcases ih h₁ with ⟨hstored, hle, hall⟩
      have hmore : s.recordCount ≤ (Xml.splitRecords lib m s₁ rs).1.recordCount := by omega
      refine ⟨hstored, hmore, ?_⟩
      intro hnone
      rw [hall hnone, hcount, List.length_cons]
      omega

end Step

/-! ## The records of a document -/

/-- A record of an object is printed for some types. -/
def prints (s : Splitter V) (types : UInt32 → Bool) (k : XmlObjectKey) (r : DataRecord V) :
    Bool :=
  match getTemplate s k r.templateId with
  | .error _ => false
  | .ok templ => types templ.type

theorem countP_printRecord {types : UInt32 → Bool} {k : XmlObjectKey} {r : DataRecord V}
    {ns : List XmlNode} (h : printRecord lib s types k r = .ok ns) :
    ns.countP (XmlNode.hasName .datarecord) = (if prints s types k r then [r] else []).length := by
  rw [printRecord] at h
  cases htempl : getTemplate s k r.templateId with
  | error e => simp [htempl] at h
  | ok templ =>
    simp only [htempl] at h
    simp only [prints, htempl]
    by_cases htype : types templ.type
    · rw [if_pos htype] at h ⊢
      rcases writeDataRecord_eq_ok h with ⟨fields, -, rfl⟩
      rfl
    · rw [if_neg htype, Except.ok.injEq] at h
      rw [if_neg htype, ← h]
      rfl

theorem countP_printRecords {types : UInt32 → Bool} {k : XmlObjectKey} {ns : List XmlNode}
    (h : printRecords lib s types k = .ok ns) :
    ns.countP (XmlNode.hasName .datarecord) = ((s.group k).filter (prints s types k)).length := by
  have hcount := countP_of_writeAll (fun r _ ns hns => countP_printRecord hns) h
  rwa [flatMap_ite_singleton, List.map_id'] at hcount

section Stored

variable (h : Stored lib s) (hlib : lib.Lawful)
include h hlib

/-- A record that is printed at all is printed as one of the two kinds. -/
theorem Stored.prints_isOptns {k : XmlObjectKey} {r : DataRecord V} {ns : List XmlNode}
    {types : UInt32 → Bool} (hr : printRecord lib s types k r = .ok ns) :
    prints s lib.isOptns k r = !prints s lib.isSetid k r := by
  cases hfind : s.objectTemplates.find? k with
  | none => simp [printRecord, getTemplate, hfind] at hr
  | some c =>
    cases htempl : c.find? r.templateId with
    | none => simp [printRecord, getTemplate, hfind, htempl] at hr
    | some templ =>
      simp only [prints, getTemplate, hfind, htempl]
      rcases isWritten_iff.mp (h.isWritten k c _ templ hfind htempl) with ⟨t, ht⟩
      rw [ht]
      exact isOptns_eq_not_isSetid hlib t

/-- Of an object all records are written. -/
theorem Stored.countP_writeObject {k : XmlObjectKey} {ns : List XmlNode}
    (hok : writeObject lib s k = .ok ns) :
    ns.countP (XmlNode.hasName .datarecord) = (s.group k).length := by
  rw [writeObject] at hok
  cases hdata : printTemplateDataRecords lib s k with
  | error e => simp [hdata] at hok
  | ok data =>
    cases hoptions : printOptionDataRecords lib s k with
    | error e => simp [hdata, hoptions] at hok
    | ok options =>
      simp only [hdata, hoptions, Except.ok.injEq] at hok
      have hrest : (s.group k).filter (prints s lib.isOptns k) =
          (s.group k).filter fun r => !prints s lib.isSetid k r := by
        apply List.filter_congr
        intro r hr
        rcases exists_eq_ok_of_writeAll hdata r hr with ⟨ns, hns⟩
        exact h.prints_isOptns hlib hns
      rw [← hok, List.countP_append, countP_printRecords hdata, countP_printRecords hoptions, hrest,
        ← List.length_append]
      exact (List.filter_append_perm _ _).length_eq

theorem Stored.countP_writeObjectTypeData {objectType : Nat} {ns : List XmlNode}
    (hok : writeObjectTypeData lib s objectType = .ok ns) :
    ns.countP (XmlNode.hasName .datarecord) =
      ((objectKeys s objectType).flatMap s.group).length := by
  rw [writeObjectTypeData] at hok
  by_cases hnil : objectKeys s objectType = []
  · rw [if_pos hnil, Except.ok.injEq] at hok
    rw [← hok, hnil]
    rfl
  · rw [if_neg hnil] at hok
    cases hrecords : writeRecords lib s (objectKeys s objectType) with
    | error e => simp [hrecords] at hok
    | ok records =>
      simp only [hrecords, Except.ok.injEq] at hok
      have htemplates : (writeTemplates s).countP (XmlNode.hasName .datarecord) = 0 := by
        rw [writeTemplates, List.countP_map, List.countP_eq_zero]
        exact fun t _ => Bool.false_ne_true
      rw [← hok, List.countP_append, htemplates, Nat.zero_add]
      exact countP_of_writeAll (fun k _ ns hns => h.countP_writeObject hlib hns) hrecords

omit hlib in
/-- The writer goes through all objects of the splitter. -/
theorem Stored.writtenKeys_perm : (writtenKeys lib s).Perm s.objectDataRecords.keys := by
  rw [List.perm_ext_iff_of_nodup nodup_writtenKeys (OrderedMap.nodup_keys _)]
  intro k
  simp only [writtenKeys, List.mem_flatMap, List.mem_range, mem_objectKeys_iff, h.keys_iff, or_self]
  constructor
  · rintro ⟨objectType, -, -, hk⟩
    exact hk
  · intro hk
    exact ⟨k.objectType, h.objectType_lt k ((h.keys_iff k).mpr hk), rfl, hk⟩

omit h hlib in
theorem recordCount_eq (s : Splitter V) :
    s.recordCount = (s.objectDataRecords.keys.flatMap s.group).length := by
  have hvalues : s.objectDataRecords.values = s.objectDataRecords.keys.map s.group := by
    rw [OrderedMap.values, OrderedMap.keys, List.map_map]
    apply List.map_congr_left
    intro e he
    have hfind : s.objectDataRecords.find? e.1 = some e.2 := OrderedMap.find?_of_mem he rfl
    rw [Function.comp_apply, Splitter.group, hfind, Option.getD_some]
  rw [Splitter.recordCount, hvalues, List.flatMap_def]

/-- A document has all records that the splitter holds. -/
theorem countP_writeDocument {doc : XmlNode} (hok : writeDocument lib m s = .ok doc) :
    doc.children.countP (XmlNode.hasName .datarecord) = s.recordCount := by
  rw [writeDocument] at hok
  cases hdata : writeAll (writeObjectTypeData lib s) (List.range lib.maxObjectType) with
  | error e => simp [hdata] at hok
  | ok data =>
    simp only [hdata, Except.ok.injEq] at hok
    have htemplates : (writeNotRelatedTemplates s).countP (XmlNode.hasName .datarecord) = 0 := by
      rw [writeNotRelatedTemplates, List.countP_map, List.countP_eq_zero]
      exact fun t _ => Bool.false_ne_true
    have hcount := countP_of_writeAll (fun _ _ _ hns => h.countP_writeObjectTypeData hlib hns) hdata
    rw [← List.flatMap_assoc] at hcount
    have hgroups : ((writtenKeys lib s).flatMap s.group).length = s.recordCount := by
      rw [recordCount_eq]
      exact (h.writtenKeys_perm.flatMap_right _).length_eq
    rw [← hok, XmlNode.children, List.countP_append, htemplates, Nat.zero_add, hcount]
    exact hgroups

end Stored

/-! ## The templates that no record uses -/

/-- Putting a record into a splitter leaves the templates that no record uses alone, and
does not look at them. -/
theorem splitRecord_withTemplates (s : Splitter V) (c : TemplateContainer) (r : DataRecord V) :
    splitRecord lib m { s with templates := c } r =
      (splitRecord lib m s r).map fun s => { s with templates := c } := by
  unfold splitRecord
  cases m.getTemplateObject r.templateId with
  | none => rfl
  | some templ =>
    cases hkey : lib.objectKey templ r.fields with
    | none =>
      simp only [hkey]
      rfl
    | some k =>
      simp only [hkey]
      by_cases hall : s.objectTemplates.keys.all (comparable k) = true
      · rw [if_pos hall, if_pos hall]
        rfl
      · rw [if_neg hall, if_neg hall]
        rfl

theorem splitRecords_withTemplates (s : Splitter V) (c : TemplateContainer)
    (rs : List (DataRecord V)) :
    splitRecords lib m { s with templates := c } rs =
      ({ (splitRecords lib m s rs).1 with templates := c }, (splitRecords lib m s rs).2) := by
  induction rs generalizing s with
  | nil => rfl
  | cons r rs ih =>
    rw [splitRecords, splitRecords, splitRecord_withTemplates]
    cases splitRecord lib m s r with
    | error e => rfl
    | ok s₁ => exact ih s₁

theorem splitRecords_templates (s : Splitter V) (rs : List (DataRecord V)) :
    (splitRecords lib m s rs).1.templates = s.templates :=
  congrArg (fun p => p.1.templates) (splitRecords_withTemplates s s.templates rs)

/-- In a container that has the template {lit}`t` another one of its id, put into it, is what
is written. -/
def Supersedes (lib : Library V) (t u : Template) : Prop :=
  ((lib.addTemplate (lib.addTemplate .empty t) u).find? u.id).map writeTemplate =
    some (writeTemplate u)

/-- The element of a template tells its id. -/
theorem id_eq_of_writeTemplate {t u : Template} (h : writeTemplate t = writeTemplate u) :
    t.id = u.id := by
  have hid := congrArg (fun n => strToUint16 (n.getProp .id)) h
  exact Option.some.inj
    ((strToUint16_printNat t.id).symm.trans (hid.trans (strToUint16_printNat u.id)))

section Container

variable (hlib : lib.Lawful) {c : TemplateContainer} {ts : List Template}
  (hids : (ts.map Template.id).Nodup)
include hlib

/-- What a container has under an id is a matter of what it had there. -/
theorem find?_addTemplate_of_find? {t u : Template} (ht : c.find? t.id = some t)
    (hid : u.id = t.id) :
    (lib.addTemplate c u).find? u.id =
      (lib.addTemplate (lib.addTemplate .empty t) u).find? u.id := by
  have hfirst : (lib.addTemplate .empty t).find? t.id = some t := by
    rw [hlib.addTemplate_eq_insert fun _ h => by simp at h, OrderedMap.find?_insert_self]
  apply hlib.find?_addTemplate_congr
  rw [hid, ht, hfirst]

include hids

theorem find?_foldl_addTemplate (id : UInt16) :
    (ts.foldl lib.addTemplate c).find? id =
      match ts.find? fun u => decide (u.id = id) with
      | none => c.find? id
      | some u => (lib.addTemplate c u).find? u.id := by
  cases hfind : ts.find? fun u => decide (u.id = id) with
  | none =>
    apply hlib.find?_foldl_addTemplate_of_ne
    intro u hu heq
    exact List.find?_eq_none.mp hfind u hu (decide_eq_true heq)
  | some u =>
    have hid : u.id = id := by simpa using List.find?_some hfind
    rw [← hid]
    exact hlib.find?_foldl_addTemplate_of_mem hids (List.mem_of_find?_eq_some hfind) c

/-- Templates that are put into a container leave no trace of those that were there exactly
when each of these is superseded. -/
theorem values_foldl_addTemplate_iff (hown : ∀ id t, c.find? id = some t → t.id = id) :
    (ts.foldl lib.addTemplate c).values.map writeTemplate =
        (index UInt16.toNat Template.id ts).values.map writeTemplate ↔
      ∀ t, c.find? t.id = some t → ∃ u ∈ ts, u.id = t.id ∧ Supersedes lib t u := by
  have hinj : ∀ t ∈ ts, ∀ u ∈ ts, t.id = u.id → t = u := fun t ht u hu =>
    eq_of_nodup_ids hids ht hu
  constructor
  · intro hvalues t ht
    have hfound : ∃ a, (ts.foldl lib.addTemplate c).find? t.id = some a := by
      rw [find?_foldl_addTemplate hlib hids]
      cases ts.find? fun u => decide (u.id = t.id) with
      | none => exact ⟨t, ht⟩
      | some u =>
        rcases hlib.find?_addTemplate_self c u with ⟨a, ha, -⟩
        exact ⟨a, ha⟩
    rcases hfound with ⟨a, ha⟩
    have hmem : writeTemplate a ∈ (index UInt16.toNat Template.id ts).values.map writeTemplate := by
      rw [← hvalues]
      exact List.mem_map_of_mem (OrderedMap.mem_values_iff.mpr ⟨t.id, ha⟩)
    rcases List.mem_map.mp hmem with ⟨u, hu, hwrite⟩
    rw [mem_values_index toNat_injective hinj] at hu
    have hida : a.id = t.id := by
      rw [find?_foldl_addTemplate hlib hids] at ha
      cases hfind : ts.find? fun u => decide (u.id = t.id) with
      | none =>
        rw [hfind] at ha
        exact hown t.id a ha
      | some v =>
        have hid : v.id = t.id := by simpa using List.find?_some hfind
        rw [hfind] at ha
        rcases hlib.find?_addTemplate_self c v with ⟨b, hb, hor⟩
        have hba : b = a := Option.some.inj (hb.symm.trans ha)
        rcases hor with rfl | hold
        · rw [← hba, hid]
        · rw [← hba, hown v.id b hold, hid]
    have hid : u.id = t.id := (id_eq_of_writeTemplate hwrite).trans hida
    refine ⟨u, hu, hid, ?_⟩
    rw [← hid, hlib.find?_foldl_addTemplate_of_mem hids hu,
      find?_addTemplate_of_find? hlib ht hid] at ha
    rw [Supersedes, ha, Option.map_some, hwrite]
  · intro hall
    apply OrderedMap.map_values_congr toNat_injective
    intro id
    rw [find?_foldl_addTemplate hlib hids]
    cases hfind : ts.find? fun u => decide (u.id = id) with
    | none =>
      -- nothing was there, or it would be superseded
      have hnone : (index UInt16.toNat Template.id ts).find? id = none := by
        rw [Option.eq_none_iff_forall_ne_some]
        intro u hu
        rcases (find?_index toNat_injective hinj).mp hu with ⟨hmem, hid⟩
        exact List.find?_eq_none.mp hfind u hmem (decide_eq_true hid)
      rw [hnone]
      cases ht : c.find? id with
      | none => rfl
      | some t =>
        have hid := hown id t ht
        rcases hall t (by rw [hid]; exact ht) with ⟨u, hu, hut, -⟩
        exact absurd (decide_eq_true (hut.trans hid)) (List.find?_eq_none.mp hfind u hu)
    | some u =>
      have hu := List.mem_of_find?_eq_some hfind
      have hid : u.id = id := by simpa using List.find?_some hfind
      have hindex : (index UInt16.toNat Template.id ts).find? id = some u :=
        (find?_index toNat_injective hinj).mpr ⟨hu, hid⟩
      rw [hindex]
      cases ht : c.find? u.id with
      | none =>
        have hadd : (lib.addTemplate c u).find? u.id = some u := by
          rw [hlib.addTemplate_eq_insert fun _ h => by simp [ht] at h,
            OrderedMap.find?_insert_self]
        simp only [hadd]
      | some t =>
        have hidt : t.id = u.id := hown u.id t ht
        rcases hall t (by rw [hidt]; exact ht) with ⟨v, hv, hvt, hsupersedes⟩
        have hvu : v = u := hinj v hv u hu (hvt.trans hidt)
        rw [hvu] at hsupersedes
        have hsame := find?_addTemplate_of_find? hlib (t := t) (u := u)
          (by rw [hidt]; exact ht) hidt.symm
        simp only [hsame]
        exact hsupersedes

end Container

/-- On an object that holds nothing but templates that no record uses, a message has the
same document as on a fresh one exactly when its unused templates supersede all of them. -/
theorem getMessageOn_withTemplates_iff (hlib : lib.Lawful)
    (hids : (m.templates.map Template.id).Nodup) {c : TemplateContainer}
    (hown : ∀ id t, c.find? id = some t → t.id = id) {doc : XmlNode}
    (hget : getMessage lib m = .ok doc) :
    (getMessageOn lib m { (.new : Splitter V) with templates := c }).1 = .ok doc ↔
      ∀ t, c.find? t.id = some t → ∃ u ∈ notRelated m, u.id = t.id ∧ Supersedes lib t u := by
  have hunused : ((notRelated m).map Template.id).Nodup :=
    hids.sublist (List.filter_sublist.map Template.id)
  rw [getMessage_eq, getMessageOn, splitInto] at hget
  rw [getMessageOn, splitInto, splitRecords_withTemplates,
    ← values_foldl_addTemplate_iff hlib hunused hown]
  have htemplates : (splitRecords lib m .new m.records).1.templates = _ :=
    splitRecords_templates .new m.records
  rcases hsplit : splitRecords lib m .new m.records with ⟨s, _ | e⟩
  · rw [hsplit] at hget htemplates
    simp only [writeDocument] at hget ⊢
    have hdata : ∀ c, writeObjectTypeData lib { s with templates := c } =
        writeObjectTypeData lib s := fun _ => rfl
    rw [hdata] at hget ⊢
    cases hout : writeAll (writeObjectTypeData lib s) (List.range lib.maxObjectType) with
    | error e => simp [hout] at hget
    | ok data =>
      simp only [hout, Except.ok.injEq] at hget ⊢
      rw [← hget, XmlNode.element.injEq]
      simp only [true_and, writeNotRelatedTemplates, List.append_left_inj]
      have hempty : s.templates = .empty := htemplates
      rw [hempty, hlib.foldl_addTemplate (notRelated_inj hids)]
  · rw [hsplit] at hget
    cases hget

/-! ## Two messages -/

theorem getMessageOn_snd (s : Splitter V) :
    (getMessageOn lib m s).2 = (splitInto lib m s).1 := by
  rw [getMessageOn]
  rcases splitInto lib m s with ⟨s', _ | e⟩
  · rfl
  · rfl

theorem getMessageAfter_eq {m₁ m₂ : Message V}
    (h : (getMessageOn lib m₁ .new).1 ≠ .error .undefined) :
    getMessageAfter lib m₁ m₂ = (getMessageOn lib m₂ (getMessageOn lib m₁ .new).2).1 := by
  rw [getMessageAfter]
  rcases hfirst : getMessageOn lib m₁ .new with ⟨e | doc, s⟩
  · rw [hfirst] at h
    cases e with
    | undefined => exact absurd rfl h
    | error what => rfl
    | library => rfl
  · rfl

theorem getMessageOn_of_getMessageAfter {m₁ m₂ : Message V} {doc : XmlNode}
    (h : getMessageAfter lib m₁ m₂ = .ok doc) :
    (getMessageOn lib m₂ (getMessageOn lib m₁ .new).2).1 = .ok doc := by
  rw [← getMessageAfter_eq, h]
  intro hundefined
  rw [getMessageAfter] at h
  rcases hfirst : getMessageOn lib m₁ .new with ⟨out, s⟩
  rw [hfirst] at h hundefined
  simp only at hundefined
  rw [hundefined] at h
  cases h

section Kept

variable (hlib : lib.Lawful) (hknown : lib.TypesKnown)
include hlib hknown

theorem Stored.splitInto (h : Stored lib s) :
    Stored lib (splitInto lib m s).1 ∧ s.recordCount ≤ (splitInto lib m s).1.recordCount ∧
      ((splitInto lib m s).2 = none →
        (splitInto lib m s).1.recordCount = s.recordCount + m.records.length) := by
  have hall := h.splitRecords (m := m) hlib hknown m.records
  rw [Xml.splitInto]
  rcases hsplit : Xml.splitRecords lib m s m.records with ⟨s', _ | e⟩
  · rw [hsplit] at hall
    rcases hall with ⟨hstored, hle, hcount⟩
    exact ⟨⟨hstored.keys_iff, hstored.objectType_lt, hstored.isWritten⟩, hle, hcount⟩
  · rw [hsplit] at hall
    exact hall

/-- A document has the records of its message and those that the object held before. -/
theorem Stored.countP_getMessageOn (h : Stored lib s) {doc : XmlNode}
    (hok : (getMessageOn lib m s).1 = .ok doc) :
    doc.children.countP (XmlNode.hasName .datarecord) = s.recordCount + m.records.length := by
  have hall := h.splitInto (m := m) hlib hknown
  rw [getMessageOn] at hok
  rcases hsplit : Xml.splitInto lib m s with ⟨s', _ | e⟩
  · rw [hsplit] at hok hall
    rw [countP_writeDocument hall.1 hlib hok]
    exact hall.2.2 rfl
  · rw [hsplit] at hok
    cases hok

/-- The first record of a message is kept unless it says no object. -/
theorem recordCount_pos {r : DataRecord V} {rs : List (DataRecord V)} {k : XmlObjectKey}
    (hrecords : m.records = r :: rs) (hkey : lib.keyOf m r = some k) :
    0 < (getMessageOn lib m .new).2.recordCount := by
  have hkept : 0 < (splitRecords lib m .new m.records).1.recordCount := by
    rw [hrecords, splitRecords]
    cases hstep : splitRecord lib m .new r with
    | error e =>
      rcases splitRecord_eq_error hstep with ⟨hnone, -⟩ | ⟨_, -, k', hk', -⟩
      · rw [hkey] at hnone
        cases hnone
      · exact absurd hk' List.not_mem_nil
    | ok s₁ =>
      rcases stored_new.step hlib hknown hstep with ⟨h₁, hcount⟩
      have hle := (h₁.splitRecords (m := m) hlib hknown rs).2.1
      exact lt_of_lt_of_le (by omega) hle
  rw [getMessageOn_snd, splitInto]
  rcases hsplit : splitRecords lib m .new m.records with ⟨s', _ | e⟩
  · rw [hsplit] at hkept
    exact hkept
  · rw [hsplit] at hkept
    exact hkept

end Kept

/-- An object keeps nothing of a message whose first record says no object. -/
theorem getMessageOn_of_keyOf_eq_none {r : DataRecord V} {rs : List (DataRecord V)}
    (hrecords : m.records = r :: rs) (hkey : lib.keyOf m r = none) :
    ∃ e, e ≠ .undefined ∧ getMessageOn lib m .new = (.error e, .new) := by
  cases hstep : splitRecord lib m .new r with
  | ok s₁ =>
    rcases splitRecord_eq_ok hstep with ⟨_, k, _, hk, -⟩
    rw [hkey] at hk
    cases hk
  | error e =>
    have hne : e ≠ .undefined := by
      rcases splitRecord_eq_error hstep with ⟨-, hne⟩ | ⟨k, hk, -⟩
      · exact hne
      · rw [hkey] at hk
        cases hk
    refine ⟨e, hne, ?_⟩
    rw [getMessageOn, splitInto, hrecords, splitRecords, hstep]

/-- Of a message without records an object keeps the templates. -/
theorem getMessageOn_of_nil (hlib : lib.Lawful) (hids : (m.templates.map Template.id).Nodup)
    (hrecords : m.records = []) :
    (getMessageOn lib m .new).1 ≠ .error .undefined ∧
      (getMessageOn lib m .new).2 =
        { (.new : Splitter V) with templates := index UInt16.toNat Template.id m.templates } := by
  have hindex : m.templates.foldl lib.addTemplate .empty =
      index UInt16.toNat Template.id m.templates :=
    hlib.foldl_addTemplate fun t ht u hu => eq_of_nodup_ids hids ht hu
  have hunused : notRelated m = m.templates := by
    rw [notRelated, hrecords]
    exact List.filter_eq_self.mpr fun _ _ => rfl
  rw [getMessageOn, splitInto, hrecords, splitRecords, hunused, ← hindex]
  refine ⟨?_, rfl⟩
  simp only [writeDocument]
  cases hdata : writeAll (writeObjectTypeData lib _) (List.range lib.maxObjectType) with
  | ok data => simp
  | error e =>
    rintro h
    cases h
    rcases exists_of_writeAll_eq_error hdata with ⟨objectType, -, ho⟩
    exact writeObjectTypeData_ne_undefined ho

/-- A message has the same document on an object that wrote another one before exactly when
the object kept nothing that shows: the earlier message has no records, and the later one
has unused templates that supersede its templates; or its first record was refused. -/
theorem getMessageAfter_eq_iff (lib : Library V) (m₁ m₂ : Message V) (hlib : lib.Lawful)
    (hknown : lib.TypesKnown) (hids₁ : (m₁.templates.map Template.id).Nodup)
    (hids₂ : (m₂.templates.map Template.id).Nodup) {doc : XmlNode}
    (hget : getMessage lib m₂ = .ok doc) :
    getMessageAfter lib m₁ m₂ = .ok doc ↔
      (m₁.records = [] ∧ ∀ t ∈ m₁.templates, ∃ u ∈ m₂.templates, u.id = t.id ∧
          (∀ r ∈ m₂.records, r.templateId ≠ u.id) ∧ Supersedes lib t u) ∨
        ∃ r rs, m₁.records = r :: rs ∧ lib.keyOf m₁ r = none := by
  have hinj : ∀ t ∈ m₁.templates, ∀ u ∈ m₁.templates, t.id = u.id → t = u := fun t ht u hu =>
    eq_of_nodup_ids hids₁ ht hu
  cases hrecords : m₁.records with
  | nil =>
    have hown : ∀ id t, (index UInt16.toNat Template.id m₁.templates).find? id = some t →
        t.id = id := fun id t ht => ((find?_index toNat_injective hinj).mp ht).2
    rcases getMessageOn_of_nil hlib hids₁ hrecords with ⟨hne, hkept⟩
    rw [getMessageAfter_eq hne, hkept, getMessageOn_withTemplates_iff hlib hids₂ hown hget]
    have hunused : ∀ u, u ∈ notRelated m₂ ↔
        u ∈ m₂.templates ∧ ∀ r ∈ m₂.records, r.templateId ≠ u.id := by
      intro u
      rw [notRelated, List.mem_filter]
      simp
    constructor
    · intro h
      refine .inl ⟨rfl, ?_⟩
      intro t ht
      rcases h t ((find?_index toNat_injective hinj).mpr ⟨ht, rfl⟩) with
        ⟨u, hu, hid, hsupersedes⟩
      rw [hunused] at hu
      exact ⟨u, hu.1, hid, hu.2, hsupersedes⟩
    · rintro (⟨-, h⟩ | ⟨r, rs, hcons, -⟩)
      · intro t ht
        rcases h t ((find?_index toNat_injective hinj).mp ht).1 with
          ⟨u, hu, hid, hfree, hsupersedes⟩
        exact ⟨u, (hunused u).mpr ⟨hu, hfree⟩, hid, hsupersedes⟩
      · cases hcons
  | cons r rs =>
    simp only [reduceCtorEq, false_and, false_or, List.cons.injEq]
    cases hkey : lib.keyOf m₁ r with
    | none =>
      rcases getMessageOn_of_keyOf_eq_none hrecords hkey with ⟨e, hne, hfirst⟩
      have hout : (getMessageOn lib m₁ .new).1 ≠ .error .undefined := by
        rw [hfirst]
        exact fun heq => hne (Except.error.inj heq)
      rw [getMessageAfter_eq hout, hfirst, ← getMessage_eq, hget]
      exact iff_of_true rfl ⟨r, rs, ⟨rfl, rfl⟩, hkey⟩
    | some k =>
      constructor
      · intro hafter
        -- the records kept of the first message are in the second document too
        have hpos := recordCount_pos hlib hknown hrecords hkey
        have hstored := (stored_new.splitInto (m := m₁) hlib hknown).1
        rw [← getMessageOn_snd] at hstored
        have hmore := hstored.countP_getMessageOn hlib hknown
          (getMessageOn_of_getMessageAfter hafter)
        rw [getMessage_eq] at hget
        have hfresh := stored_new.countP_getMessageOn hlib hknown hget
        have hzero : (Splitter.new : Splitter V).recordCount = 0 := rfl
        omega
      · rintro ⟨r', rs', ⟨rfl, rfl⟩, hnone⟩
        rw [hkey] at hnone
        cases hnone

namespace Sample

/-- A library of text fields in which only the known types of templates have a key field. -/
def knownLibrary : Library Text :=
  { textLibrary with
    getTemplateTypeKeys := fun type => if isWritten textLibrary type then some [⟨0, 30⟩] else none }

theorem lawful_knownLibrary : knownLibrary.Lawful :=
  lawful.withTypeKeys _

theorem typesKnown_knownLibrary : knownLibrary.TypesKnown := by
  intro type keys h
  simp only [knownLibrary] at h
  by_cases hwritten : isWritten textLibrary type = true
  · exact isWritten_iff.mp hwritten
  · rw [if_neg hwritten] at h
    cases h

/-- A message of one auction. -/
def auction (id : String) : Message Text :=
  messageOf [templateOf 0] [recordOf 0 id "x"]

/-- The auction of one message is in the document of the next. -/
theorem getMessageAfter_ne : ∃ doc doc', getMessage knownLibrary (auction "b") = .ok doc ∧
    getMessageAfter knownLibrary (auction "a") (auction "b") = .ok doc' ∧
    doc.children.countP (XmlNode.hasName .datarecord) = 1 ∧
    doc'.children.countP (XmlNode.hasName .datarecord) = 2 := by
  rcases exists_eq_ok_of_map (x := getMessage knownLibrary (auction "b"))
    (f := fun doc => doc.children.countP (XmlNode.hasName .datarecord)) (b := 1) rfl with
    ⟨doc, hget, hone⟩
  rcases exists_eq_ok_of_map (x := getMessageAfter knownLibrary (auction "a") (auction "b"))
    (f := fun doc => doc.children.countP (XmlNode.hasName .datarecord)) (b := 2) rfl with
    ⟨doc', hget', htwo⟩
  exact ⟨doc, doc', hget, hget', hone, htwo⟩

/-- A message without records, whose template the next message has unused. -/
theorem getMessageAfter_unused : ∃ doc,
    getMessage knownLibrary twoAuctions = .ok doc ∧
      getMessageAfter knownLibrary (messageOf [templateOf 4] []) twoAuctions = .ok doc := by
  rcases exists_eq_ok_of_map (x := getMessage knownLibrary twoAuctions) (f := fun _ => ()) (b := ())
    rfl with ⟨doc, hget, -⟩
  refine ⟨doc, hget, ?_⟩
  rw [getMessageAfter_eq_iff knownLibrary _ _ lawful_knownLibrary typesKnown_knownLibrary
    (by decide) (by decide) hget]
  refine .inl ⟨rfl, ?_⟩
  intro t ht
  rw [List.mem_singleton.mp ht]
  exact ⟨templateOf 4, by decide, rfl, by decide, rfl⟩

end Sample

end Xml
end Anslp
