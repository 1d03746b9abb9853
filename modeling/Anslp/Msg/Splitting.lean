import Anslp.Lib.Joining
import Anslp.Msg.KeyOrder
import Anslp.Msg.XmlRoundTrip

/-!
# The object groups

The splitter is to put records into one group exactly when they are about one object:
their templates have the same object type, and the key fields the same values.  It goes
by the text of the values, each behind a percent sign, and keeps the groups in maps
ordered by this text.

Main results:

- Theorem {lit}`keyOf_eq`: the key of a record from what the record says.
- Theorem {lit}`keyOf_eq_iff_of_not_mem`: without percent signs the keys tell the objects.
- Theorem {lit}`exists_split_iff`: the messages that are split.
- Theorem {lit}`Splits.groupedByObject_iff`: which records share a key and which an object.
- Theorem {lit}`splitsByObject_iff`: the messages whose groups are the objects.

Current gaps:

- The printing of a key value is the library's; only its effect on the keys is used.
-/

namespace Anslp
namespace Ipap

open Numerals Joining

/-- A key field of a record: its value, and the text of the value. -/
@[ext]
structure KeyField (V : Type) where
  key : FieldKey
  value : V
  text : Text
deriving DecidableEq, Repr

/-- The object a record says it is about. -/
structure KeyedObject (V : Type) where
  objectType : Nat
  fields : List (KeyField V)
deriving DecidableEq, Repr

namespace KeyedObject

variable {V : Type}

/-- The values of the key fields. -/
def values (o : KeyedObject V) : List (FieldKey × V) :=
  o.fields.map fun f => (f.key, f.value)

/-- The texts of the values. -/
def texts (o : KeyedObject V) : List Text :=
  o.fields.map KeyField.text

/-- The key under which the splitter puts records about the object. -/
def key (o : KeyedObject V) : XmlObjectKey :=
  ⟨o.objectType, joined '%' o.texts⟩

end KeyedObject

namespace Library

variable {V : Type} (lib : Library V)

/-- The key fields of a record of a template. -/
def keyFields (templ : Template) (data : DataFields V) : List FieldKey → Option (List (KeyField V))
  | [] => some []
  | k :: ks =>
    match lib.getField templ k, lib.getData data k with
    | some field, some value =>
      match lib.writeValue field value, keyFields templ data ks with
      | some text, some rest => some (⟨k, value, text⟩ :: rest)
      | _, _ => none
    | _, _ => none

/-- The object a record of a message is about, by its type and values. -/
def objectOf (m : Message V) (r : DataRecord V) : Option (KeyedObject V) :=
  match m.getTemplateObject r.templateId with
  | none => none
  | some templ =>
    match lib.getTemplateTypeKeys templ.type with
    | none => none
    | some keys =>
      match lib.keyFields templ r.fields keys, lib.getObjectType templ.type with
      | some fields, some objType => some ⟨objType, fields⟩
      | _, _ => none

/-- The templates of two records have the same object type, and all key fields the
same values. -/
def SameObject (m : Message V) (r r' : DataRecord V) : Prop :=
  ∃ o o', lib.objectOf m r = some o ∧ lib.objectOf m r' = some o' ∧
    o.objectType = o'.objectType ∧ o.values = o'.values

/-- The text of a value depends on the key of its field and not on the template that the
field is in. -/
def WritesByKey : Prop :=
  ∀ field field' value, field.key = field'.key →
    lib.writeValue field value = lib.writeValue field' value

end Library

end Ipap

namespace Xml

open Ipap Numerals Grouping Joining

variable {V : Type} {lib : Library V} {m : Message V}

/-! ## Keys -/

theorem dataKey_eq (templ : Template) (data : DataFields V) (ks : List FieldKey) :
    lib.dataKey templ data ks =
      (lib.keyFields templ data ks).map fun fs => joined '%' (fs.map KeyField.text) := by
  induction ks with
  | nil => rfl
  | cons k ks ih =>
    rw [Library.dataKey, Library.keyFields]
    cases lib.getField templ k with
    | none => rfl
    | some field =>
      cases lib.getData data k with
      | none => rfl
      | some value =>
        simp only [ih]
        cases lib.writeValue field value with
        | none => rfl
        | some text => cases lib.keyFields templ data ks <;> rfl

/-- The key of a record is the one of the object it says it is about. -/
theorem keyOf_eq (r : DataRecord V) :
    lib.keyOf m r = (lib.objectOf m r).map KeyedObject.key := by
  rw [Library.keyOf, Library.objectOf]
  cases m.getTemplateObject r.templateId with
  | none => rfl
  | some templ =>
    simp only [Library.objectKey]
    cases lib.getTemplateTypeKeys templ.type with
    | none => rfl
    | some keys =>
      simp only [dataKey_eq]
      cases lib.keyFields templ r.fields keys with
      | none => rfl
      | some fields => cases lib.getObjectType templ.type <;> rfl

theorem keyOf_of_objectOf {r : DataRecord V} {o : KeyedObject V}
    (h : lib.objectOf m r = some o) : lib.keyOf m r = some o.key := by
  rw [keyOf_eq, h]
  rfl

theorem exists_objectOf_iff {r : DataRecord V} :
    (∃ k, lib.keyOf m r = some k) ↔ ∃ o, lib.objectOf m r = some o := by
  simp only [keyOf_eq, Option.map_eq_some_iff]
  constructor
  · rintro ⟨_, o, ho, _⟩
    exact ⟨o, ho⟩
  · rintro ⟨o, ho⟩
    exact ⟨o.key, o, ho, rfl⟩

theorem writeValue_of_mem_keyFields (hlib : lib.Lawful) {templ : Template} {data : DataFields V}
    {ks : List FieldKey} {fs : List (KeyField V)} (h : lib.keyFields templ data ks = some fs) :
    ∀ f ∈ fs, ∃ field : FieldType,
      field.key = f.key ∧ lib.writeValue field f.value = some f.text := by
  induction ks generalizing fs with
  | nil =>
    cases h
    exact fun f hf => absurd hf List.not_mem_nil
  | cons k ks ih =>
    rw [Library.keyFields] at h
    cases hfield : lib.getField templ k with
    | none => simp [hfield] at h
    | some field =>
      cases hvalue : lib.getData data k with
      | none => simp [hfield, hvalue] at h
      | some value =>
        cases htext : lib.writeValue field value with
        | none => simp [hfield, hvalue, htext] at h
        | some text =>
          cases hrest : lib.keyFields templ data ks with
          | none => simp [hfield, hvalue, htext, hrest] at h
          | some rest =>
            simp only [hfield, hvalue, htext, hrest, Option.some.injEq] at h
            subst h
            intro f hf
            rcases List.mem_cons.mp hf with rfl | hf
            · exact ⟨field, hlib.key_getField hfield, htext⟩
            · exact ih hrest f hf

/-- Each text of an object is the one of a value under its key. -/
theorem writeValue_of_objectOf (hlib : lib.Lawful) {r : DataRecord V} {o : KeyedObject V}
    (h : lib.objectOf m r = some o) :
    ∀ f ∈ o.fields, ∃ field : FieldType,
      field.key = f.key ∧ lib.writeValue field f.value = some f.text := by
  rw [Library.objectOf] at h
  cases htempl : m.getTemplateObject r.templateId with
  | none => simp [htempl] at h
  | some templ =>
    cases hkeys : lib.getTemplateTypeKeys templ.type with
    | none => simp [htempl, hkeys] at h
    | some keys =>
      cases hfields : lib.keyFields templ r.fields keys with
      | none => simp [htempl, hkeys, hfields] at h
      | some fields =>
        cases htype : lib.getObjectType templ.type with
        | none => simp [htempl, hkeys, hfields, htype] at h
        | some objType =>
          simp only [htempl, hkeys, hfields, htype, Option.some.injEq] at h
          subst h
          exact writeValue_of_mem_keyFields hlib hfields

theorem eq_of_map_eq {A B : Type} {g : A → B} {as as' : List A}
    (hinj : ∀ a ∈ as, ∀ a' ∈ as', g a = g a' → a = a') (h : as.map g = as'.map g) :
    as = as' := by
  induction as generalizing as' with
  | nil => exact (List.map_eq_nil_iff.mp h.symm).symm
  | cons a as ih =>
    cases as' with
    | nil => cases h
    | cons a' as' =>
      rw [List.map_cons, List.map_cons, List.cons.injEq] at h
      rw [hinj a List.mem_cons_self a' List.mem_cons_self h.1]
      have hrest : ∀ b ∈ as, ∀ b' ∈ as', g b = g b' → b = b' := fun b hb b' hb' =>
        hinj b (List.mem_cons_of_mem _ hb) b' (List.mem_cons_of_mem _ hb')
      rw [ih hrest h.2]

section

variable (hlib : lib.Lawful) (hwrites : lib.WritesByKey) {r r' : DataRecord V}
  {o o' : KeyedObject V} (ho : lib.objectOf m r = some o) (ho' : lib.objectOf m r' = some o')

include hlib hwrites ho ho'

/-- Key fields of the same values are the same, their texts as well. -/
theorem fields_eq_of_values (hvalues : o.values = o'.values) : o.fields = o'.fields := by
  refine eq_of_map_eq ?_ hvalues
  intro f hf f' hf' hsame
  rw [Prod.mk.injEq] at hsame
  rcases writeValue_of_objectOf hlib ho f hf with ⟨field, hfield, htext⟩
  rcases writeValue_of_objectOf hlib ho' f' hf' with ⟨field', hfield', htext'⟩
  have hwrite := hwrites field field' f.value (by rw [hfield, hfield', hsame.1])
  rw [htext, hsame.2, htext', Option.some.injEq] at hwrite
  exact KeyField.ext hsame.1 hsame.2 hwrite

end

/-- Key fields of the same texts are the same, since a value is read from its text. -/
theorem fields_eq_of_texts (hback : lib.ReadsBack) (hwrites : lib.WritesByKey)
    {r r' : DataRecord V} {o o' : KeyedObject V} (ho : lib.objectOf m r = some o)
    (ho' : lib.objectOf m r' = some o')
    (hkeys : o.fields.map KeyField.key = o'.fields.map KeyField.key)
    (htexts : o.texts = o'.texts) : o.fields = o'.fields := by
  have hboth : o.fields.map (fun f => (f.key, f.text)) =
      o'.fields.map fun f => (f.key, f.text) := by
    rw [KeyedObject.texts, KeyedObject.texts] at htexts
    rw [← List.zip_map', ← List.zip_map', hkeys, htexts]
  refine eq_of_map_eq ?_ hboth
  intro f hf f' hf' hsame
  rw [Prod.mk.injEq] at hsame
  rcases writeValue_of_objectOf hback.toLawful ho f hf with ⟨field, hfield, htext⟩
  rcases writeValue_of_objectOf hback.toLawful ho' f' hf' with ⟨field', hfield', htext'⟩
  have hwrite := hwrites field field' f'.value (by rw [hfield, hfield', hsame.1])
  rw [htext', ← hsame.2] at hwrite
  have hvalue := (hback.parse_writeValue htext).symm.trans (hback.parse_writeValue hwrite)
  exact KeyField.ext hsame.1 (Option.some.inj hvalue) hsame.2

/-- Records about one object share their key. -/
theorem keyOf_eq_of_sameObject (hlib : lib.Lawful) (hwrites : lib.WritesByKey)
    {r r' : DataRecord V} (h : lib.SameObject m r r') : lib.keyOf m r = lib.keyOf m r' := by
  rcases h with ⟨o, o', ho, ho', htype, hvalues⟩
  rw [keyOf_of_objectOf ho, keyOf_of_objectOf ho', KeyedObject.key, KeyedObject.key, htype,
    KeyedObject.texts, KeyedObject.texts, fields_eq_of_values hlib hwrites ho ho' hvalues]

/-- Where no text has a percent sign, records with the same key fields share a key exactly
when they are about one object. -/
theorem keyOf_eq_iff_of_not_mem (hback : lib.ReadsBack) (hwrites : lib.WritesByKey)
    {r r' : DataRecord V} {o o' : KeyedObject V} (ho : lib.objectOf m r = some o)
    (ho' : lib.objectOf m r' = some o')
    (hkeys : o.fields.map KeyField.key = o'.fields.map KeyField.key)
    (hplain : ∀ t ∈ o.texts, '%' ∉ t) (hplain' : ∀ t ∈ o'.texts, '%' ∉ t) :
    lib.keyOf m r = lib.keyOf m r' ↔ lib.SameObject m r r' := by
  constructor
  · intro h
    rw [keyOf_of_objectOf ho, keyOf_of_objectOf ho', Option.some.injEq, KeyedObject.key,
      KeyedObject.key, XmlObjectKey.mk.injEq] at h
    have htexts := joined_inj_of_not_mem hplain hplain' h.2
    have hfields := fields_eq_of_texts hback hwrites ho ho' hkeys htexts
    exact ⟨o, o', ho, ho', h.1, by rw [KeyedObject.values, KeyedObject.values, hfields]⟩
  · exact keyOf_eq_of_sameObject hback.toLawful hwrites

/-! ## Splitting a message -/

theorem Splits.mem_keys_iff {s : Splitter V} {rs : List (DataRecord V)}
    (h : Splits lib m s rs) {k : XmlObjectKey} :
    k ∈ s.objectTemplates.keys ↔ ∃ r ∈ rs, lib.keyOf m r = some k := by
  rw [OrderedMap.mem_keys_iff XmlObjectKey.rank_injective, h.objectTemplates k,
    ← h.records.mem_keys_iff XmlObjectKey.rank_injective,
    OrderedMap.mem_keys_iff XmlObjectKey.rank_injective, h.records k]
  by_cases hnil : having (lib.keyOf m) rs k = []
  · simp [hnil]
  · simp [hnil]

/-- A record is not put into the splitter when it says no object, or when its key is not
ordered with those that are there. -/
theorem splitRecord_eq_error {s : Splitter V} {r : DataRecord V} {e : XmlError}
    (h : splitRecord lib m s r = .error e) :
    (lib.keyOf m r = none ∧ e ≠ .undefined) ∨
      ∃ k, lib.keyOf m r = some k ∧ ∃ k' ∈ s.objectTemplates.keys, k.less k' ∧ k'.less k := by
  unfold splitRecord at h
  cases htempl : m.getTemplateObject r.templateId with
  | none =>
    simp only [htempl, Except.error.injEq] at h
    subst h
    exact .inl ⟨by simp [Library.keyOf, htempl], by simp⟩
  | some templ =>
    cases hobject : lib.objectKey templ r.fields with
    | none =>
      simp only [htempl, hobject, Except.error.injEq] at h
      subst h
      exact .inl ⟨by simp [Library.keyOf, htempl, hobject], by simp⟩
    | some k =>
      simp only [htempl, hobject] at h
      split at h
      · cases h
      · rename_i hall
        rw [List.all_eq_true] at hall
        push Not at hall
        rcases hall with ⟨k', hk', hnot⟩
        refine .inr ⟨k, by simp [Library.keyOf, htempl, hobject], k', hk', ?_⟩
        rwa [Ne, comparable, Bool.not_eq_true', Bool.not_eq_false, Bool.and_eq_true] at hnot

/-- Where splitting records stops, one of them says no object, or two have keys that are
not ordered. -/
theorem foldlM_splitRecord_eq_error (hlib : lib.Lawful) {s : Splitter V}
    {done rs : List (DataRecord V)} {e : XmlError} (h : Splits lib m s done)
    (hfold : rs.foldlM (splitRecord lib m) s = .error e) :
    ((∃ r ∈ rs, lib.keyOf m r = none) ∧ e ≠ .undefined) ∨
      ∃ r ∈ done ++ rs, ∃ r' ∈ done ++ rs, ∃ k k', lib.keyOf m r = some k ∧
        lib.keyOf m r' = some k' ∧ k.less k' ∧ k'.less k := by
  induction rs generalizing s done with
  | nil => cases hfold
  | cons r rs ih =>
    rw [List.foldlM_cons] at hfold
    cases hstep : splitRecord lib m s r with
    | error e' =>
      have heq : e' = e := by
        rw [hstep] at hfold
        exact Except.error.inj hfold
      subst heq
      rcases splitRecord_eq_error hstep with ⟨hnone, hne⟩ | ⟨k, hk, k', hk', hboth⟩
      · exact .inl ⟨⟨r, List.mem_cons_self, hnone⟩, hne⟩
      · rcases h.mem_keys_iff.mp hk' with ⟨r', hr', hkr'⟩
        exact .inr ⟨r, List.mem_append_right _ List.mem_cons_self, r',
          List.mem_append_left _ hr', k, k', hk, hkr', hboth⟩
    | ok s₁ =>
      rw [hstep] at hfold
      rw [List.append_cons]
      rcases ih (h.step hlib hstep) hfold with ⟨⟨r', hr', hnone⟩, hne⟩ | hpair
      · exact .inl ⟨⟨r', List.mem_cons_of_mem _ hr', hnone⟩, hne⟩
      · exact .inr hpair

theorem split_eq_error (hlib : lib.Lawful) {e : XmlError} (h : split lib m = .error e) :
    ((∃ r ∈ m.records, lib.keyOf m r = none) ∧ e ≠ .undefined) ∨
      ∃ r ∈ m.records, ∃ r' ∈ m.records, ∃ k k', lib.keyOf m r = some k ∧
        lib.keyOf m r' = some k' ∧ k.less k' ∧ k'.less k := by
  unfold split at h
  cases hfold : m.records.foldlM (splitRecord lib m) Splitter.new with
  | ok s =>
    rw [hfold] at h
    cases h
  | error e' =>
    have heq : e' = e := by
      rw [hfold] at h
      exact Except.error.inj h
    subst heq
    exact foldlM_splitRecord_eq_error hlib splits_new hfold

/-- A message is split if its records are about objects whose keys are all ordered. -/
theorem exists_split_iff (hlib : lib.Lawful) :
    (∃ s, split lib m = .ok s) ↔
      (∀ r ∈ m.records, ∃ k, lib.keyOf m r = some k) ∧
        ∀ r ∈ m.records, ∀ r' ∈ m.records, ∀ k k', lib.keyOf m r = some k →
          lib.keyOf m r' = some k' → ¬ (k.less k' ∧ k'.less k) := by
  constructor
  · rintro ⟨s, hs⟩
    have hsplits := (split_eq_ok hlib hs).1
    refine ⟨hsplits.known, ?_⟩
    intro r hr r' hr' k k' hk hk'
    exact hsplits.comparable k (hsplits.mem_keys_iff.mpr ⟨r, hr, hk⟩) k'
      (hsplits.mem_keys_iff.mpr ⟨r', hr', hk'⟩)
  · rintro ⟨hkeys, hless⟩
    cases hsplit : split lib m with
    | ok s => exact ⟨s, rfl⟩
    | error e =>
      rcases split_eq_error hlib hsplit with
        ⟨⟨r, hr, hnone⟩, -⟩ | ⟨r, hr, r', hr', k, k', hk, hk', hboth⟩
      · rcases hkeys r hr with ⟨k, hk⟩
        rw [hnone] at hk
        cases hk
      · exact absurd hboth (hless r hr r' hr' k k' hk hk')

/-! ## Groups -/

/-- The groups hold each record of a message once, in the order of the message, and two
records are in one group exactly when they are about one object. -/
structure GroupedByObject (lib : Library V) (m : Message V)
    (groups : List (List (DataRecord V))) : Prop where
  perm : groups.flatten.Perm m.records
  sublist : ∀ g ∈ groups, g.Sublist m.records
  same_iff : ∀ g ∈ groups, ∀ r ∈ g, ∀ r' ∈ m.records, r' ∈ g ↔ lib.SameObject m r r'

/-- The groups of a splitter are the records that share a key. -/
theorem Splits.mem_groups_iff {s : Splitter V} (h : Splits lib m s m.records)
    {g : List (DataRecord V)} :
    g ∈ s.objectDataRecords.values ↔
      ∃ r ∈ m.records, g = m.records.filter fun r' => decide (lib.keyOf m r' = lib.keyOf m r) := by
  rw [h.records.values_eq, List.mem_map]
  constructor
  · rintro ⟨k, hk, rfl⟩
    rcases (h.records.mem_keys_iff XmlObjectKey.rank_injective).mp hk with ⟨r, hr, hkr⟩
    refine ⟨r, hr, ?_⟩
    rw [having, hkr]
  · rintro ⟨r, hr, rfl⟩
    rcases h.known r hr with ⟨k, hk⟩
    refine ⟨k, (h.records.mem_keys_iff XmlObjectKey.rank_injective).mpr ⟨r, hr, hk⟩, ?_⟩
    rw [having, hk]

/-- The groups are the objects exactly when records share a key only if they are about
one object, and the other way round. -/
theorem Splits.groupedByObject_iff {s : Splitter V} (h : Splits lib m s m.records) :
    GroupedByObject lib m s.objectDataRecords.values ↔
      ∀ r ∈ m.records, ∀ r' ∈ m.records,
        lib.keyOf m r' = lib.keyOf m r ↔ lib.SameObject m r r' := by
  constructor
  · intro hgroups r hr r' hr'
    have hg := h.mem_groups_iff.mpr ⟨r, hr, rfl⟩
    have hsame := hgroups.same_iff _ hg r (List.mem_filter.mpr ⟨hr, decide_eq_true rfl⟩) r' hr'
    rw [List.mem_filter, decide_eq_true_eq] at hsame
    rw [← hsame]
    exact ⟨fun hkey => ⟨hr', hkey⟩, And.right⟩
  · intro hsame
    refine ⟨h.records.flatten_perm XmlObjectKey.rank_injective h.known, ?_, ?_⟩
    · intro g hg
      rcases h.mem_groups_iff.mp hg with ⟨r, -, rfl⟩
      exact List.filter_sublist
    · intro g hg r hr r' hr'
      rcases h.mem_groups_iff.mp hg with ⟨r₀, -, rfl⟩
      rw [List.mem_filter, decide_eq_true_eq] at hr ⊢
      rw [← hsame r hr.1 r' hr', hr.2]
      exact ⟨And.right, fun hkey => ⟨hr', hkey⟩⟩

/-- The splitter puts the records of a message into groups by their objects. -/
def SplitsByObject (lib : Library V) (m : Message V) : Prop :=
  ∃ s, split lib m = .ok s ∧ GroupedByObject lib m s.objectDataRecords.values

/-- A message is split by its objects exactly when each record says what object it is
about and for no two of the records the one with the smaller object type has the greater
text, nor have they one object type and different values whose texts are cut into the
same pieces at percent signs. -/
theorem splitsByObject_iff (lib : Library V) (m : Message V) (hlib : lib.Lawful)
    (hwrites : lib.WritesByKey) :
    SplitsByObject lib m ↔
      (∀ r ∈ m.records, ∃ o, lib.objectOf m r = some o) ∧
        ∀ r ∈ m.records, ∀ r' ∈ m.records, ∀ o o', lib.objectOf m r = some o →
          lib.objectOf m r' = some o' →
            ¬ (o.objectType < o'.objectType ∧ joined '%' o'.texts < joined '%' o.texts) ∧
              (o.objectType = o'.objectType → pieces '%' o.texts = pieces '%' o'.texts →
                o.values = o'.values) := by
  constructor
  · rintro ⟨s, hs, hgroups⟩
    have hsplits := (split_eq_ok hlib hs).1
    have hsame := hsplits.groupedByObject_iff.mp hgroups
    have hless := ((exists_split_iff hlib).mp ⟨s, hs⟩).2
    refine ⟨fun r hr => exists_objectOf_iff.mp (hsplits.known r hr), ?_⟩
    intro r hr r' hr' o o' ho ho'
    constructor
    · intro hswapped
      apply hless r hr r' hr' o.key o'.key (keyOf_of_objectOf ho) (keyOf_of_objectOf ho')
      exact XmlObjectKey.less_both_iff.mpr (.inl hswapped)
    · intro htype hpieces
      have hkey : lib.keyOf m r' = lib.keyOf m r := by
        rw [keyOf_of_objectOf ho, keyOf_of_objectOf ho', KeyedObject.key, KeyedObject.key, htype,
          joined_eq_iff.mpr hpieces]
      rcases (hsame r hr r' hr').mp hkey with ⟨o₁, o₁', ho₁, ho₁', -, hvalues⟩
      rw [ho] at ho₁
      rw [ho'] at ho₁'
      cases ho₁
      cases ho₁'
      exact hvalues
  · rintro ⟨hobjects, hpairs⟩
    have hkeys : ∀ r ∈ m.records, ∃ k, lib.keyOf m r = some k := fun r hr =>
      exists_objectOf_iff.mpr (hobjects r hr)
    have hless : ∀ r ∈ m.records, ∀ r' ∈ m.records, ∀ k k', lib.keyOf m r = some k →
        lib.keyOf m r' = some k' → ¬ (k.less k' ∧ k'.less k) := by
      intro r hr r' hr' k k' hk hk' hboth
      rcases hobjects r hr with ⟨o, ho⟩
      rcases hobjects r' hr' with ⟨o', ho'⟩
      rw [keyOf_of_objectOf ho] at hk
      rw [keyOf_of_objectOf ho'] at hk'
      cases hk
      cases hk'
      rcases XmlObjectKey.less_both_iff.mp hboth with hswapped | hswapped
      · exact (hpairs r hr r' hr' o o' ho ho').1 hswapped
      · exact (hpairs r' hr' r hr o' o ho' ho).1 hswapped
    rcases (exists_split_iff hlib).mpr ⟨hkeys, hless⟩ with ⟨s, hs⟩
    refine ⟨s, hs, (split_eq_ok hlib hs).1.groupedByObject_iff.mpr ?_⟩
    intro r hr r' hr'
    constructor
    · intro hkey
      rcases hobjects r hr with ⟨o, ho⟩
      rcases hobjects r' hr' with ⟨o', ho'⟩
      rw [keyOf_of_objectOf ho, keyOf_of_objectOf ho', Option.some.injEq,
        KeyedObject.key, KeyedObject.key, XmlObjectKey.mk.injEq] at hkey
      exact ⟨o, o', ho, ho', hkey.1.symm,
        (hpairs r hr r' hr' o o' ho ho').2 hkey.1.symm (joined_eq_iff.mp hkey.2.symm)⟩
    · intro hobject
      exact (keyOf_eq_of_sameObject hlib hwrites hobject).symm

namespace Sample

/-- A library of text fields in which both fields identify an object. -/
def twoKeyLibrary : Library Text :=
  { textLibrary with getTemplateTypeKeys := fun _ => some [⟨0, 30⟩, ⟨0, 31⟩] }

theorem lawful_twoKeyLibrary : twoKeyLibrary.Lawful :=
  lawful.withTypeKeys _

theorem writesByKey_twoKeyLibrary : twoKeyLibrary.WritesByKey :=
  fun _ _ _ _ => rfl

/-- Two objects whose values have a percent sign in different places. -/
def percentSigns : Message Text :=
  messageOf [templateOf 0] [recordOf 0 "a%b" "c", recordOf 0 "a" "b%c"]

/-- Two objects of which the one with the smaller type has the greater text. -/
def swapped : Message Text :=
  messageOf [templateOf 0, templateOf 2] [recordOf 0 "b" "x", recordOf 2 "a" "x"]

/-- Two objects of one group, and two objects whose keys are not ordered. -/
theorem not_splitsByObject :
    twoKeyLibrary.Lawful ∧ twoKeyLibrary.WritesByKey ∧
      ¬ SplitsByObject twoKeyLibrary percentSigns ∧ ¬ SplitsByObject twoKeyLibrary swapped := by
  refine ⟨lawful_twoKeyLibrary, writesByKey_twoKeyLibrary, ?_, ?_⟩
  · rintro ⟨s, hs, hgroups⟩
    have hsame := (split_eq_ok lawful_twoKeyLibrary hs).1.groupedByObject_iff.mp hgroups
      (recordOf 0 "a%b" "c") List.mem_cons_self (recordOf 0 "a" "b%c")
      (List.mem_cons_of_mem _ List.mem_cons_self)
    rcases hsame.mp (by decide) with ⟨o, o', ho, ho', -, hvalues⟩
    cases ho
    cases ho'
    exact absurd hvalues (by decide)
  · rintro ⟨s, hs, -⟩
    have herror : split twoKeyLibrary swapped = .error .undefined := rfl
    rw [herror] at hs
    cases hs

/-- Two auctions, one of them with options, and a bid. -/
def auctions : Message Text :=
  messageOf [templateOf 0, templateOf 1, templateOf 2]
    [recordOf 0 "a" "x", recordOf 2 "c" "1", recordOf 1 "a" "y", recordOf 0 "b" "z"]

theorem splitsByObject_auctions : SplitsByObject textLibrary auctions := by
  rw [splitsByObject_iff textLibrary auctions lawful fun _ _ _ _ => rfl]
  constructor
  · intro r hr
    simp only [auctions, messageOf, List.mem_cons, List.not_mem_nil, or_false] at hr
    rcases hr with rfl | rfl | rfl | rfl <;> exact ⟨_, rfl⟩
  · intro r hr r' hr' o o' ho ho'
    simp only [auctions, messageOf, List.mem_cons, List.not_mem_nil, or_false] at hr hr'
    rcases hr with rfl | rfl | rfl | rfl <;> rcases hr' with rfl | rfl | rfl | rfl <;>
      (cases ho; cases ho'; decide)

end Sample

end Xml
end Anslp
