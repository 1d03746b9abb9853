import Anslp.Msg.Splitting
import Mathlib.Data.List.Pairwise

/-!
# What a document repeats and leaves out

The document of a message is to contain each template and each record of it once.  For
each object type that has keys the writer writes all templates that records use, whatever
objects they are about, and it writes the records whose templates have one of eight types.

Main results:

- Theorem {lit}`getMessage_ne_undefined`: when writing a message has a meaning.
- Theorem {lit}`oneObjectType_of_nodup`: templates written once are those of one object type.
- Theorem {lit}`writesOnce_iff`: the messages whose documents have everything once.

Current gaps:

- None for one message and a fresh writer; {lit}`XmlReuse` treats a writer that is used again.
-/

namespace Anslp
namespace Xml

open Ipap Numerals Grouping Written

variable {V : Type} {lib : Library V} {m : Message V} {s : Splitter V}

/-! ## Errors of the writer -/

/-- A template that is missing is an error of the message. -/
theorem getTemplate_ne_undefined {key : XmlObjectKey} {id : UInt16} :
    getTemplate s key id ≠ .error .undefined := by
  rw [getTemplate]
  cases s.objectTemplates.find? key with
  | none => simp
  | some container => cases hfind : container.find? id <;> simp [hfind]

/-- So is a field that its template does not have. -/
theorem writeDataRecord_ne_undefined {templ : Template} {r : DataRecord V} :
    writeDataRecord lib templ r ≠ .error .undefined := by
  rw [writeDataRecord]
  cases hfields : writeAll (writeField lib templ) r.fields with
  | ok fields => simp
  | error e =>
    rcases exists_of_writeAll_eq_error hfields with ⟨f, -, hf⟩
    rw [writeField] at hf
    cases hfield : lib.getField templ f.1 with
    | none =>
      simp only [hfield, Except.error.injEq] at hf
      simp [← hf]
    | some field =>
      cases hvalue : lib.writeValue field f.2 with
      | some value => simp [hfield, hvalue] at hf
      | none =>
        simp only [hfield, hvalue, Except.error.injEq] at hf
        simp [← hf]

/-- The records of one kind are written or refused. -/
theorem printRecords_ne_undefined {types : UInt32 → Bool} {key : XmlObjectKey} :
    printRecords lib s types key ≠ .error .undefined := by
  intro h
  rcases exists_of_writeAll_eq_error h with ⟨r, -, hr⟩
  rw [printRecord] at hr
  cases htempl : getTemplate s key r.templateId with
  | error e =>
    simp only [htempl, Except.error.injEq] at hr
    rw [hr] at htempl
    exact getTemplate_ne_undefined htempl
  | ok templ =>
    simp only [htempl] at hr
    by_cases htype : types templ.type
    · rw [if_pos htype] at hr
      exact writeDataRecord_ne_undefined hr
    · rw [if_neg htype] at hr
      cases hr

/-- The two kinds of records of an object are written or refused. -/
theorem writeObject_ne_undefined {key : XmlObjectKey} :
    writeObject lib s key ≠ .error .undefined := by
  rw [writeObject]
  cases hdata : printTemplateDataRecords lib s key with
  | error e =>
    rintro h
    cases h
    exact printRecords_ne_undefined hdata
  | ok data =>
    cases hoptions : printOptionDataRecords lib s key with
    | error e =>
      rintro h
      cases h
      exact printRecords_ne_undefined hoptions
    | ok options => simp

/-- The objects of one type are written or refused. -/
theorem writeObjectTypeData_ne_undefined {objectType : Nat} :
    writeObjectTypeData lib s objectType ≠ .error .undefined := by
  rw [writeObjectTypeData]
  by_cases hnil : objectKeys s objectType = []
  · simp [hnil]
  · rw [if_neg hnil]
    cases hrecords : writeRecords lib s (objectKeys s objectType) with
    | ok records => simp
    | error e =>
      rintro h
      cases h
      rcases exists_of_writeAll_eq_error hrecords with ⟨k, -, hk⟩
      exact writeObject_ne_undefined hk

/-- Writing a message has a meaning when the keys of its records are all ordered. -/
theorem getMessage_ne_undefined (hlib : lib.Lawful)
    (hless : ∀ r ∈ m.records, ∀ r' ∈ m.records, ∀ k k',
      lib.keyOf m r = some k → lib.keyOf m r' = some k' → ¬ (k.less k' ∧ k'.less k)) :
    getMessage lib m ≠ .error .undefined := by
  rw [getMessage]
  cases hsplit : split lib m with
  | error e =>
    rintro h
    cases h
    rcases split_eq_error hlib hsplit with ⟨-, hne⟩ | ⟨r, hr, r', hr', k, k', hk, hk', hboth⟩
    · exact hne rfl
    · exact hless r hr r' hr' k k' hk hk' hboth
  | ok s =>
    cases hdata : writeAll (writeObjectTypeData lib s) (List.range lib.maxObjectType) with
    | ok data => simp [hdata]
    | error e =>
      intro h
      simp only [hdata, Except.error.injEq] at h
      subst h
      rcases exists_of_writeAll_eq_error hdata with ⟨objectType, -, ho⟩
      exact writeObjectTypeData_ne_undefined ho

/-- Keys of one object type are ordered. -/
theorem not_less_both_of_objectType {k k' : XmlObjectKey} (h : k.objectType = k'.objectType) :
    ¬ (k.less k' ∧ k'.less k) := by
  rw [XmlObjectKey.less_both_iff]
  omega

/-! ## Templates -/

section Templates

variable (hsplits : Splits lib m s m.records) (hids : (m.templates.map Template.id).Nodup)
include hsplits hids

/-- Templates that are written once for each of two object types are written twice. -/
theorem oneObjectType_of_nodup (hlib : lib.Lawful) (htyped : RecordsTyped lib m)
    (hnodup : ((items lib m s).filterMap template?).Nodup) : OneObjectType lib m := by
  rw [template?_items, List.nodup_append', List.nodup_flatMap] at hnodup
  have hdisjoint := hnodup.2.1.2
  cases hrecords : m.records with
  | nil =>
    refine ⟨0, ?_⟩
    intro r hr
    rw [hrecords] at hr
    exact absurd hr List.not_mem_nil
  | cons r₀ rs =>
    have hr₀ : r₀ ∈ m.records := by
      rw [hrecords]
      exact List.mem_cons_self
    rcases hsplits.known r₀ hr₀ with ⟨k₀, hk₀⟩
    refine ⟨k₀.objectType, ?_⟩
    intro r hr k hk
    by_contra hne
    -- Both object types have keys, so the template of the first record is there for both.
    have hwritten : ∀ r ∈ m.records, ∀ k, lib.keyOf m r = some k →
        k.objectType ∈ List.range lib.maxObjectType ∧ objectKeys s k.objectType ≠ [] := by
      intro r hr k hk
      rcases exists_mem_writtenKeys hsplits hlib htyped hr with ⟨k', hk', hkr⟩
      rw [hk] at hkr
      cases hkr
      rw [mem_writtenKeys hsplits] at hk'
      exact ⟨List.mem_range.mpr hk'.1,
        List.ne_nil_of_mem (hsplits.mem_objectKeys.mpr ⟨rfl, hk'.2⟩)⟩
    rcases htyped r₀ hr₀ with ⟨templ, -, htempl, -⟩
    have hrelated : templ ∈ relatedTemplates s :=
      (hsplits.mem_relatedTemplates hids).mpr ⟨r₀, hr₀, htempl⟩
    have h₀ := hwritten r₀ hr₀ k₀ hk₀
    have h₁ := hwritten r hr k hk
    have hsymm : Std.Symm (Function.onFun List.Disjoint fun objectType =>
        if objectKeys s objectType = [] then [] else relatedTemplates s) :=
      ⟨fun _ _ h _ hb ha => h ha hb⟩
    have hapart := hdisjoint.forall h₁.1 h₀.1 hne
    simp only [Function.onFun, h₀.2, h₁.2, if_false] at hapart
    exact hapart hrelated hrelated

end Templates

/-! ## The document -/

/-- The document has an element for each template of the message and one for each record,
and no other of either kind. -/
structure WritesOnce (lib : Library V) (m : Message V) (doc : XmlNode) : Prop where
  templates : (doc.children.filter (XmlNode.hasName .template)).Perm
    (m.templates.map writeTemplate)
  records : ∃ rs : List (DataRecord V), rs.Perm m.records ∧
    List.Forall₂ (fun n r => Writes lib m n (.record r))
      (doc.children.filter (XmlNode.hasName .datarecord)) rs

/-- A document has everything once exactly when all records are of written types and about
objects of one type. -/
theorem writesOnce_iff_of_getMessage (hlib : lib.Lawful)
    (hids : (m.templates.map Template.id).Nodup) {doc : XmlNode}
    (hget : getMessage lib m = .ok doc) :
    WritesOnce lib m doc ↔ RecordsTyped lib m ∧ OneObjectType lib m := by
  rcases getMessage_eq_ok hlib hids hget with ⟨s, nodes, hsplits, htemplates, rfl, hnodes⟩
  have helements := filter_template hnodes
  have hrecords := forall₂_filter_datarecord hnodes
  rw [record?_items] at hrecords
  constructor
  · intro honce
    have htyped : RecordsTyped lib m := by
      rw [recordsTyped_iff, ← List.length_filter_eq_length_iff,
        ← (written_perm_filter hsplits hlib).length_eq]
      rcases honce.records with ⟨rs, hperm, hrs⟩
      rw [← hrecords.length_eq, ← hperm.length_eq]
      exact hrs.length_eq
    refine ⟨htyped, oneObjectType_of_nodup hsplits hids hlib htyped ?_⟩
    have hlength : ((items lib m s).filterMap template?).length = m.templates.length := by
      have hcount := honce.templates.length_eq
      simp only [XmlNode.children] at hcount
      rwa [helements, List.length_map, List.length_map] at hcount
    have hsub : m.templates ⊆ (items lib m s).filterMap template? := by
      intro t ht
      exact (mem_written_templates hsplits hlib htyped htemplates hids).mpr ht
    have hnodup : m.templates.Nodup := hids.of_map _
    have hperm := (List.subperm_of_subset hnodup hsub).perm_of_length_le hlength.le
    exact hperm.nodup_iff.mp hnodup
  · rintro ⟨htyped, hone⟩
    constructor
    · simp only [XmlNode.children]
      rw [helements]
      apply List.Perm.map
      rw [List.perm_ext_iff_of_nodup (nodup_written_templates hsplits htemplates hids hone)
        (hids.of_map _)]
      intro t
      exact mem_written_templates hsplits hlib htyped htemplates hids
    · exact ⟨_, written_perm hsplits hlib htyped, hrecords⟩

/-- Unless writing a message throws, its document has everything once exactly when its
records have templates of the eight types that are written and are about objects of one
type. -/
theorem writesOnce_iff (lib : Library V) (m : Message V) (hlib : lib.Lawful)
    (hids : (m.templates.map Template.id).Nodup)
    (hthrows : ∀ e, getMessage lib m = .error e → e = .undefined) :
    (∃ doc, getMessage lib m = .ok doc ∧ WritesOnce lib m doc) ↔
      RecordsTyped lib m ∧ OneObjectType lib m := by
  constructor
  · rintro ⟨doc, hget, honce⟩
    exact (writesOnce_iff_of_getMessage hlib hids hget).mp honce
  · intro h
    have hne : getMessage lib m ≠ .error .undefined := by
      rcases h.2 with ⟨o, ho⟩
      apply getMessage_ne_undefined hlib
      intro r hr r' hr' k k' hk hk'
      exact not_less_both_of_objectType ((ho r hr k hk).trans (ho r' hr' k' hk').symm)
    cases hget : getMessage lib m with
    | error e =>
      have hundefined := hthrows e hget
      subst hundefined
      exact absurd hget hne
    | ok doc => exact ⟨doc, rfl, (writesOnce_iff_of_getMessage hlib hids hget).mpr h⟩

namespace Sample

/-- An auction and a bid: both templates are written for the auctions and again for the
bids. -/
def auctionAndBid : Message Text :=
  messageOf [templateOf 0, templateOf 2] [recordOf 0 "a" "x", recordOf 2 "b" "y"]

/-- A result that was computed was computed without an error. -/
theorem exists_eq_ok_of_map {E A B : Type} {x : Except E A} {f : A → B} {b : B}
    (h : x.toOption.map f = some b) : ∃ a, x = .ok a ∧ f a = b := by
  cases x with
  | error e => cases h
  | ok a => exact ⟨a, rfl, Option.some.inj h⟩

/-- One auction and one bid: both of their templates are written twice. -/
theorem not_writesOnce : ∃ doc, getMessage textLibrary auctionAndBid = .ok doc ∧
    (doc.children.filter (XmlNode.hasName .template)).length = 4 ∧
    ¬ WritesOnce textLibrary auctionAndBid doc := by
  rcases exists_eq_ok_of_map (x := getMessage textLibrary auctionAndBid)
    (f := fun doc => (doc.children.filter (XmlNode.hasName .template)).length) (b := 4) rfl with
    ⟨doc, hget, hfour⟩
  refine ⟨doc, hget, hfour, ?_⟩
  intro honce
  have hcount := honce.templates.length_eq
  rw [hfour] at hcount
  exact absurd hcount (by decide)

/-- Two auctions, one of them with options, and a template that no record uses. -/
def twoAuctions : Message Text :=
  messageOf [templateOf 0, templateOf 1, templateOf 4]
    [recordOf 0 "a" "x", recordOf 1 "a" "y", recordOf 0 "b" "z"]

/-- Two auctions are of one object type, and their templates are written once. -/
theorem writesOnce_twoAuctions :
    ∃ doc, getMessage textLibrary twoAuctions = .ok doc ∧
      WritesOnce textLibrary twoAuctions doc := by
  rw [writesOnce_iff textLibrary twoAuctions lawful (by decide)]
  · constructor
    · intro r hr
      simp only [twoAuctions, messageOf, List.mem_cons, List.not_mem_nil, or_false] at hr
      rcases hr with rfl | rfl | rfl
      · exact ⟨templateOf 0, .setidAuction, rfl, rfl⟩
      · exact ⟨templateOf 1, .optnsAuction, rfl, rfl⟩
      · exact ⟨templateOf 0, .setidAuction, rfl, rfl⟩
    · refine ⟨0, ?_⟩
      intro r hr k hk
      simp only [twoAuctions, messageOf, List.mem_cons, List.not_mem_nil, or_false] at hr
      rcases hr with rfl | rfl | rfl <;> cases hk <;> rfl
  · intro e herror
    have hok : (getMessage textLibrary twoAuctions).toBool = true := rfl
    rw [herror] at hok
    cases hok

end Sample

end Xml
end Anslp
