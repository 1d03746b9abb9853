import Anslp.Msg.Ipap

/-!
# The XML form of a message

A message is written as a document with one root element.  The writer first
splits the records by the objects they are about; it then writes the templates
no record uses, and for each object type the templates that records use and the
records, object by object.  The reader walks the document once for the header,
once for the templates and once for the records.

A document stands for the text that the XML library makes of it: what the
writer puts into an element, the parser gives back.

Main results:

- Theorem {lit}`cString_of_not_mem`: a text without NUL characters is written whole.
- Theorem {lit}`isBranch_insert_space`: white space and comments between elements do not
  make a document invalid.

Current gaps:

- The text of a document is left out: entities, comments and the declaration of the type are the
  XML library's.
-/

namespace Anslp
namespace Xml

open Ipap Numerals Grouping

/-! ## Documents -/

/-- The elements of a document. -/
inductive ElementName
  | ipapMessage
  | template
  | tfield
  | datarecord
  | field
deriving DecidableEq, Repr

/-- The attributes of the elements. -/
inductive AttributeName
  | lastTemplateId
  | domainId
  | version
  | exportTime
  | seqNo
  | ackSeqNo
  | id
  | type
  | numFields
  | eno
  | ftype
  | coding
  | length
  | xmlName
  | templateId
  | name
deriving DecidableEq, Repr

/-- A node of a document: an element, a piece of text, or a comment or an instruction for
another program. -/
inductive XmlNode
  | element (name : ElementName) (attributes : List (AttributeName × Text))
      (children : List XmlNode)
  | text (content : Text)
  | comment (content : Text)

namespace XmlNode

/-- The node is an element of this name. -/
def hasName (name : ElementName) : XmlNode → Bool
  | .element name' _ _ => name' == name
  | _ => false

/-- The children of an element. -/
def children : XmlNode → List XmlNode
  | .element _ _ children => children
  | _ => []

/-- The attributes of an element. -/
def attributes : XmlNode → List (AttributeName × Text)
  | .element _ attributes _ => attributes
  | _ => []

/-- The value of an attribute, empty without it ({lit}`xmlGetProp` behind
{lit}`xmlCharToString`). -/
def getProp (n : XmlNode) (prop : AttributeName) : Text :=
  ((n.attributes.find? fun a => a.1 == prop).map Prod.snd).getD []

/-- The text of an element ({lit}`xmlNodeListGetString` on its children). -/
def string (n : XmlNode) : Text :=
  n.children.flatMap fun
    | .text content => content
    | _ => []

/-- The element has all of these attributes, and no others. -/
def hasAttributes (n : XmlNode) (names : List AttributeName) : Bool :=
  (names.all fun prop => n.attributes.any fun a => a.1 == prop) &&
    n.attributes.all fun a => names.contains a.1

/-- The node may stand in an element that is declared to hold text. -/
def isData : XmlNode → Bool
  | .element _ _ _ => false
  | _ => true

/-- The node may stand between the elements in an element that is declared to hold
elements only: white space, or a comment. -/
def isSpace : XmlNode → Bool
  | .element _ _ _ => false
  | .text content => content.all fun c => c == ' ' || c == '\t' || c == '\n' || c == '\r'
  | .comment _ => true

end XmlNode

/-- Why a message is not written or a document not read. -/
inductive XmlError
  /-- An error of the program, with its text. -/
  | error (what : String)
  /-- An exception of the message library. -/
  | library
  /-- The language leaves open what happens. -/
  | undefined
deriving DecidableEq, Repr

/-! ## Splitting -/

/-- What the writer keeps of a message. -/
structure Splitter (V : Type) where
  templates : TemplateContainer
  objectTemplates : OrderedMap XmlObjectKey.rank TemplateContainer
  objectDataRecords : OrderedMap XmlObjectKey.rank (List (DataRecord V))

/-- A splitter just constructed. -/
def Splitter.new {V : Type} : Splitter V where
  templates := .empty
  objectTemplates := .empty
  objectDataRecords := .empty

section Writer

variable {V : Type} (lib : Library V) (m : Message V)

/-- Two keys are not both less than the other. -/
def comparable (k k' : XmlObjectKey) : Bool :=
  !(k.less k' && k'.less k)

/-- Put a record and its template under the object the record is about.  The
map compares keys with {lit}`operator<`, so it has a meaning only where this is an order. -/
def splitRecord (s : Splitter V) (gData : DataRecord V) : Except XmlError (Splitter V) :=
  match m.getTemplateObject gData.templateId with
  | none => .error (.error "anslp_ipap_xml_message: required template not included in message")
  | some templ =>
    match lib.objectKey templ gData.fields with
    | none => .error (.error ("anslp_ipap_xml_message: error while reading data record " ++
        lib.keyError templ gData.fields))
    | some xmlKey =>
      if s.objectTemplates.keys.all (comparable xmlKey) then
        .ok { s with
          objectTemplates := s.objectTemplates.insert xmlKey
            (lib.addTemplate ((s.objectTemplates.find? xmlKey).getD .empty) templ)
          objectDataRecords := collect s.objectDataRecords xmlKey gData }
      else .error .undefined

/-- The templates that no record uses. -/
def notRelated : List Template :=
  m.templates.filter fun t => !(m.records.map DataRecord.templateId).contains t.id

/-- {lit}`split`. -/
def split : Except XmlError (Splitter V) :=
  match m.records.foldlM (splitRecord lib m) Splitter.new with
  | .error e => .error e
  | .ok s =>
      .ok { s with templates := (notRelated m).foldl lib.addTemplate s.templates }

/-! ## Writing -/

/-- A text as a function that takes a C string gets it: up to its first NUL. -/
def cString (text : Text) : Text :=
  text.takeWhile fun c => c != '\x00'

theorem cString_of_not_mem {text : Text} (h : '\x00' ∉ text) : cString text = text := by
  rw [cString, List.takeWhile_eq_self_iff]
  intro c hc
  rw [bne_iff_ne]
  rintro rfl
  exact h hc

/-- A field of a template. -/
def writeTfield (type : FieldType) : XmlNode :=
  .element .tfield
    [(.eno, printInt type.key.eno.toInt), (.ftype, printInt type.key.ftype.toInt),
      (.coding, printInt type.coding.toInt), (.length, printInt type.length.toInt),
      (.xmlName, cString type.xmlName)]
    [.text (cString type.name)]

/-- {lit}`writeTemplate`. -/
def writeTemplate (templ : Template) : XmlNode :=
  .element .template
    [(.id, printNat templ.id.toNat), (.type, printNat templ.type.toNat),
      (.numFields, printNat templ.fields.length)]
    (templ.fields.map writeTfield)

/-- The element of a value, with the definition of its field ({lit}`writeFieldValue`
hands on the C string of the value). -/
def fieldElement (field : FieldType) (value : Text) : XmlNode :=
  .element .field
    [(.name, cString field.xmlName), (.eno, printInt field.key.eno.toInt),
      (.ftype, printInt field.key.ftype.toInt)]
    [.text (cString value)]

/-- A value of a record, under the definition its template has of the field. -/
def writeField (templ : Template) (e : FieldKey × V) : Except XmlError (List XmlNode) :=
  match lib.getField templ e.1 with
  | none => .error .library
  | some field =>
    match lib.writeValue field e.2 with
    | none => .error .library
    | some value => .ok [fieldElement field value]

/-- {lit}`writeDataRecord`, in the element of the record. -/
def writeDataRecord (templ : Template) (gData : DataRecord V) :
    Except XmlError (List XmlNode) :=
  match writeAll (writeField lib templ) gData.fields with
  | .error e => .error e
  | .ok fields =>
    .ok [.element .datarecord [(.templateId, printNat gData.templateId.toNat)] fields]

/-- {lit}`getTemplate`. -/
def getTemplate (s : Splitter V) (key : XmlObjectKey) (templid : UInt16) :
    Except XmlError Template :=
  match s.objectTemplates.find? key with
  | none => .error (.error "Template not found in the container")
  | some container =>
    match container.find? templid with
    | none => .error (.error "Template not found in the container")
    | some templ => .ok templ

/-- A record of an object, if its template has one of the types asked for. -/
def printRecord (s : Splitter V) (types : UInt32 → Bool) (key : XmlObjectKey)
    (gData : DataRecord V) : Except XmlError (List XmlNode) :=
  match getTemplate s key gData.templateId with
  | .error e => .error e
  | .ok templ => if types templ.type then writeDataRecord lib templ gData else .ok []

/-- The records of an object with templates of the types asked for. -/
def printRecords (s : Splitter V) (types : UInt32 → Bool) (key : XmlObjectKey) :
    Except XmlError (List XmlNode) :=
  writeAll (printRecord lib s types key) ((s.objectDataRecords.find? key).getD [])

/-- {lit}`printTemplateDataRecords`. -/
def printTemplateDataRecords (s : Splitter V) (key : XmlObjectKey) :
    Except XmlError (List XmlNode) :=
  printRecords lib s lib.isSetid key

/-- {lit}`printOptionDataRecords`. -/
def printOptionDataRecords (s : Splitter V) (key : XmlObjectKey) :
    Except XmlError (List XmlNode) :=
  printRecords lib s lib.isOptns key

/-- {lit}`writeTemplates`: the templates of all objects, each id once. -/
def writeTemplates (s : Splitter V) : List XmlNode :=
  (index UInt16.toNat Template.id
    (s.objectTemplates.values.flatMap OrderedMap.values)).values.map writeTemplate

/-- The records of one object: first those that state it, then its options. -/
def writeObject (s : Splitter V) (key : XmlObjectKey) : Except XmlError (List XmlNode) :=
  match printTemplateDataRecords lib s key with
  | .error e => .error e
  | .ok data =>
    match printOptionDataRecords lib s key with
    | .error e => .error e
    | .ok options => .ok (data ++ options)

/-- The keys of an object type. -/
def objectKeys (s : Splitter V) (objectType : Nat) : List XmlObjectKey :=
  (((s.objectTemplates.keys ++ s.objectDataRecords.keys).filter fun k =>
    decide (k.objectType = objectType)).foldl (fun keys k => keys.insert k k)
      (.empty : OrderedMap XmlObjectKey.rank XmlObjectKey)).keys

/-- {lit}`writeRecords`. -/
def writeRecords (s : Splitter V) (keys : List XmlObjectKey) : Except XmlError (List XmlNode) :=
  writeAll (writeObject lib s) keys

/-- {lit}`writeObjectTypeData`. -/
def writeObjectTypeData (s : Splitter V) (objectType : Nat) : Except XmlError (List XmlNode) :=
  if objectKeys s objectType = [] then .ok []
  else
    match writeRecords lib s (objectKeys s objectType) with
    | .error e => .error e
    | .ok records => .ok (writeTemplates s ++ records)

/-- {lit}`writeNotRelatedTemplates`. -/
def writeNotRelatedTemplates (s : Splitter V) : List XmlNode :=
  s.templates.values.map writeTemplate

/-- The attributes of the root element. -/
def headerAttributes : List (AttributeName × Text) :=
  [(.lastTemplateId, printNat m.lastTemplateId.toNat),
    (.domainId, printInt m.header.domain.toInt), (.version, printInt m.header.version.toInt),
    (.exportTime, printNat m.header.exportTime.toNat), (.seqNo, printNat m.header.seqNo.toNat),
    (.ackSeqNo, printNat m.header.ackSeqNo.toNat)]

/-- {lit}`get_message` of a message just constructed. -/
def getMessage : Except XmlError XmlNode :=
  match split lib m with
  | .error e => .error e
  | .ok s =>
    match writeAll (writeObjectTypeData lib s) (List.range lib.maxObjectType) with
    | .error e => .error e
    | .ok data =>
      .ok (.element .ipapMessage (headerAttributes m) (writeNotRelatedTemplates s ++ data))

end Writer

/-! ## Validation -/

/-- An element with attributes and text, as the document type declares two of them. -/
def isLeaf (name : ElementName) (attributes : List AttributeName) (n : XmlNode) : Bool :=
  n.hasName name && n.hasAttributes attributes && n.children.all XmlNode.isData

/-- An element with attributes around children of one kind, with white space and comments
between them. -/
def isBranch (name : ElementName) (attributes : List AttributeName) (child : XmlNode → Bool)
    (n : XmlNode) : Bool :=
  n.hasName name && n.hasAttributes attributes && n.children.all fun n => child n || n.isSpace

theorem isBranch_of_all {name : ElementName} {attributes : List AttributeName}
    {child : XmlNode → Bool} {n : XmlNode} (hname : n.hasName name = true)
    (hattributes : n.hasAttributes attributes = true) (hall : n.children.all child = true) :
    isBranch name attributes child n = true := by
  simp only [isBranch, Bool.and_eq_true]
  refine ⟨⟨hname, hattributes⟩, ?_⟩
  rw [List.all_eq_true] at hall ⊢
  intro c hc
  rw [hall c hc, Bool.true_or]

/-- White space or a comment between the children leaves an element valid. -/
theorem isBranch_insert_space {name : ElementName} {attributes : List AttributeName}
    {child : XmlNode → Bool} {values : List (AttributeName × Text)} {before after : List XmlNode}
    {space : XmlNode} (hspace : space.isSpace = true)
    (h : isBranch name attributes child (.element name values (before ++ after)) = true) :
    isBranch name attributes child (.element name values (before ++ space :: after)) = true := by
  simp only [isBranch, Bool.and_eq_true, XmlNode.children, List.all_append, List.all_cons] at h ⊢
  refine ⟨h.1, h.2.1, ?_, h.2.2⟩
  rw [hspace, Bool.or_true]

/-- {lit}`TEMPLATE` in the document type. -/
def isTemplateElement : XmlNode → Bool :=
  isBranch .template [.id, .type, .numFields]
    (isLeaf .tfield [.eno, .ftype, .coding, .length, .xmlName])

/-- {lit}`DATARECORD` in the document type. -/
def isDatarecordElement : XmlNode → Bool :=
  isBranch .datarecord [.templateId] (isLeaf .field [.name, .eno, .ftype])

/-- The document is valid for its document type. -/
def validate : XmlNode → Bool :=
  isBranch .ipapMessage [.lastTemplateId, .domainId, .version, .exportTime, .seqNo, .ackSeqNo]
    fun n => isTemplateElement n || isDatarecordElement n

/-! ## Reading -/

section Reader

variable {V : Type} (lib : Library V)

/-- A field of a template; the coding and the name are read and dropped. -/
def readTfield (cur : XmlNode) : RawField where
  eno := (strtoul (cur.getProp .eno)).toUInt32
  ienum := (strtoul (cur.getProp .ftype)).toUInt16
  length := (strtoul (cur.getProp .length)).toUInt16

/-- {lit}`ReadTemplateFields`. -/
def readTemplateFields (cur : List XmlNode) : List RawField :=
  (cur.filter (XmlNode.hasName .tfield)).map readTfield

/-- Read a template into the message.  The array of fields has as many elements as
the element declares: more fields would be written past its end, and of less
the rest would be left as it was. -/
def readTemplate (message : Message V) (cur : XmlNode) : Except XmlError (Message V) :=
  if atoi (cur.getProp .numFields) ≤ 0 then
    .error (.error "Invalid template, non positive field number")
  else if ((readTemplateFields cur.children).length : Int) ≠
      (atoi (cur.getProp .numFields)).toInt then .error .undefined
  else
    match strToUint16 (cur.getProp .id) with
    | none => .error .undefined
    | some uid =>
      match lib.makeTemplate message (readTemplateFields cur.children)
          (atoi (cur.getProp .type)).toUInt32 uid with
      | none => .error .library
      | some message => .ok message

/-- Read a value into the record. -/
def readField (templ : Template) (data : DataFields V) (cur : XmlNode) :
    Except XmlError (DataFields V) :=
  let key : FieldKey := ⟨atoi (cur.getProp .eno), atoi (cur.getProp .ftype)⟩
  match lib.getField templ key with
  | none => .error .library
  | some field =>
    if cur.string = [] then .error (.error "Missing value")
    else
      match lib.parse field cur.string with
      | none => .error .library
      | some val => .ok (lib.insertField data key val)

/-- {lit}`ReadRecords`: read a record into the message. -/
def readRecord (message : Message V) (cur : XmlNode) : Except XmlError (Message V) :=
  match strToUint16 (cur.getProp .templateId) with
  | none => .error .undefined
  | some templId =>
    match message.getTemplateObject templId with
    | none => .error .library
    | some templ =>
      match (cur.children.filter (XmlNode.hasName .field)).foldlM (readField lib templ) [] with
      | .error e => .error e
      | .ok fields =>
        match lib.includeData message templId ⟨templId, fields⟩ with
        | none => .error .library
        | some message => .ok message

/-- The message that the header gives. -/
def readHeader (cur : XmlNode) : Message V :=
  let message := lib.newMessage (atoi (cur.getProp .domainId)) (atoi (cur.getProp .version))
  { message with
    header := { message.header with
      exportTime := (atoi (cur.getProp .exportTime)).toUInt32
      seqNo := (atoi (cur.getProp .seqNo)).toUInt32
      ackSeqNo := (atoi (cur.getProp .ackSeqNo)).toUInt32 } }

/-- {lit}`from_message`. -/
def fromMessage (doc : XmlNode) : Except XmlError (Message V) :=
  if validate doc then
    match (doc.children.filter (XmlNode.hasName .template)).foldlM (readTemplate lib)
        (readHeader lib doc) with
    | .error e => .error e
    | .ok message =>
      (doc.children.filter (XmlNode.hasName .datarecord)).foldlM (readRecord lib) message
  else .error (.error ("xml does not validate against " ++ lib.dtdFilename))

end Reader

end Xml
end Anslp
