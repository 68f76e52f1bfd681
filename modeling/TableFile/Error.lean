import TableFile.Value.Display

namespace TableFile

structure FileFault where
  code : Nat
  reason : String
deriving DecidableEq

namespace FileFault

def notFound : FileFault := ⟨2, "No such file or directory"⟩

def notDirectory : FileFault := ⟨20, "Not a directory"⟩

def isDirectory : FileFault := ⟨21, "Is a directory"⟩

def message (fault : FileFault) : String :=
  s!"{fault.reason} (os error {fault.code})"

end FileFault

inductive Part where
  | varint
  | recordValue
  | cell
  | leftChild
  | pageHeader
  | cellPointers
deriving DecidableEq

def Part.name : Part → String
  | varint => "varint"
  | recordValue => "record value"
  | cell => "cell"
  | leftChild => "left child pointer"
  | pageHeader => "page header"
  | cellPointers => "cell pointer array"

inductive SchemaField where
  | kind
  | name
  | table
deriving DecidableEq

def SchemaField.column : SchemaField → String
  | kind => "type"
  | name => "name"
  | table => "tbl_name"

inductive RecordFault where
  | headerSize (declared least most : Nat)
  | headerOverrun (stop declared : Nat)
  | notText (field : SchemaField) (found : Option Value)
  | rootPage (found : Option Value)
deriving DecidableEq

def RecordFault.message : RecordFault → String
  | headerSize declared least most => s!"header size {declared} outside {least}..={most}"
  | headerOverrun stop declared =>
    s!"serial types end at byte {stop}, header declares {declared}"
  | notText field found =>
    s!"schema {field.column} should be text, found {Value.inspectColumn found}"
  | rootPage found => s!"invalid root page {Value.inspectColumn found}"

inductive DefinitionFault where
  | noOpening (sql : String)
  | noClosing (sql : String)
  | closedBeforeOpened (sql : String)
  | noColumnList (sql : String)
  | emptyColumnList (sql : String)
  | undefinedTable (name : String)
deriving DecidableEq

def DefinitionFault.message : DefinitionFault → String
  | noOpening sql => s!"no opening parenthesis in {Text.quoted sql}"
  | noClosing sql => s!"no closing parenthesis in {Text.quoted sql}"
  | closedBeforeOpened sql => s!"invalid parentheses in {Text.quoted sql}"
  | noColumnList sql => s!"no column list in {Text.quoted sql}"
  | emptyColumnList sql => s!"empty column list in {Text.quoted sql}"
  | undefinedTable name => s!"table {name} has no definition"

inductive QueryFault where
  | notSelect (sql : String)
  | noFrom (sql : String)
  | noColumns (sql : String)
  | notOneTable (sql : String)
  | noOperator (clause : String)
  | noColumn (clause : String)
  | notOneLiteral (found : String)
  | unterminated (literal : String)
  | afterLiteral (rest : String)
deriving DecidableEq

def QueryFault.message : QueryFault → String
  | notSelect sql => s!"expected SELECT: {Text.quoted sql}"
  | noFrom sql => s!"missing FROM clause: {Text.quoted sql}"
  | noColumns sql => s!"no columns selected: {Text.quoted sql}"
  | notOneTable sql => s!"expected one table name: {Text.quoted sql}"
  | noOperator clause => s!"no operator in WHERE clause {Text.quoted clause}"
  | noColumn clause => s!"no column in WHERE clause {Text.quoted clause}"
  | notOneLiteral found => s!"expected a single literal, found {Text.quoted found}"
  | unterminated literal => s!"unterminated literal {Text.quoted literal}"
  | afterLiteral rest => s!"unexpected {Text.quoted rest} after literal"

inductive Error where
  | file (fault : FileFault)
  | truncated (part : Part) (needed available : Nat)
  | cutShort (page : UInt32) (expected actual : Nat)
  | badPageSize (size : Nat)
  | pageZero
  | unrecognizedPageKind (tag : UInt8)
  | pointerOutOfRange (page : UInt32) (pointer : UInt16) (least limit : Nat)
  | payloadTooLarge (declared : UInt64) (available : Nat)
  | badRecord (fault : RecordFault)
  | badDefinition (fault : DefinitionFault)
  | unknownObjectKind (kind : String)
  | unknownTable (name : String)
  | unknownColumn (column table : String)
  | undecidable (symbol : String)
  | severalPages (table : String) (page : UInt32) (tag : UInt8)
  | badQuery (fault : QueryFault)
deriving DecidableEq

namespace Error

def hexByte (b : UInt8) : String :=
  String.ofList ['0', 'x', Nat.digitChar (b.toNat / 16), Nat.digitChar (b.toNat % 16)]

def message : Error → String
  | file fault => s!"I/O error: {fault.message}"
  | truncated part needed available =>
    s!"Truncated input while reading {part.name}: needed {needed} bytes, {available} available"
  | cutShort page expected actual =>
    s!"Short read on page {page.toNat}: expected {expected} bytes, got {actual}"
  | badPageSize size => s!"Invalid page size {size}"
  | pageZero => "Invalid page number 0"
  | unrecognizedPageKind tag => s!"Unrecognized cell type: {hexByte tag}"
  | pointerOutOfRange page pointer least limit =>
    s!"Cell pointer {pointer.toNat} out of range on page {page.toNat} (valid: {least}..{limit})"
  | payloadTooLarge declared available =>
    s!"Payload of {declared.toNat} bytes exceeds the {available} bytes left in the page " ++
      "(overflow pages are not supported)"
  | badRecord fault => s!"Malformed record: {fault.message}"
  | badDefinition fault => s!"Invalid definition: {fault.message}"
  | unknownObjectKind kind => s!"Unknown object type: {kind}"
  | unknownTable name => s!"Table '{name}' not found"
  | unknownColumn column table => s!"Column '{column}' not found in table '{table}'"
  | undecidable symbol => s!"Unsupported operator: {symbol}"
  | severalPages table page tag =>
    s!"Table '{table}' spans more than one page " ++
      s!"(root page {page.toNat} has type {hexByte tag})"
  | badQuery fault => s!"Invalid query: {fault.message}"

end Error

end TableFile
