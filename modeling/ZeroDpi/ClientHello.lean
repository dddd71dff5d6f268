/-
A ClientHello as its format has it, apart from the code that walks it.

Two readings of one record. `Located` is what a lenient reader looks for:
every level is a vector inside its parent with anything behind it, up to
the first host name. `Record` is the strict one: the vectors fill their
parents exactly and the extension block is a list of extensions. Both
carry their length bounds, so that every value is the bytes of a record.
-/
import ZeroDpi.Interceptor
import ZeroDpi.Lib.Vectors

namespace ZeroDpi.ClientHello

open Lib

-- ========================================================== the fields

/-- The fields of a ClientHello in front of its extension block. -/
structure Fields where
  version : Bytes
  random : Bytes
  sessionId : Bytes
  cipherSuites : Bytes
  compressionMethods : Bytes
  version_length : version.length = 2
  random_length : random.length = 32
  sessionId_lt : sessionId.length < 256
  cipherSuites_lt : cipherSuites.length < 65536
  compressionMethods_lt : compressionMethods.length < 256
  deriving DecidableEq

/-- The fields in their order. -/
def Fields.encode (f : Fields) : Bytes :=
  f.version ++ (f.random ++ (vec 1 f.sessionId ++ (vec 2 f.cipherSuites
    ++ vec 1 f.compressionMethods)))

-- ====================================================== the extensions

/-- One extension: a type and a content of 16-bit length. -/
structure Extension where
  type : Nat
  data : Bytes
  type_lt : type < 65536
  data_lt : data.length < 65536
  deriving DecidableEq

/-- Type, length and data. -/
def Extension.encode (e : Extension) : Bytes :=
  beBytes 2 e.type ++ vec 2 e.data

/-- The extensions one behind the other. -/
def encodeAll (es : List Extension) : Bytes := es.flatMap Extension.encode

@[simp] theorem Extension.length_encode (e : Extension) :
    e.encode.length = 4 + e.data.length := by
  rw [Extension.encode, List.length_append, length_beBytes, length_vec]
  omega

@[simp] theorem encodeAll_nil : encodeAll [] = [] := rfl

@[simp] theorem encodeAll_cons (e : Extension) (es : List Extension) :
    encodeAll (e :: es) = e.encode ++ encodeAll es := List.flatMap_cons

@[simp] theorem encodeAll_append (es es' : List Extension) :
    encodeAll (es ++ es') = encodeAll es ++ encodeAll es' :=
  List.flatMap_append

/-- The type of the `server_name` extension. -/
def serverNameType : Nat := 0x0000

/-- The type of the padding extension. -/
def paddingType : Nat := 0x0015

/-- The type of the `pre_shared_key` extension. -/
def preSharedKeyType : Nat := 0x0029

-- ===================================================== the host name

/-- The content of a `server_name` extension whose list starts with a host
name: the entries behind it and what stands behind the list are bytes. -/
structure ServerNames where
  hostName : Bytes
  moreNames : Bytes
  behindList : Bytes
  hostName_ne : hostName ≠ []
  deriving DecidableEq

/-- The name list: an entry of type `host_name`, and more. -/
def ServerNames.list (n : ServerNames) : Bytes :=
  [0x00] ++ (vec 2 n.hostName ++ n.moreNames)

/-- The list, and what is behind it. -/
def ServerNames.encode (n : ServerNames) : Bytes :=
  vec 2 n.list ++ n.behindList

/-- The parts of a payload down to its first host name. -/
structure LocatedParts where
  recordVersion : Bytes
  fields : Fields
  earlier : List Extension
  names : ServerNames
  laterExtensions : Bytes
  behindExtensions : Bytes
  behindMessage : Bytes
  behindRecord : Bytes
  recordVersion_length : recordVersion.length = 2
  /-- The extension is the first of its type. -/
  earlier_ne : ∀ e ∈ earlier, e.type ≠ serverNameType

namespace LocatedParts

variable (l : LocatedParts)

/-- All extensions, the server name among them. -/
def block : Bytes :=
  encodeAll l.earlier ++ (beBytes 2 serverNameType ++ (vec 2 l.names.encode
    ++ l.laterExtensions))

/-- The handshake message. -/
def message : Bytes :=
  l.fields.encode ++ (vec 2 l.block ++ l.behindExtensions)

/-- The record's body. -/
def body : Bytes := [0x01] ++ (vec 3 l.message ++ l.behindMessage)

/-- The record. -/
def encode : Bytes :=
  [0x16] ++ (l.recordVersion ++ (vec 2 l.body ++ l.behindRecord))

end LocatedParts

/-- A payload taken apart down to its first host name. -/
structure Located extends LocatedParts where
  body_lt : toLocatedParts.body.length < 65536

-- ==================================================== the whole record

/-- The parts of a record that is one ClientHello. -/
structure RecordParts where
  recordVersion : Bytes
  fields : Fields
  extensions : List Extension
  recordVersion_length : recordVersion.length = 2

namespace RecordParts

variable (r : RecordParts)

/-- Its fields and its extensions, with their length. -/
def message : Bytes := r.fields.encode ++ vec 2 (encodeAll r.extensions)

/-- The handshake message, with its type and length. -/
def body : Bytes := [0x01] ++ vec 3 r.message

/-- The record, with its header. -/
def encode : Bytes := [0x16] ++ (r.recordVersion ++ vec 2 r.body)

end RecordParts

/-- A record that is one ClientHello, every length exact. -/
structure Record extends RecordParts where
  body_lt : toRecordParts.body.length < 65536

/-- A padding extension of `k` zero bytes. -/
def padding (k : Nat) (h : k < 65536) : Extension where
  type := paddingType
  data := List.replicate k 0
  type_lt := by decide
  data_lt := by
    rw [List.length_replicate]
    exact h

/-- A list with one extension more: in front of its last `server_name` when
that is asked for and there is one, else at the end. -/
inductive Inserted (beforeName : Prop) (x : Extension) :
    List Extension → List Extension → Prop
  | before (front : List Extension) (name : Extension)
      (back : List Extension) : beforeName → name.type = serverNameType →
      (∀ e ∈ back, e.type ≠ serverNameType) →
      Inserted beforeName x (front ++ name :: back)
        (front ++ x :: name :: back)
  | atEnd (es : List Extension) :
      (beforeName → ∀ e ∈ es, e.type ≠ serverNameType) →
      Inserted beforeName x es (es ++ [x])

/-- What every ClientHello owes its extension list: the types differ, and
`pre_shared_key` is the last if it is there. -/
structure Legal (es : List Extension) : Prop where
  nodup : (es.map Extension.type).Nodup
  pskLast : ∀ e ∈ es, e.type = preSharedKeyType → es.getLast? = some e

end ZeroDpi.ClientHello
