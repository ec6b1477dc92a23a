import UrlRouting.Json.Basic
import UrlRouting.SortedBy
import UrlRouting.Text.Numeral

/-!
# Documents

What data formats have in common: scalars, lists and maps. Some formats say of each scalar
what it is; in others a plain scalar is what its reader asks for. In some, a list can also be a
record whose fields are known by their places. The functions `text?`, `int?`, `list?` and `map?`
ask; `isAbsent` says whether a scalar stands for no value.
-/

namespace UrlRouting

open Text

/-- A single value of a document. -/
inductive Scalar where
  /-- No value. -/
  | null
  /-- A truth value. -/
  | bool (b : Bool)
  /-- A number. -/
  | number (n : JsonNumber)
  /-- A text. -/
  | text (s : String)
  /-- A text that its reader may take for something else. -/
  | plain (s : String)

/-- A document. -/
inductive Document where
  /-- A single value. -/
  | scalar (s : Scalar)
  /-- Values in order. -/
  | list (items : List Document)
  /-- Values in order that may also be the fields of a record. -/
  | tuple (items : List Document)
  /-- Values under keys, in the order in which they are written. -/
  | map (members : List (Document × Document))

/-! ### Plain scalars -/

/-- The texts that stand for no value. -/
def nullWords : List String := ["", "~", "null", "Null", "NULL"]

/-- Reads the digits of a base. -/
def readBase? (base : Nat) (cs : List Char) : Option Nat :=
  if cs.isEmpty then none
  else
    cs.foldl (fun n? c =>
      match n?, hexDigitValue? c with
      | some n, some d => if d < base then some (n * base + d) else none
      | _, _ => none) (some 0)

/-- Reads a number without its sign: digits of base sixteen, eight or two after a mark, or
decimal digits without a zero in front. -/
def readUnsignedPlain? : List Char → Option Nat
  | '0' :: 'x' :: cs => readBase? 16 cs
  | '0' :: 'o' :: cs => readBase? 8 cs
  | '0' :: 'b' :: cs => readBase? 2 cs
  | '0' :: _ :: _ => none
  | cs => readDigits? cs

/-- Reads a plain scalar as a whole number. -/
def readPlainInt? (s : String) : Option Int :=
  match s.toList with
  | '-' :: cs => (readUnsignedPlain? cs).map fun n => -(n : Int)
  | '+' :: cs => (readUnsignedPlain? cs).map fun n => (n : Int)
  | cs => (readUnsignedPlain? cs).map fun n => (n : Int)

namespace Document

/-! ### Asking -/

/-- The text of a document that can be one. -/
def text? : Document → Option String
  | scalar (.text s) => some s
  | scalar (.plain s) => some s
  | _ => none

/-- The whole number of a document that can be one. -/
def int? : Document → Option Int
  | scalar (.number n) => n.int?
  | scalar (.plain s) => readPlainInt? s
  | _ => none

/-- Whether a document stands for no value. -/
def isAbsent : Document → Bool
  | scalar .null => true
  | scalar (.plain s) => nullWords.contains s
  | _ => false

/-- The items of a document that can be a list; nothing written is an empty list. -/
def list? : Document → Option (List Document)
  | list items => some items
  | tuple items => some items
  | scalar (.plain s) => if s.isEmpty then some [] else none
  | _ => none

/-- The members of a document that can be a map; nothing written is an empty map. -/
def map? : Document → Option (List (Document × Document))
  | map members => some members
  | scalar (.plain s) => if s.isEmpty then some [] else none
  | _ => none

/-- The text of a document, or no value. -/
def optionalText? (d : Document) : Option (Option String) :=
  if d.isAbsent then some none else d.text?.map some

/-- Applies a reader to all documents of a list. -/
def readAll? {α : Type} (read? : Document → Option α) : List Document → Option (List α)
  | [] => some []
  | d :: ds =>
    match read? d, readAll? read? ds with
    | some a, some as => some (a :: as)
    | _, _ => none

/-- Reads the members of a map one by one; of members with one key the last counts. -/
def readMembers? {α : Type} (read? : Document → Option α) (sofar : TextMap α) :
    List (Document × Document) → Option (TextMap α)
  | [] => some sofar
  | (k, v) :: rest =>
    match k.text?, read? v with
    | some key, some value => readMembers? read? (sofar.insert (key, value)) rest
    | _, _ => none

/-- Reads a map from texts. -/
def textMap? {α : Type} (read? : Document → Option α) (d : Document) : Option (TextMap α) :=
  match d.map? with
  | some members => readMembers? read? .empty members
  | none => none

/-- Reads a list. -/
def listOf? {α : Type} (read? : Document → Option α) (d : Document) : Option (List α) :=
  match d.list? with
  | some items => readAll? read? items
  | none => none

/-! ### Records -/

/-- Sorts members into the fields of a record; none where a member is no field or a field is
given twice. -/
def readFields? (fields : List String) (sofar : TextMap Document) :
    List (Document × Document) → Option (TextMap Document)
  | [] => some sofar
  | (k, v) :: rest =>
    match k.text? with
    | some name =>
      if fields.contains name && !sofar.contains name then
        readFields? fields (sofar.insert (name, v)) rest
      else none
    | none => none

/-- The fields of a record. A record is written as a map, or as a tuple of its fields in
order, in which fields at the end may be missing. -/
def record? (fields : List String) (d : Document) : Option (TextMap Document) :=
  match d with
  | tuple items =>
    if items.length ≤ fields.length then some (.ofList (fields.zip items)) else none
  | d =>
    match d.map? with
    | some members => readFields? fields .empty members
    | none => none

/-- Reads a field; a field that is not given has a default. -/
def field? {α : Type} (record : TextMap Document) (name : String) (default : α)
    (read? : Document → Option α) : Option α :=
  match record.get? name with
  | some d => read? d
  | none => some default

end Document

mutual

/-- The document that a JSON value is. -/
def Json.toDocument : Json → Document
  | .null => .scalar .null
  | .bool b => .scalar (.bool b)
  | .number n => .scalar (.number n)
  | .text s => .scalar (.text s)
  | .array values => .tuple (toDocuments values)
  | .object members => .map (toMembers members)

/-- The documents that JSON values are. -/
def Json.toDocuments : List Json → List Document
  | [] => []
  | v :: vs => v.toDocument :: toDocuments vs

/-- The members of the map that a JSON object is. -/
def Json.toMembers : List (String × Json) → List (Document × Document)
  | [] => []
  | (name, v) :: ms => (.scalar (.text name), v.toDocument) :: toMembers ms

end

end UrlRouting
