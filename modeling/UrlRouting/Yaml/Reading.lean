import UrlRouting.Document.Basic
import UrlRouting.Yaml.Token

/-!
# Documents of YAML texts

`Yaml.parse?` reads a text that holds one document. Lists and mappings are written in lines or in
brackets, and where nothing is written there is a plain scalar without characters.
-/

namespace UrlRouting.Yaml

/-- What stands where nothing is written. -/
def nothing : Document := .scalar (.plain "")

/-- A scalar as it is written. -/
def scalarOf (isPlain : Bool) (text : String) : Document :=
  .scalar (if isPlain then .plain text else .text text)

/-- Whether a token ends a node of a collection in lines before it has begun. -/
def endsBlockNode : Token → Bool
  | .key | .value | .blockEntry | .blockEnd => true
  | _ => false

/-- Whether a token ends a key or a value of a mapping in lines before it has begun. -/
def endsBlockPart : Token → Bool
  | .key | .value | .blockEnd => true
  | _ => false

/-- Whether a token ends an item of a list in lines before it has begun. -/
def endsBlockItem : Token → Bool
  | .blockEntry | .blockEnd => true
  | _ => false

/-- Whether a token ends a key in brackets before it has begun. -/
def endsFlowKey : Token → Bool
  | .value | .comma | .listClose | .mapClose => true
  | _ => false

/-- Whether a token ends a value in brackets before it has begun. -/
def endsFlowValue : Token → Bool
  | .comma | .listClose | .mapClose => true
  | _ => false

/-- Where a node stands. -/
inductive Place where
  /-- In lines. -/
  | block
  /-- In lines, as a key or a value: the dashes of a list need not be indented. -/
  | blockPart
  /-- In brackets. -/
  | flow
deriving Repr, DecidableEq

/-- The tokens after a comma. -/
def afterComma? : List Token → Option (List Token)
  | .comma :: rest => some rest
  | _ => none

mutual

/-- Reads a node. -/
def readNode? : Nat → Place → List Token → Option (Document × List Token)
  | 0, _, _ => none
  | fuel + 1, place, tokens =>
    match tokens with
    | .scalar isPlain text :: rest => some (scalarOf isPlain text, rest)
    | .listOpen :: rest =>
      (readFlowItems? fuel true rest).map fun (items, rest) => (.list items, rest)
    | .mapOpen :: rest =>
      (readFlowMembers? fuel true rest).map fun (members, rest) => (.map members, rest)
    | .blockListStart :: rest =>
      if place = .flow then none
      else (readItems? fuel rest).map fun (items, rest) => (.list items, rest)
    | .blockMapStart :: rest =>
      if place = .flow then none
      else (readMembers? fuel rest).map fun (members, rest) => (.map members, rest)
    | .blockEntry :: _ =>
      if place = .blockPart then
        (readDashes? fuel tokens).map fun (items, rest) => (.list items, rest)
      else none
    | _ => none

/-- Reads a node unless a token ends it before it has begun. -/
def readUnless? : Nat → (Token → Bool) → Place → List Token → Option (Document × List Token)
  | 0, _, _, _ => none
  | fuel + 1, isEnd, place, tokens =>
    if tokens.head?.any isEnd then some (nothing, tokens) else readNode? fuel place tokens

/-- Reads the value of a key if a colon follows. -/
def readValue? : Nat → (Token → Bool) → Place → List Token → Option (Document × List Token)
  | 0, _, _, _ => none
  | fuel + 1, isEnd, place, tokens =>
    match tokens with
    | .value :: rest => readUnless? fuel isEnd place rest
    | _ => some (nothing, tokens)

/-- Reads the items of a list in lines. -/
def readItems? : Nat → List Token → Option (List Document × List Token)
  | 0, _ => none
  | fuel + 1, tokens =>
    match tokens with
    | .blockEnd :: rest => some ([], rest)
    | .blockEntry :: rest =>
      match readUnless? fuel endsBlockItem .block rest with
      | some (item, rest) =>
        (readItems? fuel rest).map fun (items, rest) => (item :: items, rest)
      | none => none
    | _ => none

/-- Reads the items of a list whose dashes are not indented. -/
def readDashes? : Nat → List Token → Option (List Document × List Token)
  | 0, _ => none
  | fuel + 1, tokens =>
    match tokens with
    | .blockEntry :: rest =>
      match readUnless? fuel endsBlockNode .block rest with
      | some (item, rest) =>
        (readDashes? fuel rest).map fun (items, rest) => (item :: items, rest)
      | none => none
    | _ => some ([], tokens)

/-- Reads the members of a mapping in lines. -/
def readMembers? : Nat → List Token → Option (List (Document × Document) × List Token)
  | 0, _ => none
  | fuel + 1, tokens =>
    match tokens with
    | .blockEnd :: rest => some ([], rest)
    | .key :: rest =>
      match readUnless? fuel endsBlockPart .blockPart rest with
      | some (key, rest) =>
        match readValue? fuel endsBlockPart .blockPart rest with
        | some (value, rest) =>
          (readMembers? fuel rest).map fun (members, rest) => ((key, value) :: members, rest)
        | none => none
      | none => none
    | _ => none

/-- Reads the items of a list in brackets. A key makes an item that is a mapping of one member. -/
def readFlowItems? : Nat → Bool → List Token → Option (List Document × List Token)
  | 0, _, _ => none
  | fuel + 1, isFirst, tokens =>
    match tokens with
    | .listClose :: rest => some ([], rest)
    | .comma :: .listClose :: rest => if isFirst then none else some ([], rest)
    | tokens =>
      match (if isFirst then some tokens else afterComma? tokens) with
      | some (.key :: rest) =>
        match readUnless? fuel endsFlowKey .flow rest with
        | some (key, rest) =>
          match readValue? fuel endsFlowValue .flow rest with
          | some (value, rest) =>
            (readFlowItems? fuel false rest).map fun (items, rest) =>
              (.map [(key, value)] :: items, rest)
          | none => none
        | none => none
      | some tokens =>
        match readNode? fuel .flow tokens with
        | some (item, rest) =>
          (readFlowItems? fuel false rest).map fun (items, rest) => (item :: items, rest)
        | none => none
      | none => none

/-- Reads the members of a mapping in brackets. -/
def readFlowMembers? : Nat → Bool → List Token → Option (List (Document × Document) × List Token)
  | 0, _, _ => none
  | fuel + 1, isFirst, tokens =>
    match tokens with
    | .mapClose :: rest => some ([], rest)
    | .comma :: .mapClose :: rest => if isFirst then none else some ([], rest)
    | tokens =>
      match (if isFirst then some tokens else afterComma? tokens) with
      | some (.key :: rest) =>
        match readUnless? fuel endsFlowKey .flow rest with
        | some (key, rest) =>
          match readValue? fuel endsFlowValue .flow rest with
          | some (value, rest) =>
            (readFlowMembers? fuel false rest).map fun (members, rest) =>
              ((key, value) :: members, rest)
          | none => none
        | none => none
      | some tokens =>
        match readNode? fuel .flow tokens with
        | some (key, rest) =>
          (readFlowMembers? fuel false rest).map fun (members, rest) =>
            ((key, nothing) :: members, rest)
        | none => none
      | none => none

end

/-- Whether a token ends a document before it has begun. -/
def endsDocument : Token → Bool
  | .documentStart | .documentEnd => true
  | _ => false

/-- The document of some tokens. Each token is looked at a few times at most, which bounds the
steps. -/
def ofTokens? (tokens : List Token) : Option Document :=
  let fuel := 4 * tokens.length + 4
  let isOver (rest : List Token) : Bool := rest.all (· == .documentEnd)
  let document := match tokens with
    | [] => some (nothing, [])
    | .documentStart :: rest =>
      if rest.isEmpty then some (nothing, [])
      else readUnless? fuel endsDocument .block rest
    | tokens => readNode? fuel .block tokens
  (document.filter fun (_, rest) => isOver rest).map Prod.fst

/-- The document of a text. -/
def parse? (text : String) : Option Document := (Token.scan? text).bind ofTokens?

end UrlRouting.Yaml
