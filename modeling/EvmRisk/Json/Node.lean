import EvmRisk.Json.Token

/-!
# Documents

A document is a tree. `Node` keeps it as it is written: numerals with their digits, and the members
of an object in their order with their repetitions. `Node.ofTokens?` builds the tree of a list of
tokens, for any depth of nesting, and `Node.read?` that of a text. `Node.compact` and `Node.pretty`
write a tree on one line and on many; the two differ in the blanks between tokens only, since both
come from the same `pieces`.
-/

namespace EvmRisk.Json

/-- A document as it is written. The name of a member and a text have no content if they name half
of a character. -/
inductive Node where
  | null
  | bool (b : Bool)
  | number (n : Numeral)
  | string (s : Option String)
  | array (items : List Node)
  /-- An object, with its members in the order in which they stand. -/
  | object (members : List (Option String × Node))

/-- A member of an object: its name and its value. -/
abbrev Member := Option String × Node

/-! ### From tokens to trees -/

/-- A bracket that is open, with what it holds so far, last one first. -/
inductive Frame where
  /-- An array, with the values before the one that is being read. -/
  | array (done : List Node)
  /-- An object, with the members before the one that is being read, and the name of that one. -/
  | object (done : List Member) (name : Option String)

/-- What may come next. -/
inductive Stage where
  /-- A value. -/
  | value
  /-- The first value of an array, or its end. -/
  | firstItem
  /-- The first name of an object, or its end. -/
  | firstName
  /-- A further name of an object that holds these members. -/
  | nextName (done : List Member)
  /-- The colon after the name of a member. -/
  | colon (done : List Member) (name : Option String)
  /-- What follows a value that is complete. -/
  | after (value : Node)

/-- The token that is expected to begin a value: an opening bracket, or the whole value. -/
def Stage.begin? (frames : List Frame) : Token → Option (Stage × List Frame)
  | .openArray => some (.firstItem, frames)
  | .openObject => some (.firstName, frames)
  | .null => some (.after .null, frames)
  | .bool b => some (.after (.bool b), frames)
  | .number n => some (.after (.number n), frames)
  | .string s => some (.after (.string s), frames)
  | _ => none

/-- One token further. -/
def Stage.step (stage : Stage) (frames : List Frame) (token : Token) :
    Option (Stage × List Frame) :=
  match stage with
  | .value => begin? frames token
  | .firstItem =>
    match token with
    | .closeArray => some (.after (.array []), frames)
    | token => begin? (.array [] :: frames) token
  | .firstName =>
    match token with
    | .closeObject => some (.after (.object []), frames)
    | .string name => some (.colon [] name, frames)
    | _ => none
  | .nextName done =>
    match token with
    | .string name => some (.colon done name, frames)
    | _ => none
  | .colon done name =>
    match token with
    | .colon => some (.value, .object done name :: frames)
    | _ => none
  | .after v =>
    match frames, token with
    | .array done :: frames, .comma => some (.value, .array (v :: done) :: frames)
    | .array done :: frames, .closeArray => some (.after (.array (v :: done).reverse), frames)
    | .object done name :: frames, .comma => some (.nextName ((name, v) :: done), frames)
    | .object done name :: frames, .closeObject =>
      some (.after (.object ((name, v) :: done).reverse), frames)
    | _, _ => none

namespace Node

/-- Reads tokens on from a stage, with the brackets open that `frames` lists innermost first. -/
def run (stage : Stage) (frames : List Frame) : List Token → Option Node
  | [] =>
    match stage, frames with
    | .after value, [] => some value
    | _, _ => none
  | token :: tokens =>
    match stage.step frames token with
    | some (stage, frames) => run stage frames tokens
    | none => none

/-- The tree of a list of tokens; `none` unless they are exactly one value. -/
def ofTokens? (tokens : List Token) : Option Node := run .value [] tokens

/-- The tree of a text; `none` unless the text is exactly one value, with or without blanks around
it. -/
def read? (text : List Char) : Option Node := (tokens? text).bind ofTokens?

/-! ### From trees to text -/

end Node

/-- A piece of a document that is laid out. -/
inductive Piece where
  | token (t : Token)
  /-- The gap between a colon and the value after it. -/
  | gap
  /-- The end of a line, with the depth of what the next line begins with. -/
  | line (depth : Nat)

/-- A piece of a document on one line: blanks are left out. -/
def Piece.compact : Piece → List Char
  | .token t => t.text
  | .gap => []
  | .line _ => []

/-- A piece of a document on many lines: each level of depth is two spaces. -/
def Piece.pretty : Piece → List Char
  | .token t => t.text
  | .gap => [' ']
  | .line depth => '\n' :: List.replicate (2 * depth) ' '

namespace Node

mutual

/-- The pieces of a value whose first line stands at a depth. -/
def pieces (depth : Nat) : Node → List Piece
  | null => [.token .null]
  | bool b => [.token (.bool b)]
  | number n => [.token (.number n)]
  | string s => [.token (.string s)]
  | array [] => [.token .openArray, .token .closeArray]
  | array (item :: items) =>
    .token .openArray :: .line (depth + 1) :: pieces (depth + 1) item ++
      itemPieces (depth + 1) items ++ [.line depth, .token .closeArray]
  | object [] => [.token .openObject, .token .closeObject]
  | object ((name, value) :: members) =>
    .token .openObject :: .line (depth + 1) :: .token (.string name) :: .token .colon :: .gap ::
      pieces (depth + 1) value ++ memberPieces (depth + 1) members ++
      [.line depth, .token .closeObject]

/-- The pieces of values that follow others in an array. -/
def itemPieces (depth : Nat) : List Node → List Piece
  | [] => []
  | item :: items =>
    .token .comma :: .line depth :: pieces depth item ++ itemPieces depth items

/-- The pieces of members that follow others in an object. -/
def memberPieces (depth : Nat) : List (Option String × Node) → List Piece
  | [] => []
  | (name, value) :: members =>
    .token .comma :: .line depth :: .token (.string name) :: .token .colon :: .gap ::
      pieces depth value ++ memberPieces depth members

end

/-- A document on one line. -/
def compact (n : Node) : String := String.ofList ((n.pieces 0).flatMap Piece.compact)

/-- A document with a line for every value and every member. -/
def pretty (n : Node) : String := String.ofList ((n.pieces 0).flatMap Piece.pretty)

end Node

end EvmRisk.Json
