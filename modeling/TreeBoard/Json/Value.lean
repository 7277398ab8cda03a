import TreeBoard.Json.Token

/-!
# Values of JSON

The tokens of a JSON text form one value. The lists and objects that are open at a token are kept on
a stack, so values can be nested to any depth.
-/

namespace TreeBoard.Json

/-- A JSON value. The members of an object stand in their order, with repeated keys. -/
inductive Value where
  | null
  | bool (value : Bool)
  | number (value : Option Nat)
  | text (value : Option String)
  | list (items : List Value)
  | object (members : List (Option String × Value))

/-- A list or object that is still open, with what it holds so far in reverse. An object waits for
the value of its last key. -/
inductive Context where
  | list (items : List Value)
  | object (members : List (Option String × Value)) (key : Option String)

/-- What may come next, inside which open lists and objects. -/
inductive Expecting where
  /-- A value. -/
  | value (stack : List Context)
  /-- A value, or the end of an empty list. -/
  | firstItem (stack : List Context)
  /-- A comma, or the end of a list. -/
  | afterItem (items : List Value) (stack : List Context)
  /-- The key of a member. -/
  | key (members : List (Option String × Value)) (stack : List Context)
  /-- The key of a member, or the end of an empty object. -/
  | firstKey (stack : List Context)
  /-- The colon after a key. -/
  | colon (key : Option String) (members : List (Option String × Value)) (stack : List Context)
  /-- A comma, or the end of an object. -/
  | afterMember (members : List (Option String × Value)) (stack : List Context)
  /-- Nothing: the value is complete. -/
  | done (value : Value)

/-- What may come after a complete value. -/
def complete (value : Value) : List Context → Expecting
  | [] => .done value
  | .list items :: stack => .afterItem (value :: items) stack
  | .object members key :: stack => .afterMember ((key, value) :: members) stack

/-- Reads the first token of a value. -/
def beginValue? (stack : List Context) : Token → Option Expecting
  | .null => some (complete .null stack)
  | .bool value => some (complete (.bool value) stack)
  | .number value => some (complete (.number value) stack)
  | .text value => some (complete (.text value) stack)
  | .listStart => some (.firstItem stack)
  | .objectStart => some (.firstKey stack)
  | _ => none

/-- Reads one token. -/
def advance? : Expecting → Token → Option Expecting
  | .value stack, token => beginValue? stack token
  | .firstItem stack, .listEnd => some (complete (.list []) stack)
  | .firstItem stack, token => beginValue? (.list [] :: stack) token
  | .afterItem items stack, .comma => some (.value (.list items :: stack))
  | .afterItem items stack, .listEnd => some (complete (.list items.reverse) stack)
  | .key members stack, .text key => some (.colon key members stack)
  | .firstKey stack, .objectEnd => some (complete (.object []) stack)
  | .firstKey stack, .text key => some (.colon key [] stack)
  | .colon key members stack, .colon => some (.value (.object members key :: stack))
  | .afterMember members stack, .comma => some (.key members stack)
  | .afterMember members stack, .objectEnd => some (complete (.object members.reverse) stack)
  | _, _ => none

/-- The value that tokens form. -/
def ofTokens? (tokens : List Token) : Option Value := do
  match ← tokens.foldlM advance? (.value []) with
  | .done value => some value
  | _ => none

/-- The value of a JSON text. -/
def parse? (text : List Char) : Option Value :=
  tokens? text >>= ofTokens?

end TreeBoard.Json
