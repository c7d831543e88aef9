import SlotDispatch.Json.Token

/-!
# JSON texts as they are met

A reader who goes through a JSON text from left to right may be done with it, or refuse it, before
the place where the text turns out not to be well-formed. A `Tree` is a text as such a reader meets
it: the values in their nesting, with every fault in the place where the reader would run into it.
An array or object that does not end well keeps what stands before the fault (`ArrayEnd`,
`ObjectEnd`), and where a value is expected and none can be found, the tree is `broken`.

What comes after a fault in the order of reading is of no importance, as nobody gets past it.

* `Tree.ofTokens`: the tree of some tokens, made in one pass with a stack of the arrays and objects
  that are open;
* `Reading.of`: the tree of a text, and whether anything comes after it;
* `Tree.skip`: what a reader meets who only wants to get past a value.
-/

namespace SlotDispatch.Json

/-- How an array ends. -/
inductive ArrayEnd where
  /-- With its closing bracket. -/
  | closed
  /-- The text ends after an item, or before the first one. -/
  | cut
  /-- The text ends after a comma. -/
  | cutAfterComma
  /-- Something else comes where a comma or a bracket is expected, or a bracket after a comma. -/
  | malformed
deriving DecidableEq

/-- What a reader meets at the end of an array when it looks for one more item. -/
def ArrayEnd.fault? : ArrayEnd → Option Fault
  | .closed => none
  | .cut | .cutAfterComma => some .endOfText
  | .malformed => some .malformed

/-- How an object ends: with its closing brace, or with a fault. -/
abbrev ObjectEnd := Option Fault

/-- A value as a reader meets it. -/
inductive Tree where
  /-- No value. -/
  | null
  /-- A truth value. -/
  | bool (value : Bool)
  /-- A number, or none if it is too large. -/
  | number (value : Option Number)
  /-- A number that breaks off. -/
  | badNumber (fault : Fault)
  /-- A string. -/
  | text (text : Text)
  /-- An array. -/
  | array (items : List Tree) (ending : ArrayEnd)
  /-- An object. If the colon after a key is missing, its value is broken. -/
  | object (fields : List (Text × Tree)) (ending : ObjectEnd)
  /-- No value can be found. -/
  | broken (fault : Fault)

/-- An array or object that is open around a value. What it holds already is in reverse order. -/
inductive Frame where
  /-- An array with the items before the value. -/
  | items (done : List Tree)
  /-- An object with the fields before the value, and the key of the value. -/
  | fields (done : List (Text × Tree)) (key : Text)

/-- What is expected next, within which open arrays and objects. What they hold already is in
    reverse order. -/
inductive State where
  /-- A value. -/
  | value (stack : List Frame)
  /-- The first item of an array, or its end. -/
  | firstItem (stack : List Frame)
  /-- A comma or the end of an array. -/
  | afterItem (items : List Tree) (stack : List Frame)
  /-- An item after a comma. -/
  | nextItem (items : List Tree) (stack : List Frame)
  /-- The first key of an object, or its end. -/
  | firstKey (stack : List Frame)
  /-- A colon after a key. -/
  | colon (fields : List (Text × Tree)) (key : Text) (stack : List Frame)
  /-- A comma or the end of an object. -/
  | afterField (fields : List (Text × Tree)) (stack : List Frame)
  /-- A key after a comma. -/
  | nextKey (fields : List (Text × Tree)) (stack : List Frame)
  /-- Nothing more. Whether something came nevertheless is noted. -/
  | done (tree : Tree) (trailing : Bool)

namespace State

/-- A value is complete and takes its place in the innermost array or object. -/
def deliver (tree : Tree) : List Frame → State
  | [] => done tree false
  | .items items :: stack => afterItem (tree :: items) stack
  | .fields fields key :: stack => afterField ((key, tree) :: fields) stack

/-- A value begins with a token. -/
def begin (token : Token) (stack : List Frame) : State :=
  match token with
  | .beginArray => firstItem stack
  | .beginObject => firstKey stack
  | .word .null => deliver .null stack
  | .word (.bool b) => deliver (.bool b) stack
  | .number n => deliver (.number n) stack
  | .badNumber fault => deliver (.badNumber fault) stack
  | .text text => deliver (.text text) stack
  | .broken fault => deliver (.broken fault) stack
  | .endArray | .endObject | .colon | .comma => deliver (.broken .malformed) stack

/-- The next token. After a fault the rest of the text is still taken up somehow. -/
def step (state : State) (token : Token) : State :=
  match state with
  | value stack => begin token stack
  | firstItem stack =>
    match token with
    | .endArray => deliver (.array [] .closed) stack
    | token => begin token (.items [] :: stack)
  | afterItem items stack =>
    match token with
    | .endArray => deliver (.array items.reverse .closed) stack
    | .comma => nextItem items stack
    | _ => deliver (.array items.reverse .malformed) stack
  | nextItem items stack =>
    match token with
    | .endArray => deliver (.array items.reverse .malformed) stack
    | token => begin token (.items items :: stack)
  | firstKey stack =>
    match token with
    | .endObject => deliver (.object [] none) stack
    | .text key => colon [] key stack
    | _ => deliver (.object [] (some .malformed)) stack
  | colon fields key stack =>
    match token with
    | .colon => value (.fields fields key :: stack)
    | _ => deliver (.broken .malformed) (.fields fields key :: stack)
  | afterField fields stack =>
    match token with
    | .endObject => deliver (.object fields.reverse none) stack
    | .comma => nextKey fields stack
    | _ => deliver (.object fields.reverse (some .malformed)) stack
  | nextKey fields stack =>
    match token with
    | .text key => colon fields key stack
    | _ => deliver (.object fields.reverse (some .malformed)) stack
  | done tree _ => done tree true

/-- The tree of a text that ends when `tree` is the last that was met. -/
def close (tree : Tree) : List Frame → Tree
  | [] => tree
  | .items items :: stack => close (.array (tree :: items).reverse .cut) stack
  | .fields fields key :: stack =>
    close (.object ((key, tree) :: fields).reverse (some .endOfText)) stack

/-- The tree of a text that ends in this state. -/
def finish : State → Tree
  | value stack => close (.broken .endOfText) stack
  | firstItem stack => close (.array [] .cut) stack
  | afterItem items stack => close (.array items.reverse .cut) stack
  | nextItem items stack => close (.array items.reverse .cutAfterComma) stack
  | firstKey stack => close (.object [] (some .endOfText)) stack
  | colon fields key stack => close (.broken .endOfText) (.fields fields key :: stack)
  | afterField fields stack => close (.object fields.reverse (some .endOfText)) stack
  | nextKey fields stack => close (.object fields.reverse (some .endOfText)) stack
  | done tree _ => tree

end State

/-- A text as it is met: a value, and whether anything but blanks comes after it. -/
structure Reading where
  /-- The value. -/
  tree : Tree
  /-- Whether something comes after the value. -/
  trailing : Bool

namespace Reading

/-- The reading of some tokens. -/
def ofTokens (tokens : List Token) : Reading :=
  let state := tokens.foldl State.step (.value [])
  ⟨state.finish, match state with | .done _ trailing => trailing | _ => false⟩

/-- The reading of a text. -/
def of (text : String) : Reading := ofTokens (tokens text.toList)

end Reading

namespace Tree

mutual

/-- Gets past a value without looking at what it means. -/
def skip : Tree → Except Fault Unit
  | .null | .bool _ | .number _ => .ok ()
  | .badNumber _ => .error .malformed
  | .text t => t.ending.elim (.ok ()) .error
  | .array items ending => do
    skipItems items
    ending.fault?.elim (.ok ()) .error
  | .object fields ending => do
    skipFields fields
    ending.elim (.ok ()) .error
  | .broken fault => .error fault

/-- Gets past the items of an array. -/
def skipItems : List Tree → Except Fault Unit
  | [] => .ok ()
  | item :: items => do
    skip item
    skipItems items

/-- Gets past the fields of an object. -/
def skipFields : List (Text × Tree) → Except Fault Unit
  | [] => .ok ()
  | (key, value) :: fields => do
    key.ending.elim (.ok ()) .error
    skip value
    skipFields fields

end

end Tree

end SlotDispatch.Json
