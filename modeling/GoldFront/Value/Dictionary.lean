import GoldFront.Binary64.Basic
import GoldFront.Token.Cursor

/-!
The values of the language at run time, and what a program can ask of one. A dictionary is built by
inserting pairs one after the other. An entry stands at the place of its key in the order of keys,
and a later pair with the same key takes the place of an earlier one.
-/

namespace GoldFront

/-- The type of a value, or what is expected of one. -/
inductive ValueType where
  | integer | float | string | boolean | null
  | array | dictionary | function | builtin | error | any
deriving DecidableEq, Repr

namespace ValueType

def all : List ValueType :=
  [integer, float, string, boolean, null, array, dictionary, function, builtin, error, any]

/-- The name of a type in messages and signatures. -/
def name : ValueType → String
  | integer => "INTEGER"
  | float => "FLOAT"
  | string => "STRING"
  | boolean => "BOOLEAN"
  | null => "NULL"
  | array => "ARRAY"
  | dictionary => "DICTIONARY"
  | function => "FUNCTION"
  | builtin => "BUILTIN"
  | error => "ERROR"
  | any => "ANY"

/-- The name of a type in a description of a contract's parts. -/
def label : ValueType → String
  | integer => "Integer"
  | float => "Float"
  | string => "String"
  | boolean => "Boolean"
  | null => "Null"
  | array => "Array"
  | dictionary => "Dictionary"
  | function => "Function"
  | builtin => "Builtin"
  | error => "Error"
  | any => "Any"

/-- The type that has a name. -/
def ofName? (name : String) : Option ValueType := all.find? fun type => type.name == name

/-- Whether a value of type `actual` is one of the expected type. -/
def admits (expected actual : ValueType) : Bool := expected = any || expected = actual

end ValueType

/-- What a name may hold, and whether it may be bound anew. -/
structure Binding where
  type : ValueType
  mutable : Bool
deriving DecidableEq, Repr

/-- The binding that a type keyword declares. -/
def Keyword.binding? : Keyword → Option Binding
  | mint => some ⟨.integer, true⟩
  | lint => some ⟨.integer, false⟩
  | mstr => some ⟨.string, true⟩
  | lstr => some ⟨.string, false⟩
  | marr => some ⟨.array, true⟩
  | larr => some ⟨.array, false⟩
  | mdct => some ⟨.dictionary, true⟩
  | ldct => some ⟨.dictionary, false⟩
  | any => some ⟨.any, true⟩
  | _ => none

namespace Kind

/-- The binding that a token of this kind declares. -/
def binding? : Kind → Option Binding
  | keyword k => k.binding?
  | _ => none

/-- Whether a token of this kind declares a binding. -/
def isTypeKeyword (kind : Kind) : Bool := kind.binding?.isSome

end Kind

/-- The keyword that a binding is shown by; a binding that no keyword declares is shown as `any`. -/
def Binding.keyword (binding : Binding) : String :=
  match binding.type, binding.mutable with
  | .integer, true => "mint"
  | .integer, false => "lint"
  | .string, true => "mstr"
  | .string, false => "lstr"
  | .array, true => "marr"
  | .array, false => "larr"
  | .dictionary, true => "mdct"
  | .dictionary, false => "ldct"
  | _, _ => "any"

/-- The keyword of a declared binding declares it. -/
theorem Keyword.binding?_keyword (k : Keyword) (binding : Binding)
    (declared : k.binding? = some binding) :
    (Kind.ofWord binding.keyword).binding? = some binding := by
  cases k <;> simp only [Keyword.binding?, Option.some.injEq, reduceCtorEq] at declared <;>
    subst declared <;> rfl

/-- What a dictionary entry is found by. -/
inductive Key where
  | integer (number : Int64)
  | boolean (truth : Bool)
  | string (text : String)
deriving DecidableEq, Repr

def truthText : Bool → List Char
  | true => ['t', 'r', 'u', 'e']
  | false => ['f', 'a', 'l', 's', 'e']

namespace Key

/-- Whether a key comes before another. -/
def before : Key → Key → Bool
  | integer a, integer b => a.toInt < b.toInt
  | integer _, _ => true
  | boolean _, integer _ => false
  | boolean a, boolean b => !a && b
  | boolean _, string _ => true
  | string a, string b => a < b
  | string _, _ => false

/-- The text of a key; a string stands between quotes, as it is. -/
def text : Key → List Char
  | integer number => number.toInt.repr.toList
  | boolean truth => truthText truth
  | string text => '"' :: (text.toList ++ ['"'])

end Key

structure Parameter where
  name : String
  binding : Binding
deriving DecidableEq, Repr

/-- A value of the language. A dictionary holds its entries in the order of their keys, a function
    its body as source text, and a builtin the name that it is registered by. -/
inductive Value where
  | integer (number : Int64)
  | float (number : Binary64)
  | string (text : String)
  | boolean (truth : Bool)
  | null
  | array (elements : List Value)
  | dictionary (entries : List (Key × Value))
  | function (parameters : List Parameter) (body : String)
  | builtin (name : String)
  | error (message : String)
deriving Repr

/-- The value that a key was made from. -/
def Key.toValue : Key → Value
  | integer number => .integer number
  | boolean truth => .boolean truth
  | string text => .string text

namespace Value

instance : Inhabited Value := ⟨.null⟩

def type : Value → ValueType
  | integer _ => .integer
  | float _ => .float
  | string _ => .string
  | boolean _ => .boolean
  | null => .null
  | array _ => .array
  | dictionary _ => .dictionary
  | function _ _ => .function
  | builtin _ => .builtin
  | error _ => .error

/-- The key that a value makes in a dictionary. -/
def key? : Value → Option Key
  | integer number => some (.integer number)
  | boolean truth => some (.boolean truth)
  | string text => some (.string text)
  | _ => none

def elements? : Value → Option (List Value)
  | array elements => some elements
  | _ => none

def isNull : Value → Bool
  | null => true
  | _ => false

def isError : Value → Bool
  | error _ => true
  | _ => false

/-- Whether a condition with this value holds: null, false, zeros, errors and all that is empty do
    not, everything else does. -/
def isTruthy : Value → Bool
  | integer number => number != 0
  | float number => !number.isZero
  | string text => text != ""
  | boolean truth => truth
  | null => false
  | array elements => !elements.isEmpty
  | dictionary entries => !entries.isEmpty
  | function _ _ => true
  | builtin _ => true
  | error _ => false

mutual

/-- Equality as a program sees it. -/
def equal : Value → Value → Bool
  | integer a, integer b => a == b
  | float a, float b => a.equal b
  | integer a, float b => b.equalsInt64 a
  | float a, integer b => a.equalsInt64 b
  | string a, string b => a == b
  | boolean a, boolean b => a == b
  | null, null => true
  | array as, array bs => equalElements as bs
  | dictionary as, dictionary bs => equalEntries as bs
  | function ps body, function qs other => ps == qs && body == other
  | builtin a, builtin b => a == b
  | error a, error b => a == b
  | _, _ => false

/-- Equality of arrays: as many elements, and equal ones at each place. -/
def equalElements : List Value → List Value → Bool
  | [], [] => true
  | a :: as, b :: bs => a.equal b && equalElements as bs
  | _, _ => false

/-- Equality of dictionaries: the same keys, and equal values for each of them. -/
def equalEntries : List (Key × Value) → List (Key × Value) → Bool
  | [], [] => true
  | (k, a) :: as, (l, b) :: bs => k == l && a.equal b && equalEntries as bs
  | _, _ => false

end

instance : BEq Value := ⟨equal⟩

end Value

/-- Whether a value may be bound: null only where nothing is asked of the type, and any other value
    where its type is the one asked for. -/
def Binding.admits (binding : Binding) (value : Value) : Bool :=
  if value.isNull then binding.type = .any else binding.type.admits value.type

/-- The entries of a dictionary, in the order of their keys. -/
abbrev Entries := List (Key × Value)

namespace Entries

/-- Puts an entry at its place. -/
def insert (key : Key) (value : Value) : Entries → Entries
  | [] => [(key, value)]
  | (k, v) :: rest =>
    if key = k then (key, value) :: rest
    else if key.before k then (key, value) :: (k, v) :: rest
    else (k, v) :: insert key value rest

/-- The value of a key. -/
def get? (entries : Entries) (key : Key) : Option Value := entries.lookup key

/-- The entries that the pairs make on top of others, or the type of the first key that makes
    none. -/
def insertPairs : Entries → List (Value × Value) → Except ValueType Entries
  | entries, [] => .ok entries
  | entries, (key, value) :: pairs =>
    match key.key? with
    | some k => insertPairs (entries.insert k value) pairs
    | none => .error key.type

end Entries

/-- The dictionary of a list of pairs, or the error about the first key that cannot be one. -/
def Value.ofPairs (pairs : List (Value × Value)) : Value :=
  match Entries.insertPairs [] pairs with
  | .ok entries => .dictionary entries
  | .error type => .error ("unusable as dictionary key: " ++ type.name)

/-- Texts with a comma and a space between each two. -/
def commaSeparated (texts : List (List Char)) : List Char := List.intercalate [',', ' '] texts

/-- A parameter as it is declared. -/
def Parameter.text (parameter : Parameter) : List Char :=
  parameter.binding.keyword.toList ++ ' ' :: parameter.name.toList

namespace Value

mutual

def text : Value → List Char
  | integer number => number.toInt.repr.toList
  | float number => number.text
  | string text => text.toList
  | boolean truth => truthText truth
  | null => ['n', 'u', 'l', 'l']
  | array elements => '[' :: (commaSeparated (elementTexts elements) ++ [']'])
  | dictionary entries => '\x7b' :: (commaSeparated (entryTexts entries) ++ ['\x7d'])
  | function parameters body =>
    ['f', 'n', '('] ++ commaSeparated (parameters.map Parameter.text) ++
      [')', ' ', '\x7b', '\n'] ++ body.toList ++ ['\n', '\x7d']
  | builtin name => "builtin function ".toList ++ name.toList
  | error message => "ERROR: ".toList ++ message.toList

def elementTexts : List Value → List (List Char)
  | [] => []
  | element :: rest => element.text :: elementTexts rest

/-- The texts of the entries of a dictionary: key, colon and value. -/
def entryTexts : List (Key × Value) → List (List Char)
  | [] => []
  | (key, value) :: rest => (key.text ++ ':' :: ' ' :: value.text) :: entryTexts rest

end

def inspect (value : Value) : String := String.ofList value.text

end Value

end GoldFront
