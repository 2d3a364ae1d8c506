import GoldFront.Text.Quoted
import GoldFront.Value.Dictionary

/-!
A builtin is called through its contract: a call that the contract rejects never reaches the
builtin, and a result that the contract does not admit never reaches the caller. A registry holds
builtins in the order they were given in, and beside them an index of the place that each name has.
-/

namespace GoldFront

/-- What is expected of one value. -/
structure Expectation where
  /-- The type that a value has, unless it is null. -/
  type : ValueType
  nullable : Bool
deriving DecidableEq, Repr

/-- What a builtin may be called with, and what it may return. -/
structure Contract where
  /-- What is expected of each argument that has a place of its own. -/
  params : List Expectation
  /-- What is expected of each argument after those, if there may be any. -/
  rest : Option Expectation
  result : Expectation
deriving DecidableEq, Repr

/-- Why a call is rejected. -/
inductive Rejection where
  /-- A wrong number of arguments; with a rest parameter, the number wanted is the least one. -/
  | wrongCount (got want : Nat) (atLeast : Bool)
  | nullArgument (place : Nat)
  | wrongType (expected actual : ValueType)
deriving DecidableEq, Repr

namespace Expectation

def admits (expectation : Expectation) (value : Value) : Bool :=
  if value.isNull then expectation.nullable else expectation.type.admits value.type

/-- An expectation in a signature. -/
def text (expectation : Expectation) : String :=
  expectation.type.name ++ if expectation.nullable then "?" else ""

/-- What is wrong with the argument at a place, counted from one. -/
def rejects? (expectation : Expectation) (place : Nat) (argument : Value) : Option Rejection :=
  if expectation.admits argument then none
  else if argument.isNull then some (.nullArgument place)
  else some (.wrongType expectation.type argument.type)

end Expectation

/-- What the caller of a builtin is told. -/
def Rejection.message (builtin : String) : Rejection → String
  | wrongCount got want atLeast =>
    "wrong number of arguments. got=" ++ toString got ++ ", want=" ++
      (if atLeast then "at least " else "") ++ toString want
  | nullArgument place =>
    "argument " ++ toString place ++ " to `" ++ builtin ++ "` must not be null"
  | wrongType expected actual =>
    "argument to `" ++ builtin ++ "` must be " ++ expected.name ++ ", got " ++ actual.name

namespace Contract

/-- The number of arguments with a place of their own. -/
def arity (contract : Contract) : Nat := contract.params.length

/-- Whether there may be further arguments. -/
def isVariadic (contract : Contract) : Bool := contract.rest.isSome

/-- What is expected of the argument at an index, if there may be one. -/
def expected? (contract : Contract) (index : Nat) : Option Expectation :=
  match contract.params[index]? with
  | some expectation => some expectation
  | none => contract.rest

/-- Whether a call may have this many arguments. -/
def admitsCount (contract : Contract) (count : Nat) : Bool :=
  if contract.isVariadic then contract.arity ≤ count else count = contract.arity

/-- What is wrong with the first argument that is not as expected, from an index on. -/
def firstRejection? (contract : Contract) (index : Nat) : List Value → Option Rejection
  | [] => none
  | argument :: arguments =>
    match (contract.expected? index).bind (·.rejects? (index + 1) argument) with
    | some rejection => some rejection
    | none => contract.firstRejection? (index + 1) arguments

/-- Why a call with these arguments is rejected, if it is. -/
def rejects? (contract : Contract) (arguments : List Value) : Option Rejection :=
  if contract.admitsCount arguments.length then contract.firstRejection? 0 arguments
  else some (.wrongCount arguments.length contract.arity contract.isVariadic)

/-- Whether a value may be returned: any error may, null where the contract allows for it or returns
    nothing else, and any other value of the right type. -/
def admitsResult (contract : Contract) (value : Value) : Bool :=
  match value with
  | .error _ => true
  | .null => contract.result.nullable || contract.result.type = .null
  | other => contract.result.type.admits other.type

end Contract

/-- What a builtin answers: a value, and the text that it prints. -/
structure Reply where
  value : Value
  printed : String
deriving Repr

/-- A builtin: its name, its contract and what it does. -/
structure Entry where
  name : String
  /-- What it may be called with, and what it may return. -/
  contract : Contract
  /-- What it does with arguments that the contract admits. -/
  run : List Value → Reply

namespace Entry

/-- What the caller is told about a result that the contract does not admit. -/
def brokenResult (entry : Entry) (actual : ValueType) : String :=
  "builtin `" ++ entry.name ++ "` returned " ++ actual.name ++ ", declared " ++
    entry.contract.result.type.name

def call (entry : Entry) (arguments : List Value) : Reply :=
  match entry.contract.rejects? arguments with
  | some rejection => ⟨.error (rejection.message entry.name), ""⟩
  | none =>
    let reply := entry.run arguments
    if entry.contract.admitsResult reply.value then reply
    else ⟨.error (entry.brokenResult reply.value.type), reply.printed⟩

end Entry

namespace Contract

/-- The parameters in a signature: one after the other, and three points after the rest
    parameter. -/
def paramTexts (contract : Contract) : List String :=
  contract.params.map Expectation.text ++
    (contract.rest.map fun rest => rest.text ++ "...").toList

private def flag (truth : Bool) : String := if truth then "true" else "false"

/-- An expectation with its parts named. -/
def describeExpectation (expectation : Expectation) : String :=
  "ArgSpec \x7b ty: " ++ expectation.type.label ++ ", nullable: " ++ flag expectation.nullable ++
    " \x7d"

/-- A contract with its parts named. -/
def describe (contract : Contract) : String :=
  "Attribute \x7b return_type: " ++ contract.result.type.label ++
    ", return_nullable: " ++ flag contract.result.nullable ++
    ", args: [" ++ ", ".intercalate (contract.params.map describeExpectation) ++
    "], rest: " ++
      (match contract.rest with
        | some rest => "Some(" ++ describeExpectation rest ++ ")"
        | none => "None") ++
    " \x7d"

end Contract

namespace Entry

/-- The name, the parameters and the result of a builtin. -/
def signature (entry : Entry) : String :=
  entry.name ++ "(" ++ ", ".intercalate entry.contract.paramTexts ++ ") -> " ++
    entry.contract.result.text

/-- The name and the contract of a builtin with all parts named. -/
def describe (entry : Entry) : String :=
  "BuiltinEntry \x7b name: " ++ Text.quoted entry.name ++ ", contract: " ++
    entry.contract.describe ++ ", .. \x7d"

end Entry

/-- A name that is registered already. -/
structure Registry.Duplicate where
  name : String
deriving DecidableEq, Repr

/-- What is said about a name that is registered already. -/
def Registry.Duplicate.message (duplicate : Duplicate) : String :=
  "builtin `" ++ duplicate.name ++ "` registered twice"

/-- The place of each name, of the last one first. -/
abbrev Places := List (String × Nat)

namespace Places

/-- Gives builtins their places, from a place on, beside those that others have. -/
def register (places : Places) (place : Nat) : List Entry → Except Registry.Duplicate Places
  | [] => .ok places
  | entry :: entries =>
    match places.lookup entry.name with
    | some _ => .error ⟨entry.name⟩
    | none => register ((entry.name, place) :: places) (place + 1) entries

/-- Each name has the place of the builtin of that name, and no other name has any. -/
def Indexes (places : Places) (entries : List Entry) : Prop :=
  ∀ name place, places.lookup name = some place ↔ entries[place]?.map Entry.name = some name

variable {places : Places} {entries : List Entry}

theorem indexes_nil : Indexes [] [] := by
  simp [Indexes]

/-- A builtin of a new name gets the place behind the others. -/
theorem Indexes.concat (indexes : places.Indexes entries) {entry : Entry}
    (new : places.lookup entry.name = none) :
    Indexes ((entry.name, entries.length) :: places) (entries ++ [entry]) := by
  intro name place
  have free : ∀ other, places.lookup entry.name ≠ some other := by simp [new]
  have inside : places.lookup name = some place → place ≠ entries.length := by
    rintro found rfl
    simpa using (indexes name entries.length).1 found
  have stands : (entries ++ [entry])[place]? =
      if place = entries.length then some entry else entries[place]? := by
    by_cases last : place = entries.length
    · simp [last]
    · rw [if_neg last, List.getElem?_append]
      split
      · rfl
      · rw [List.getElem?_eq_none (by simp; omega), List.getElem?_eq_none (by omega)]
  rw [List.lookup_cons, stands]
  by_cases same : name = entry.name
  · subst same
    by_cases last : place = entries.length
    · simp [last]
    · have nowhere := mt (indexes entry.name place).2 (free place)
      simp [last, nowhere, Ne.symm last]
  · by_cases last : place = entries.length
    · have other := mt inside (not_not_intro last)
      simp [beq_false_of_ne same, last, Ne.symm same, last ▸ other]
    · rw [beq_false_of_ne same, if_neg last]
      exact indexes name place

/-- What has been registered is indexed, beside what was so before. -/
theorem Indexes.register (indexes : places.Indexes entries) {more : List Entry} {all : Places}
    (registered : places.register entries.length more = .ok all) : all.Indexes (entries ++ more) := by
  induction more generalizing places entries with
  | nil =>
    cases registered
    rwa [List.append_nil]
  | cons entry more ih =>
    unfold Places.register at registered
    split at registered
    · cases registered
    · next new =>
      have size : entries.length + 1 = (entries ++ [entry]).length := by simp
      rw [size] at registered
      have later := ih (indexes.concat new) registered
      rwa [List.append_assoc] at later

end Places

/-- Builtins of different names, and the index of their places. -/
structure Registry where
  entries : List Entry
  places : Places
  /-- The places are those that the builtins were given. -/
  registered : Places.register [] 0 entries = .ok places

namespace Registry

def ofList (entries : List Entry) : Except Duplicate Registry :=
  match registered : Places.register [] 0 entries with
  | .error duplicate => .error duplicate
  | .ok places => .ok ⟨entries, places, registered⟩

theorem indexes (registry : Registry) : registry.places.Indexes registry.entries :=
  Places.indexes_nil.register registry.registered

theorem lt_of_lookup {registry : Registry} {name : String} {place : Nat}
    (found : registry.places.lookup name = some place) : place < registry.entries.length := by
  have named := (registry.indexes name place).1 found
  refine Nat.lt_of_not_le fun past => ?_
  simp [List.getElem?_eq_none past] at named

def names (registry : Registry) : List String := registry.entries.map Entry.name

def size (registry : Registry) : Nat := registry.entries.length

def isEmpty (registry : Registry) : Bool := registry.entries.isEmpty

/-- The builtin of a name: the one that stands at the place of the name. -/
def find? (registry : Registry) (name : String) : Option Entry :=
  match found : registry.places.lookup name with
  | some place => some (registry.entries.get ⟨place, lt_of_lookup found⟩)
  | none => none

/-- The builtin of a name, as a value. -/
def get? (registry : Registry) (name : String) : Option Value :=
  (registry.find? name).map fun entry => .builtin entry.name

/-- Calls the builtin of a name. -/
def call? (registry : Registry) (name : String) (arguments : List Value) : Option Reply :=
  (registry.find? name).map (·.call arguments)

/-- Calls a value that is a builtin. -/
def invoke? (registry : Registry) (callee : Value) (arguments : List Value) : Option Reply :=
  match callee with
  | .builtin name => registry.call? name arguments
  | _ => none

end Registry

namespace Standard

/-- Any value but null. -/
def anything : Expectation := ⟨.any, false⟩

/-- Any value. -/
def anythingOrNull : Expectation := ⟨.any, true⟩

/-- An array. -/
def anArray : Expectation := ⟨.array, false⟩

/-- The first argument. -/
def subject (arguments : List Value) : Value := arguments.headD .null

/-- The elements of the first argument. -/
def subjectElements (arguments : List Value) : List Value := (subject arguments).elements?.getD []

/-- The number of elements of an array, or of characters of a string. -/
def length (arguments : List Value) : Value :=
  match subject arguments with
  | .array elements => .integer (Int64.ofNat elements.length)
  | .string text => .integer (Int64.ofNat text.length)
  | other => .error ("argument to `len` not supported, got " ++ other.type.name)

/-- The text of each argument, on a line of its own. -/
def lines (arguments : List Value) : String :=
  String.join (arguments.map fun argument => argument.inspect ++ "\n")

def first (arguments : List Value) : Value := (subjectElements arguments).head?.getD .null

def last (arguments : List Value) : Value := (subjectElements arguments).getLast?.getD .null

/-- An array without its first element; null if it has none. -/
def rest (arguments : List Value) : Value :=
  match subjectElements arguments with
  | _ :: tail => .array tail
  | [] => .null

/-- An array with one more element at its end. -/
def push (arguments : List Value) : Value :=
  .array (subjectElements arguments ++ [arguments[1]?.getD .null])

/-- The name of a value's type. -/
def typeName (arguments : List Value) : Value := .string (subject arguments).type.name

def entries : List Entry := [
  ⟨"len", ⟨[anything], none, ⟨.integer, false⟩⟩, fun arguments => ⟨length arguments, ""⟩⟩,
  ⟨"print", ⟨[], some anythingOrNull, ⟨.null, true⟩⟩, fun arguments => ⟨.null, lines arguments⟩⟩,
  ⟨"first", ⟨[anArray], none, ⟨.any, true⟩⟩, fun arguments => ⟨first arguments, ""⟩⟩,
  ⟨"last", ⟨[anArray], none, ⟨.any, true⟩⟩, fun arguments => ⟨last arguments, ""⟩⟩,
  ⟨"push", ⟨[anArray, anything], none, ⟨.array, false⟩⟩, fun arguments => ⟨push arguments, ""⟩⟩,
  ⟨"rest", ⟨[anArray], none, ⟨.array, true⟩⟩, fun arguments => ⟨rest arguments, ""⟩⟩,
  ⟨"type", ⟨[anythingOrNull], none, ⟨.string, false⟩⟩, fun arguments => ⟨typeName arguments, ""⟩⟩]

/-- The registry of the standard builtins. -/
def registry : Registry := ⟨entries, _, rfl⟩

end Standard

end GoldFront
