import Calculator.Value

/-!
# Bindings (specification 4.3)

The variables of a session: an insertion-ordered map from names to values. Setting a name again
keeps its place. This is the `Environment`, with `get`, `set`, `exists` (`contains`), `len`
(`size`), `is_empty`, and `iter` from the newest variable on (`newestFirst`).
-/

namespace Calculator

/-- A name with a value. -/
structure Variable where
  name : String
  value : Value
  /-- Only the value of an initialized variable is found. -/
  initialized : Bool := true
deriving DecidableEq, Inhabited

/-- Variables in the order of their first definition. -/
structure Bindings where
  entries : List Variable := []
deriving DecidableEq, Inhabited

namespace Bindings

def empty : Bindings := {}

/-- The value of the first initialized variable of a name. -/
def lookupIn (name : String) : List Variable → Option Value
  | [] => none
  | entry :: rest =>
    if entry.name = name ∧ entry.initialized then some entry.value else lookupIn name rest

def lookup? (bindings : Bindings) (name : String) : Option Value := lookupIn name bindings.entries

/-- The value of a name; `null` where there is none. -/
def get (bindings : Bindings) (name : String) : Value := (bindings.lookup? name).getD .null

def contains (bindings : Bindings) (name : String) : Bool := (bindings.lookup? name).isSome

/-- Overwrites the first entry for a name, or adds one at the end. -/
def setIn (name : String) (value : Value) : List Variable → List Variable
  | [] => [{ name, value }]
  | entry :: rest =>
    if entry.name = name then { entry with value, initialized := true } :: rest
    else entry :: setIn name value rest

def set (bindings : Bindings) (name : String) (value : Value) : Bindings :=
  ⟨setIn name value bindings.entries⟩

def size (bindings : Bindings) : Nat := bindings.entries.length

def isEmpty (bindings : Bindings) : Bool := bindings.entries.isEmpty

@[simp]
theorem lookup?_empty (name : String) : empty.lookup? name = none := rfl

theorem lookupIn_setIn (name key : String) (value : Value) (entries : List Variable) :
    lookupIn key (setIn name value entries)
      = if key = name then some value else lookupIn key entries := by
  induction entries with
  | nil =>
    by_cases h : key = name
    · simp [setIn, lookupIn, h]
    · simp [setIn, lookupIn, h, Ne.symm h]
  | cons entry rest ih =>
    rw [setIn]
    by_cases hn : entry.name = name
    · rw [if_pos hn, lookupIn, lookupIn, hn]
      by_cases h : key = name
      · simp [h]
      · simp [h, Ne.symm h]
    · rw [if_neg hn, lookupIn, lookupIn, ih]
      by_cases h : key = name
      · subst h
        simp [hn]
      · rw [if_neg h, if_neg h]

/-- A name set has the value it was set to, and no other name changes. -/
@[simp]
theorem lookup?_set (bindings : Bindings) (name key : String) (value : Value) :
    (bindings.set name value).lookup? key
      = if key = name then some value else bindings.lookup? key :=
  lookupIn_setIn name key value bindings.entries

/-- The variables, newest definition first. -/
def newestFirst (bindings : Bindings) : List (String × Value) :=
  bindings.entries.reverse.map fun entry => (entry.name, entry.value)

end Bindings

end Calculator
