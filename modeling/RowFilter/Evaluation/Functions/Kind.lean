import RowFilter.Evaluation.Call

/-!
Functions about the kind of a value: conversion to a named type, and tests of what a value is or
can be read as.
-/

namespace RowFilter

namespace Value

def isNumeric : Value → Bool
  | string s => (Double.read? (Text.trim s.toList)).isSome
  | v => v.valueType.isNumeric

def isInteger : Value → Bool
  | string s => (Integer.readSigned? 128 (Text.trim s.toList)).isSome
  | v => v.valueType.isInteger

def isDate : Value → Bool
  | dateTime _ => true
  | string s => (Calendar.DateTime.read? s.toList).isSome
  | _ => false

def isGuid : Value → Bool
  | guid _ => true
  | string s => (Guid.read? s.toList).isSome
  | _ => false

end Value

/-- The type that a name stands for. -/
def ValueType.named (name : String) : Except Error ValueType :=
  match ValueType.ofName? name with
  | some t => .ok t
  | none => .error (.evaluation Function.convert.name (.unsupportedType name))

/-- Conversion of the first argument to the type that the second one names. -/
def Call.conversion (c : Call) : Except Error Value := do
  let target ← ValueType.named (← c.name 1 "a type name")
  match (c.argument 0).convert target with
  | .error (.evaluation _ fault) => throw (c.error fault)
  | result => result

end RowFilter
