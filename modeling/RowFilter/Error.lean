import RowFilter.Text.Position
import RowFilter.Value.Type

/-!
What can go wrong, by cause: reading the text, binding names, evaluating an expression,
configuring the identifier fields, and using tables and trees in a way they do not allow. Every
cause has one wording.
-/

namespace RowFilter

open Text (Position)

/-- Why a sequence of tokens is no filter expression. -/
inductive GrammarFault where
  | unterminated (what : String)
  | mismatched (found expected : String)
  | limitOutOfRange (text : String)
  | nestedTooDeeply
deriving DecidableEq, Repr

/-- Why names, literals or calls have no meaning in their scope. -/
inductive BindFault where
  | noTable (name : String)
  | noPrimaryTable (name : String)
  | primaryTableUndefined
  | noTableInScope
  | noColumn (name table : String)
  | notBuilt (node : Nat)
  | badLiteral (text what : String)
  | unknownFunction (name : String)
  | arity (function expected : String) (received : Nat)
deriving DecidableEq, Repr

/-- Why an expression has no value. -/
inductive EvaluationFault where
  | unsupportedType (name : String)
  | cannotConvert (source : ValueType) (text : String) (target : ValueType)
  | cannotParse (text : String) (target : ValueType)
  | incomparable (left right : ValueType)
  | notBoolean (received : ValueType)
  | notApplicable (received : ValueType)
  | notStrings (left right : ValueType)
  | notIntegral (left right : ValueType)
  | cannotCombine (left right : ValueType)
  | shiftOutOfRange
  | divisionByZero
  | arity (expected : String) (received : Nat)
  | argument (position : Nat) (expected : String) (received : ValueType)
  | condition (received : ValueType)
  | negativeIndex
  | unknownInterval (text : String)
  | dateOutOfRange
  | differenceOutOfRange
  | badPattern (text : String)
deriving DecidableEq, Repr

/-- Which identifier field a table lacks. -/
inductive ConfigurationFault where
  | noField (field table : String)
  | noSignalIdField (field table : String)
deriving DecidableEq, Repr

/-- Which use of a table, a tree or a session is not allowed. -/
inductive UseFault where
  | rowTooLong (count : Nat) (table : String) (columns : Nat)
  | typeMismatch (column : String) (expected received : ValueType)
  | noColumn (name table : String)
  | noRow (row : Nat) (table : String)
  | boundElsewhere (bound table : String)
  | noDataSet
  | nothingTracked
  | noTrees (expression table : String)
  | severalTrees (expression : String) (count : Nat)
deriving DecidableEq, Repr

inductive Error where
  | lexical (text : String) (position : Position)
  | grammar (fault : GrammarFault) (position : Position)
  | bind (fault : BindFault)
  | evaluation (operation : String) (fault : EvaluationFault)
  | configuration (fault : ConfigurationFault)
  | use (fault : UseFault)
deriving DecidableEq, Repr

/-! ## Wording -/

def GrammarFault.message : GrammarFault → String
  | unterminated what => s!"unterminated {what}"
  | mismatched found expected => s!"mismatched input {found} expecting {expected}"
  | limitOutOfRange text => s!"TOP limit {text} is out of range"
  | nestedTooDeeply => "expression nested too deeply"

def BindFault.message : BindFault → String
  | noTable name => s!"failed to find table \"{name}\""
  | noPrimaryTable name => s!"failed to find primary table \"{name}\""
  | primaryTableUndefined => "no primary table is defined for expressions without a FILTER clause"
  | noTableInScope => "no table is in scope"
  | noColumn name table => s!"failed to find column \"{name}\" in table \"{table}\""
  | notBuilt node => s!"expression for syntax node {node} was not built"
  | badLiteral text what => s!"\"{text}\" is not a valid {what} literal"
  | unknownFunction name => s!"unknown function \"{name}\""
  | arity function expected received =>
    s!"\"{function}\" function expects {expected} arguments, received {received}"

def EvaluationFault.message : EvaluationFault → String
  | unsupportedType name => s!"specified type \"{name}\" is not supported"
  | cannotConvert source text target =>
    s!"cannot convert {source.name} value \"{text}\" to {target.name}"
  | cannotParse text target => s!"cannot parse \"{text}\" as {target.name}"
  | incomparable left right => s!"cannot compare {left.name} value to {right.name} value"
  | notBoolean received => s!"operand must be a Boolean, received {received.name}"
  | notApplicable received => s!"cannot apply operator to {received.name} value"
  | notStrings left right => s!"operands must be Strings, received {left.name} and {right.name}"
  | notIntegral left right => s!"operands must be integral, received {left.name} and {right.name}"
  | cannotCombine left right => s!"cannot combine {left.name} and {right.name} values"
  | shiftOutOfRange => "shift amount out of range"
  | divisionByZero => "division by zero"
  | arity expected received => s!"expected {expected} arguments, received {received}"
  | argument position expected received =>
    s!"argument {position} must be {expected}, received {received.name}"
  | condition received => s!"condition must be a Boolean, received {received.name}"
  | negativeIndex => "index and length must not be negative"
  | unknownInterval text => s!"\"{text}\" is not a valid time interval"
  | dateOutOfRange => "resulting date is out of range"
  | differenceOutOfRange => "difference does not fit in an Int32"
  | badPattern text => text

def ConfigurationFault.message : ConfigurationFault → String
  | noField field table => s!"failed to find field \"{field}\" in table \"{table}\""
  | noSignalIdField field table =>
    s!"failed to find signal ID field \"{field}\" in table \"{table}\""

def UseFault.message : UseFault → String
  | rowTooLong count table columns =>
    s!"row has {count} values but table \"{table}\" defines {columns} columns"
  | typeMismatch column expected received =>
    s!"type mismatch for column \"{column}\": expected {expected.name}, got {received.name}"
  | noColumn name table => s!"column \"{name}\" not found in table \"{table}\""
  | noRow row table => s!"row {row} out of range for table \"{table}\""
  | boundElsewhere bound table =>
    s!"expression tree is bound to table \"{bound}\", cannot select from \"{table}\""
  | noDataSet => "cannot evaluate filter expression, no data set has been defined"
  | nothingTracked =>
    "no use in evaluating filter expression, neither filtered rows nor signal IDs have been " ++
      "set for tracking"
  | noTrees expression table =>
    s!"no expression trees generated with filter expression \"{expression}\" " ++
      s!"for table \"{table}\""
  | severalTrees expression count =>
    s!"filter expression \"{expression}\" produced {count} expression trees, expected one"

namespace Error

def message : Error → String
  | lexical text p =>
    s!"Lexical error at line {p.line}, column {p.column}: unexpected \"{text}\""
  | grammar fault p =>
    s!"Syntax error at line {p.line}, column {p.column}: {fault.message}"
  | bind fault => s!"Bind error: {fault.message}"
  | evaluation operation fault => s!"Evaluation error in {operation}: {fault.message}"
  | configuration fault => s!"Configuration error: {fault.message}"
  | use fault => s!"Invalid operation: {fault.message}"

/-- Errors found before any row is looked at. -/
def isParseError : Error → Bool
  | lexical .. | grammar .. | bind _ => true
  | _ => false

end Error

end RowFilter
