import DataCommand.Condition.Comparison

/-!
What can go wrong while a command is built or rendered. An error names its cause; the wording is in
one place for each kind of cause.
-/

namespace DataCommand

/-- What is wrong with the name of an index. -/
inductive IndexFault where
  | empty
  | reserved
  | badStart
  | uppercase
  | forbidden
  deriving DecidableEq, Repr

def IndexFault.message : IndexFault → String
  | .empty => "is empty"
  | .reserved => "is reserved"
  | .badStart => "starts with '-', '_' or '+'"
  | .uppercase => "contains uppercase characters"
  | .forbidden => "contains a forbidden character"

/-- What is wrong with the input of a call. -/
inductive InputFault where
  | badTarget (text : String)
  | badIndex (name : String) (fault : IndexFault)
  | unknownBackend (name : String)
  /-- An operator for lists or ranges came with a single operand. -/
  | wrongShape (comparison : Comparison) (column : String)
  | noOperand (comparison : Comparison) (column : String)
  | emptyList (comparison : Comparison) (column : String)
  | blankText
  /-- The list of keys is no longer where it was put. -/
  | displaced
  | suppliedTwice (column : String)
  | nothingAssigned
  | nothingSupplied
  | outOfRange (bound : Nat)
  /-- A reason that the caller gives. -/
  | other (reason : String)
  deriving DecidableEq, Repr

def InputFault.message : InputFault → String
  | .badTarget text => "invalid target: '" ++ text ++ "'"
  | .badIndex name fault => "index name '" ++ name ++ "' " ++ fault.message
  | .unknownBackend name => "unknown dialect: " ++ name
  | .wrongShape comparison column =>
    comparison.symbol ++ " on '" ++ column ++ "' needs a dedicated predicate"
  | .noOperand comparison column =>
    comparison.symbol ++ " on '" ++ column ++ "' is missing its value"
  | .emptyList comparison column =>
    comparison.symbol ++ " on '" ++ column ++ "' needs at least one value"
  | .blankText => "raw condition text is empty"
  | .displaced => "clause list displaced from the filter sequence"
  | .suppliedTwice column => "column '" ++ column ++ "' inserted twice"
  | .nothingAssigned => "UPDATE requires at least one assignment"
  | .nothingSupplied => "INSERT requires at least one column"
  | .outOfRange bound => "page bound " ++ toString bound ++ " out of range"
  | .other reason => reason

/-- An error of a call or of a rendering. -/
inductive CommandError where
  /-- A part came after one that it has to precede. -/
  | outOfOrder (part after : String)
  /-- A family of commands has no counterpart of a construct. -/
  | unsupported (family construct : String)
  /-- A mutation has no condition, and no leave to have none. -/
  | unfiltered (operation : String)
  | invalid (fault : InputFault)
  deriving DecidableEq, Repr

def CommandError.message : CommandError → String
  | .outOfOrder part after => part ++ " must be added before " ++ after
  | .unsupported family construct => family ++ " does not support " ++ construct
  | .unfiltered operation =>
    "refusing " ++ operation ++ " without a filter; pass allow_empty_filter to override"
  | .invalid fault => "Validation error: " ++ fault.message

end DataCommand
