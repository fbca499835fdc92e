import Polyview.Template.Syntax
import Polyview.Text.Quoted

/-!
# Why a template cannot be filled in
-/

namespace Polyview.Template

/-- What went wrong. -/
inductive Cause where
  /-- A value that the data does not have, as it was written, if it was written at all. -/
  | missingValue (written : Option String)
  | unknownTemplate (name : String)
  | unknownHelper (name : String)
  | unknownInclusion (name : String)
  | selfInclusion
  /-- A helper lacks its argument at a position, from zero. -/
  | missingArgument (helper : String) (position : Nat)
  | missingOperand (helper operand : String)
  | unfitOperand (helper operand wanted : String)
  /-- A list was asked for a member by a name. -/
  | nameForList (name : String)
  | unknownLevel (name : String)
  deriving DecidableEq, Repr

/-- What went wrong, where, and in which template. -/
structure Failure where
  cause : Cause
  /-- The place of the innermost tag that has one. -/
  place : Option Place
  /-- The innermost template that has a name. -/
  template : Option String
  deriving DecidableEq, Repr

def Cause.failure (cause : Cause) : Failure := ⟨cause, none, none⟩

def Failure.inside (place : Option Place) (failure : Failure) : Failure :=
  { failure with place := failure.place <|> place }

def Failure.within (template : Option String) (failure : Failure) : Failure :=
  { failure with template := failure.template <|> template }

def Cause.message : Cause → String
  | .missingValue none => "Failed to access variable in strict mode None"
  | .missingValue (some written) =>
      "Failed to access variable in strict mode Some(" ++
        String.ofList (Text.quoted written.toList) ++ ")"
  | .unknownTemplate name => "Template not found " ++ name
  | .unknownHelper name => "Helper not found " ++ name
  | .unknownInclusion name => "Partial not found " ++ name
  | .selfInclusion => "Cannot include self in partial"
  | .missingArgument helper position =>
      "Helper/Decorator " ++ helper ++ " param at index " ++ Nat.repr position ++
        " required but not found"
  | .missingOperand helper operand =>
      "Helper/Decorator " ++ helper ++ " param with name " ++ operand ++ " required but not found"
  | .unfitOperand helper operand wanted =>
      "Helper/Decorator " ++ helper ++ " param with name " ++ operand ++ " type mismatch for " ++
        wanted
  | .nameForList name => "Cannot access array/vector with string index, " ++ name
  | .unknownLevel name => "Invalid logging level: " ++ name

/-- The wording of a failure, with its template and its place. -/
def Failure.message (failure : Failure) : String :=
  match failure.place with
  | none => failure.cause.message
  | some place =>
      "Error rendering \"" ++ failure.template.getD "Unnamed template" ++ "\" line " ++
        Nat.repr place.line ++ ", col " ++ Nat.repr place.column ++ ": " ++ failure.cause.message

end Polyview.Template
