/-
This file holds the ways to make a comparison. Equality with null is a test for
null, since the comparison itself would never hold.

A comparison is made without its column, which is set before it in a condition.
Whether an operand is null is seen on the operand alone, so a null that comes out
of a query is compared like any other value.
-/

import SqlTree.Tree.Basic

namespace SqlTree.Comparison

/-- Equality, or the test for null. -/
def equalTo (operand : Operand) : Comparison :=
  if operand.isNull then .nullity false else .relation .equal operand none

/-- Inequality, or the test for anything but null. -/
def unequalTo (operand : Operand) : Comparison :=
  if operand.isNull then .nullity true else .relation .unequal operand none

def lessThan (operand : Operand) : Comparison :=
  .relation .less operand none

def atMost (operand : Operand) : Comparison :=
  .relation .lessOrEqual operand none

def greaterThan (operand : Operand) : Comparison :=
  .relation .greater operand none

def atLeast (operand : Operand) : Comparison :=
  .relation .greaterOrEqual operand none

/-- A pattern that the text has to match. -/
def matching (pattern : Operand) : Comparison :=
  .like pattern false

/-- A pattern that the text has to match in upper or lower case. -/
def matchingAnyCase (pattern : Operand) : Comparison :=
  .like pattern true

/-- Membership in a list, an array or a query. -/
def memberOf (operand : Operand) : Comparison :=
  .membership operand false

/-- The negation of a membership. -/
def notMemberOf (operand : Operand) : Comparison :=
  .membership operand true

/-- Asks for some or every element of an array or a query. Only a relation
between two scalars can ask that. -/
def quantified (comparison : Comparison) (quantifier : Quantifier) : Comparison :=
  match comparison with
  | .relation symbol operand _ => .relation symbol operand (some quantifier)
  | other => other

end SqlTree.Comparison
