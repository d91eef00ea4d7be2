/-
This file decides when two trees are the same. Every part counts, recorded
misuse included; floating-point scalars are compared by value.

There is one function for each type of the tree, and one for lists of it where the
tree has lists. Maps are compared with the order of their columns, since that is
the order in which they are written. To be the same is not to be written alike: the
zeros of both signs are one number with two texts, and a group of one condition has
the text of the condition.
-/

import SqlTree.Tree.Basic

namespace SqlTree

/-- Whether two scalars with their casts are the same. -/
def Literal.equal (left right : Literal) : Bool :=
  left.value.equal right.value && left.cast == right.cast

mutual

/-- Equality of operands and all that is in them. -/
def Operand.equal : Operand → Operand → Bool
  | .value left, .value right => left.equal right
  | .list left, .list right => equalOperands left right
  | .node left, .node right => left.equal right
  | _, _ => false

def equalOperands : List Operand → List Operand → Bool
  | [], [] => true
  | left :: leftRest, right :: rightRest => left.equal right && equalOperands leftRest rightRest
  | _, _ => false

def equalOptional : Option Operand → Option Operand → Bool
  | none, none => true
  | some left, some right => left.equal right
  | _, _ => false

def equalOptionalList : Option (List Operand) → Option (List Operand) → Bool
  | none, none => true
  | some left, some right => equalOperands left right
  | _, _ => false

/-- Whether two nodes are of one kind and the same. -/
def Node.equal : Node → Node → Bool
  | .identifier left, .identifier right => left == right
  | .literal left, .literal right => left.equal right
  | .snippet left, .snippet right => left.equal right
  | .unresolved left, .unresolved right => left.equal right
  | .renamed left, .renamed right => left.equal right
  | .condition left, .condition right => left.equal right
  | .comparison left, .comparison right => left.equal right
  | .jsonObject left, .jsonObject right => left.equal right
  | .values left, .values right => left.equal right
  | .sources left, .sources right => left.equal right
  | .join left, .join right => left.equal right
  | .select left, .select right => left.equal right
  | .insert left, .insert right => left.equal right
  | .update left, .update right => left.equal right
  | .delete left, .delete right => left.equal right
  | _, _ => false

def Snippet.equal : Snippet → Snippet → Bool
  | ⟨leftHead, leftSlots, leftMisuse⟩, ⟨rightHead, rightSlots, rightMisuse⟩ =>
    leftHead == rightHead && equalSlots leftSlots rightSlots && leftMisuse == rightMisuse

def equalSlots : List Slot → List Slot → Bool
  | [], [] => true
  | ⟨left, leftAfter⟩ :: leftRest, ⟨right, rightAfter⟩ :: rightRest =>
    left.equal right && leftAfter == rightAfter && equalSlots leftRest rightRest
  | _, _ => false

def Renaming.equal : Renaming → Renaming → Bool
  | ⟨left, leftName⟩, ⟨right, rightName⟩ => left.equal right && leftName == rightName

/-- Whether two conditions have the same shape and leaves. -/
def Condition.equal : Condition → Condition → Bool
  | .all left, .all right => equalConditions left right
  | .any left, .any right => equalConditions left right
  | .negation left, .negation right => left.equal right
  | .existence left, .existence right => left.equal right
  | .test left leftComparison, .test right rightComparison =>
    left.equal right && leftComparison.equal rightComparison
  | .plain left, .plain right => left.equal right
  | _, _ => false

def equalConditions : List Condition → List Condition → Bool
  | [], [] => true
  | left :: leftRest, right :: rightRest => left.equal right && equalConditions leftRest rightRest
  | _, _ => false

/-- Whether two comparisons are of one kind and the same. -/
def Comparison.equal : Comparison → Comparison → Bool
  | .relation leftRelation left leftQuantifier, .relation rightRelation right rightQuantifier =>
    leftRelation == rightRelation && left.equal right && leftQuantifier == rightQuantifier
  | .nullity left, .nullity right => left == right
  | .like left leftInsensitive, .like right rightInsensitive =>
    left.equal right && leftInsensitive == rightInsensitive
  | .between leftLow leftHigh, .between rightLow rightHigh =>
    leftLow.equal rightLow && leftHigh.equal rightHigh
  | .membership left leftNegated, .membership right rightNegated =>
    left.equal right && leftNegated == rightNegated
  | _, _ => false

def ColumnMap.equal : ColumnMap → ColumnMap → Bool
  | ⟨left⟩, ⟨right⟩ => equalFields left right

def equalFields : List Field → List Field → Bool
  | [], [] => true
  | ⟨leftColumn, left⟩ :: leftRest, ⟨rightColumn, right⟩ :: rightRest =>
    leftColumn == rightColumn && left.equal right && equalFields leftRest rightRest
  | _, _ => false

def equalRows : List ColumnMap → List ColumnMap → Bool
  | [], [] => true
  | left :: leftRest, right :: rightRest => left.equal right && equalRows leftRest rightRest
  | _, _ => false

def JsonItem.equal : JsonItem → JsonItem → Bool
  | .key left, .key right => left == right
  | .keys left, .keys right => left == right
  | .map left, .map right => left.equal right
  | _, _ => false

def equalItems : List JsonItem → List JsonItem → Bool
  | [], [] => true
  | left :: leftRest, right :: rightRest => left.equal right && equalItems leftRest rightRest
  | _, _ => false

def JsonObject.equal : JsonObject → JsonObject → Bool
  | ⟨leftItems, leftQualifier, leftBinary⟩, ⟨rightItems, rightQualifier, rightBinary⟩ =>
    equalItems leftItems rightItems && leftQualifier == rightQualifier
      && leftBinary == rightBinary

def ValuesList.equal : ValuesList → ValuesList → Bool
  | ⟨leftRows, leftName⟩, ⟨rightRows, rightName⟩ =>
    equalRows leftRows rightRows && leftName == rightName

def Join.equal : Join → Join → Bool
  | ⟨leftKind, leftTable, leftCondition⟩, ⟨rightKind, rightTable, rightCondition⟩ =>
    leftKind == rightKind && leftTable.equal rightTable && leftCondition.equal rightCondition

def equalJoins : List Join → List Join → Bool
  | [], [] => true
  | left :: leftRest, right :: rightRest => left.equal right && equalJoins leftRest rightRest
  | _, _ => false

def equalSources : List Source → List Source → Bool
  | [], [] => true
  | ⟨left, leftJoins⟩ :: leftRest, ⟨right, rightJoins⟩ :: rightRest =>
    left.equal right && equalJoins leftJoins rightJoins && equalSources leftRest rightRest
  | _, _ => false

def SourceList.equal : SourceList → SourceList → Bool
  | ⟨left, leftMisuse⟩, ⟨right, rightMisuse⟩ =>
    equalSources left right && leftMisuse == rightMisuse

def equalOrdering : List OrderKey → List OrderKey → Bool
  | [], [] => true
  | ⟨left, leftDirection⟩ :: leftRest, ⟨right, rightDirection⟩ :: rightRest =>
    left.equal right && leftDirection == rightDirection && equalOrdering leftRest rightRest
  | _, _ => false

/-- Whether two queries are the same in every clause. -/
def Select.equal : Select → Select → Bool
  | ⟨leftColumns, leftDistinct, leftTarget, leftSources, leftCondition, leftGrouping,
      leftGroupCondition, leftOrdering, leftLimit, leftOffset⟩,
    ⟨rightColumns, rightDistinct, rightTarget, rightSources, rightCondition, rightGrouping,
      rightGroupCondition, rightOrdering, rightLimit, rightOffset⟩ =>
    equalOperands leftColumns rightColumns && equalOptionalList leftDistinct rightDistinct
      && equalOptional leftTarget rightTarget && leftSources.equal rightSources
      && leftCondition.equal rightCondition && equalOperands leftGrouping rightGrouping
      && leftGroupCondition.equal rightGroupCondition && equalOrdering leftOrdering rightOrdering
      && leftLimit == rightLimit && leftOffset == rightOffset

def InsertBody.equal : InsertBody → InsertBody → Bool
  | .rows left, .rows right => equalRows left right
  | .query left, .query right => left.equal right
  | _, _ => false

/-- Whether two insertions are the same in every part. -/
def Insert.equal : Insert → Insert → Bool
  | ⟨leftTable, leftColumns, leftBody, leftConflict, leftConstraint, leftUpdate,
      leftReturning, leftMisuse⟩,
    ⟨rightTable, rightColumns, rightBody, rightConflict, rightConstraint, rightUpdate,
      rightReturning, rightMisuse⟩ =>
    leftTable.equal rightTable && equalOperands leftColumns rightColumns
      && leftBody.equal rightBody && equalOptionalList leftConflict rightConflict
      && leftConstraint == rightConstraint && leftUpdate.equal rightUpdate
      && equalOperands leftReturning rightReturning && leftMisuse == rightMisuse

def Update.equal : Update → Update → Bool
  | ⟨leftTable, leftAssignments, leftSources, leftCondition, leftReturning⟩,
    ⟨rightTable, rightAssignments, rightSources, rightCondition, rightReturning⟩ =>
    leftTable.equal rightTable && leftAssignments.equal rightAssignments
      && equalOperands leftSources rightSources && leftCondition.equal rightCondition
      && equalOperands leftReturning rightReturning

def Delete.equal : Delete → Delete → Bool
  | ⟨leftTable, leftSources, leftCondition, leftReturning⟩,
    ⟨rightTable, rightSources, rightCondition, rightReturning⟩ =>
    leftTable.equal rightTable && equalOperands leftSources rightSources
      && leftCondition.equal rightCondition && equalOperands leftReturning rightReturning

end

end SqlTree
