/-!
# Constructs of the Java language

The vocabulary of the grammar: the terminals a token can be read as, the
constructs that phrases of Java form, and the roles by which the parts of a
construct are found in a tree.
-/

namespace JavaSurvey.Java

/-- As what a token can be read. -/
inductive Terminal where
  /-- The keyword or mark with this text. -/
  | fixed (text : String)
  /-- The mark with this text, with nothing between it and the token before it. -/
  | adjoining (text : String)
  | identifier
  | number
  | character
  | string
  | templateHead
  | templateMiddle
  | templateTail
deriving DecidableEq, Repr

/-- The part that a child plays in its parent. -/
inductive Role where
  | name
  | parameters
  | declarator
  | body
deriving DecidableEq, Repr

/-- A construct of the language. The last two stand for text that no rule reads:
a token that fits nowhere, and a place where the text should have gone on. -/
inductive Construct where
  | program
  -- statements
  | statement
  | block
  | expressionStatement
  | labeledStatement
  | ifStatement
  | whileStatement
  | doStatement
  | forStatement
  | forEachStatement
  | assertStatement
  | breakStatement
  | continueStatement
  | returnStatement
  | yieldStatement
  | throwStatement
  | synchronizedStatement
  | tryStatement
  | resourceStatement
  | resource
  | catchClause
  | finallyClause
  | localVariableDeclaration
  -- declarations
  | declaration
  | moduleDeclaration
  | moduleDirective
  | packageDeclaration
  | importDeclaration
  | classDeclaration
  | interfaceDeclaration
  | recordDeclaration
  | enumDeclaration
  | annotationTypeDeclaration
  | classBody
  | interfaceBody
  | enumBody
  | enumConstant
  | enumMembers
  | annotationTypeBody
  | annotationTypeElement
  | member
  | fieldDeclaration
  | constantDeclaration
  | methodDeclaration
  | constructorDeclaration
  | constructorBody
  | constructorCall
  | compactConstructor
  | staticInitializer
  | formalParameters
  | formalParameter
  | spreadParameter
  | receiverParameter
  | variableDeclarator
  | declaratorList
  | variableName
  | variableInitializer
  | arrayInitializer
  | modifiers
  | annotationUse
  | annotationArguments
  | elementValue
  | elementValuePair
  | elementValueArray
  | typeParameters
  | typeParameter
  | typeList
  | throwsClause
  -- types
  | type
  | plainType
  | simpleType
  | scopedType
  | genericType
  | arrayType
  | dimensions
  | typeArguments
  | wildcard
  -- expressions
  | expression
  | leftOperation
  | castOperator
  | operand
  | rightOperation
  | infixOperation
  | lambdaParameters
  | inferredParameters
  | primary
  | literal
  | stringLiteral
  | classLiteral
  | parenthesized
  | objectCreation
  | newObject
  | arrayCreation
  | dimensionExpression
  | fieldAccess
  | arrayAccess
  | methodInvocation
  | argumentList
  | methodReference
  | templateExpression
  | switchExpression
  | switchBlock
  | switchGroup
  | switchRule
  | switchLabel
  | pattern
  | typePattern
  | recordPattern
  | recordPatternPart
  -- names
  | simpleName
  | qualifiedName
  | anyName
  -- faults
  | error
  | missing
deriving DecidableEq, Repr

/-- Constructs that only group others and leave no node of their own in a tree. -/
def Construct.grouping : List Construct :=
  [.statement, .declaration, .member, .declaratorList, .variableName, .variableInitializer,
    .elementValue, .typeList, .type, .plainType, .simpleType, .expression, .leftOperation,
    .operand, .rightOperation, .infixOperation, .lambdaParameters, .primary, .literal,
    .newObject, .pattern, .recordPatternPart, .simpleName, .anyName]

/-- Whether a construct shows as a node of a tree. -/
def Construct.shows (construct : Construct) : Bool :=
  !Construct.grouping.contains construct

end JavaSurvey.Java
