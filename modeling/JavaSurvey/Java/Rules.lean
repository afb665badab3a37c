import JavaSurvey.Grammar.Derivation
import JavaSurvey.Java.Construct
import JavaSurvey.Java.Token

/-!
# The grammar of Java

One definition per construct. The grammar is wider than the language: methods and
statements may stand at the top of a file, and declarations may stand wherever
statements may. It is also flatter: an expression is a row of operands with the
operations around them, because nothing that is analysed depends on how operators
bind.

Words are read by their place. A word is a keyword exactly where the grammar
could go on with that keyword, and a name everywhere else, so that `record`,
`permits` or `to` remain usable as names.
-/

namespace JavaSurvey.Java

/-- A phrase of the grammar of Java. -/
abbrev Phrase := Grammar.Phrase Terminal Construct Role

instance : Coe String Phrase := ⟨fun text => .terminal (.fixed text)⟩
instance : Coe Terminal Phrase := ⟨.terminal⟩
instance : Coe Construct Phrase := ⟨.construct⟩

namespace Rule

/-- Phrases one after the other. -/
def seq (parts : List Phrase) : Phrase := Grammar.Phrase.sequence parts

/-- One of several phrases. -/
def any (options : List Phrase) : Phrase := Grammar.Phrase.choice options

/-- A phrase or nothing. -/
def opt (part : Phrase) : Phrase := Grammar.Phrase.optional part

/-- A phrase any number of times. -/
def many (part : Phrase) : Phrase := Grammar.Phrase.many part

/-- A phrase at least once. -/
def some (part : Phrase) : Phrase := Grammar.Phrase.sequence [part, Grammar.Phrase.many part]

/-- A phrase at least once, with separators between. -/
def separated (separator part : Phrase) : Phrase :=
  Grammar.Phrase.sequence [part, Grammar.Phrase.many (Grammar.Phrase.sequence [separator, part])]

/-- A phrase at least once, with commas between. -/
def list (part : Phrase) : Phrase := separated "," part

/-- A phrase in the role of its construct's name. -/
def named (part : Phrase) : Phrase := Grammar.Phrase.role .name part

end Rule

section

open Rule (seq any opt many some separated list named)
open Construct

/-- The words that are keywords in some places and names in all others, where the
grammar asks for a name. -/
def flexibleWords : List Phrase :=
  ["open", "module", "record", "with", "sealed", "yield"]

/-- What a variable, a parameter or a part of a pattern is called: a name, or a low
line for one that is not used. -/
def boundName : Phrase := any [simpleName, "_"]

/-- Statements. -/
def statementRules : List (Construct × Phrase) :=
  [(program, many (any [statement, methodDeclaration])),
    (statement, any
      [declaration, yieldStatement, expressionStatement, labeledStatement, ifStatement,
        whileStatement, forStatement, forEachStatement, block, ";", assertStatement, doStatement,
        breakStatement, continueStatement, returnStatement, switchExpression,
        synchronizedStatement, localVariableDeclaration, throwStatement, tryStatement,
        resourceStatement]),
    (block, seq ["\x7b", many statement, "\x7d"]),
    (expressionStatement, seq [expression, ";"]),
    (labeledStatement, seq [Terminal.identifier, ":", statement]),
    (ifStatement, seq ["if", parenthesized, statement, opt (seq ["else", statement])]),
    (whileStatement, seq ["while", parenthesized, statement]),
    (doStatement, seq ["do", statement, "while", parenthesized, ";"]),
    (forStatement, seq
      ["for", "(", any [localVariableDeclaration, seq [opt (list expression), ";"]],
        opt expression, ";", opt (list expression), ")", statement]),
    (forEachStatement, seq
      ["for", "(", opt modifiers, plainType, variableName, ":", expression, ")", statement]),
    (assertStatement, seq ["assert", expression, opt (seq [":", expression]), ";"]),
    (breakStatement, seq ["break", opt Terminal.identifier, ";"]),
    (continueStatement, seq ["continue", opt Terminal.identifier, ";"]),
    (returnStatement, seq ["return", opt expression, ";"]),
    (yieldStatement, seq ["yield", expression, ";"]),
    (throwStatement, seq ["throw", expression, ";"]),
    (synchronizedStatement, seq ["synchronized", parenthesized, block]),
    (tryStatement, seq
      ["try", block, any [some catchClause, seq [many catchClause, finallyClause]]]),
    (resourceStatement, seq
      ["try", "(", separated ";" resource, opt ";", ")", block, many catchClause,
        opt finallyClause]),
    (resource, any
      [seq [opt modifiers, plainType, variableName, "=", expression], Terminal.identifier,
        fieldAccess]),
    (catchClause, seq
      ["catch", "(", opt modifiers, separated "|" plainType, variableName, ")", block]),
    (finallyClause, seq ["finally", block]),
    (localVariableDeclaration, seq [opt modifiers, plainType, declaratorList, ";"])]

/-- Modules, packages and imports. -/
def moduleRules : List (Construct × Phrase) :=
  [(declaration, any
      [moduleDeclaration, packageDeclaration, importDeclaration, classDeclaration,
        recordDeclaration, interfaceDeclaration, annotationTypeDeclaration, enumDeclaration]),
    (moduleDeclaration, seq
      [many annotationUse, opt "open", "module", anyName, "\x7b", many moduleDirective, "\x7d"]),
    (moduleDirective, any
      [seq ["requires", many (any ["transitive", "static"]), anyName, ";"],
        seq ["exports", anyName, opt (seq ["to", list anyName]), ";"],
        seq ["opens", anyName, opt (seq ["to", list anyName]), ";"],
        seq ["uses", anyName, ";"],
        seq ["provides", anyName, "with", list anyName, ";"]]),
    (packageDeclaration, seq [many annotationUse, "package", named anyName, ";"]),
    (importDeclaration, seq ["import", opt "static", anyName, opt (seq [".", "*"]), ";"])]

/-- Types and their bodies. -/
def typeDeclarationRules : List (Construct × Phrase) :=
  [(classDeclaration, seq
      [opt modifiers, "class", named Terminal.identifier, opt typeParameters,
        opt (seq ["extends", type]), opt (seq ["implements", typeList]),
        opt (seq ["permits", typeList]), .role .body classBody]),
    (interfaceDeclaration, seq
      [opt modifiers, "interface", named Terminal.identifier, opt typeParameters,
        opt (seq ["extends", typeList]), opt (seq ["permits", typeList]),
        .role .body interfaceBody]),
    (recordDeclaration, seq
      [opt modifiers, "record", named Terminal.identifier, opt typeParameters,
        .role .parameters formalParameters, opt (seq ["implements", typeList]),
        .role .body classBody]),
    (enumDeclaration, seq
      [opt modifiers, "enum", named Terminal.identifier, opt (seq ["implements", typeList]),
        .role .body enumBody]),
    (annotationTypeDeclaration, seq
      [opt modifiers, "@interface", named Terminal.identifier, .role .body annotationTypeBody]),
    (classBody, seq ["\x7b", many member, "\x7d"]),
    (interfaceBody, seq
      ["\x7b",
        many (any
          [constantDeclaration, enumDeclaration, methodDeclaration, classDeclaration,
            interfaceDeclaration, recordDeclaration, annotationTypeDeclaration, ";"]),
        "\x7d"]),
    (enumBody, seq ["\x7b", opt (list enumConstant), opt ",", opt enumMembers, "\x7d"]),
    (enumConstant, seq
      [opt modifiers, named Terminal.identifier, opt argumentList, opt classBody]),
    (enumMembers, seq [";", many member]),
    (annotationTypeBody, seq
      ["\x7b",
        many (any
          [annotationTypeElement, constantDeclaration, classDeclaration, interfaceDeclaration,
            enumDeclaration, annotationTypeDeclaration, ";"]),
        "\x7d"]),
    (annotationTypeElement, seq
      [opt modifiers, plainType, named simpleName, "(", ")", opt dimensions,
        opt (seq ["default", elementValue]), ";"]),
    (member, any
      [fieldDeclaration, recordDeclaration, methodDeclaration, compactConstructor,
        classDeclaration, interfaceDeclaration, annotationTypeDeclaration, enumDeclaration, block,
        staticInitializer, constructorDeclaration, ";"])]

/-- Members and what they are made of. -/
def memberRules : List (Construct × Phrase) :=
  [(fieldDeclaration, seq [opt modifiers, plainType, declaratorList, ";"]),
    (constantDeclaration, seq [opt modifiers, plainType, declaratorList, ";"]),
    (methodDeclaration, seq
      [opt modifiers, opt (seq [typeParameters, many annotationUse]), plainType, named simpleName,
        .role .parameters formalParameters, opt dimensions, opt throwsClause,
        any [.role .body block, ";"]]),
    (constructorDeclaration, seq
      [opt modifiers, opt typeParameters, named Terminal.identifier,
        .role .parameters formalParameters, opt throwsClause, .role .body constructorBody]),
    (constructorBody, seq ["\x7b", opt constructorCall, many statement, "\x7d"]),
    (constructorCall, any
      [seq [opt typeArguments, any ["this", "super"], argumentList, ";"],
        seq [primary, ".", opt typeArguments, "super", argumentList, ";"]]),
    (compactConstructor, seq
      [opt modifiers, named Terminal.identifier, .role .body block]),
    (staticInitializer, seq ["static", block]),
    (formalParameters, any
      [seq ["(", receiverParameter, ")"],
        seq
          ["(", opt (seq [receiverParameter, ","]),
            opt (list (any [formalParameter, spreadParameter])), ")"]]),
    (formalParameter, seq [opt modifiers, plainType, variableName]),
    (spreadParameter, seq [opt modifiers, plainType, "...", variableDeclarator]),
    (receiverParameter, seq
      [many annotationUse, plainType, many (seq [Terminal.identifier, "."]), "this"]),
    (declaratorList, list (.role .declarator variableDeclarator)),
    (variableDeclarator, seq [variableName, opt (seq ["=", variableInitializer])]),
    (variableName, seq [named boundName, opt dimensions]),
    (variableInitializer, any [expression, arrayInitializer]),
    (arrayInitializer, seq ["\x7b", opt (list variableInitializer), opt ",", "\x7d"]),
    (throwsClause, seq ["throws", typeList]),
    (modifiers, some (any
      [annotationUse, "public", "protected", "private", "abstract", "static", "final", "strictfp",
        "default", "synchronized", "native", "transient", "volatile", "sealed", "non-sealed"])),
    (annotationUse, seq ["@", anyName, opt annotationArguments]),
    (annotationArguments, seq ["(", any [elementValue, opt (list elementValuePair)], ")"]),
    (elementValue, any [expression, elementValueArray, annotationUse]),
    (elementValuePair, seq [simpleName, "=", elementValue]),
    (elementValueArray, seq ["\x7b", opt (list elementValue), opt ",", "\x7d"])]

/-- Types. -/
def typeRules : List (Construct × Phrase) :=
  [(typeParameters, seq ["<", list typeParameter, ">"]),
    (typeParameter, seq
      [many annotationUse, Terminal.identifier, opt (seq ["extends", separated "&" type])]),
    (typeList, list type),
    (type, seq [many annotationUse, plainType]),
    (plainType, any [simpleType, arrayType]),
    (simpleType, any
      ["void", "byte", "short", "int", "long", "char", "float", "double", "boolean",
        Terminal.identifier, scopedType, genericType]),
    (scopedType, seq
      [any [Terminal.identifier, scopedType, genericType], ".", many annotationUse,
        Terminal.identifier]),
    (genericType, seq [any [Terminal.identifier, scopedType], typeArguments]),
    (arrayType, seq [simpleType, dimensions]),
    (dimensions, some (seq [many annotationUse, "[", "]"])),
    (typeArguments, seq ["<", opt (list (any [type, wildcard])), ">"]),
    (wildcard, seq [many annotationUse, "?", opt (seq [any ["extends", "super"], type])])]

/-- The operators between two operands, apart from `?` and `:`. -/
def binaryOperators : List Phrase :=
  ["<", "<=", ">=", "==", "!=", "&&", "||", "+", "-", "*", "/", "&", "|", "^", "%", "<<", ">",
    seq [">", Terminal.adjoining ">"],
    seq [">", Terminal.adjoining ">", Terminal.adjoining ">"]]

/-- The operators between a variable and its new value. -/
def assignmentOperators : List Phrase :=
  ["=", "+=", "-=", "*=", "/=", "&=", "|=", "^=", "%=", "<<=", ">>=", ">>>="]

/-- Expressions as rows of operands and operations. -/
def expressionRules : List (Construct × Phrase) :=
  [(expression, seq
      [many leftOperation, operand, many rightOperation, opt (seq [infixOperation, expression])]),
    (leftOperation, any
      ["+", "-", "!", "~", "++", "--", castOperator,
        seq [any [simpleName, fieldAccess, arrayAccess], any assignmentOperators],
        seq [lambdaParameters, "->"]]),
    (castOperator, seq ["(", separated "&" type, ")"]),
    (operand, any [primary, switchExpression, seq [lambdaParameters, "->", block]]),
    (rightOperation, any
      ["++", "--",
        seq ["instanceof", opt "final", any [seq [type, opt boundName], recordPattern]]]),
    (infixOperation, any (binaryOperators ++ [seq ["?", expression, ":"]])),
    (lambdaParameters, any [boundName, formalParameters, inferredParameters]),
    (inferredParameters, seq ["(", list boundName, ")"])]

/-- Operands. -/
def primaryRules : List (Construct × Phrase) :=
  [(primary, any
      [literal, classLiteral, "this", simpleName, parenthesized, objectCreation, fieldAccess,
        arrayAccess, methodInvocation, methodReference, arrayCreation, templateExpression]),
    (literal, any
      [Terminal.number, Terminal.character, "true", "false", "null", stringLiteral]),
    (stringLiteral, any
      [Terminal.string,
        seq
          [Terminal.templateHead, expression, many (seq [Terminal.templateMiddle, expression]),
            Terminal.templateTail]]),
    (classLiteral, seq [plainType, ".", "class"]),
    (parenthesized, seq ["(", expression, ")"]),
    (objectCreation, any [newObject, seq [primary, ".", newObject]]),
    (newObject, seq
      ["new", many annotationUse, opt (seq [typeArguments, many annotationUse]), simpleType,
        argumentList, opt classBody]),
    (arrayCreation, seq
      ["new", many annotationUse, simpleType,
        any [seq [some dimensionExpression, opt dimensions], seq [dimensions, arrayInitializer]]]),
    (dimensionExpression, seq [many annotationUse, "[", expression, "]"]),
    (fieldAccess, seq
      [any [primary, "super"], opt (seq [".", "super"]), ".", any [simpleName, "this"]]),
    (arrayAccess, seq [primary, "[", expression, "]"]),
    (methodInvocation, seq
      [any
        [named simpleName,
          seq
            [any [primary, "super"], ".", opt (seq ["super", "."]), opt typeArguments,
              named simpleName]],
        argumentList]),
    (argumentList, seq ["(", opt (list expression), ")"]),
    (methodReference, seq
      [any [type, primary, "super"], "::", opt typeArguments, any ["new", Terminal.identifier]]),
    (templateExpression, seq [primary, ".", stringLiteral])]

/-- Switches and patterns. -/
def switchRules : List (Construct × Phrase) :=
  [(switchExpression, seq ["switch", parenthesized, switchBlock]),
    (switchBlock, seq ["\x7b", any [many switchGroup, many switchRule], "\x7d"]),
    (switchGroup, seq [some (seq [switchLabel, ":"]), many statement]),
    (switchRule, seq [switchLabel, "->", any [expressionStatement, throwStatement, block]]),
    (switchLabel, any
      [seq ["case", any [pattern, list expression], opt (seq ["when", expression])], "default"]),
    (pattern, any [typePattern, recordPattern]),
    (typePattern, seq [plainType, boundName]),
    (recordPattern, seq
      [any [simpleName, genericType], "(", opt (list recordPatternPart), ")"]),
    (recordPatternPart, any ["_", seq [plainType, boundName], recordPattern])]

/-- Names. -/
def nameRules : List (Construct × Phrase) :=
  [(simpleName, any ((Terminal.identifier : Phrase) :: flexibleWords)),
    (qualifiedName, seq [anyName, ".", simpleName]),
    (anyName, any [simpleName, qualifiedName])]

end

/-- All definitions. -/
def rules : List (Construct × Phrase) :=
  statementRules ++ moduleRules ++ typeDeclarationRules ++ memberRules ++ typeRules
    ++ expressionRules ++ primaryRules ++ switchRules ++ nameRules

/-- The flattened grammar of Java. -/
def grammar : Grammar.Flat Terminal Construct Role :=
  .ofDefinitions rules Construct.shows .program

/-- As what a token can be read where `may` tells which terminals may stand. A word
is a keyword where it may be one, and a name otherwise; a lone low line is never
a name. -/
def readings (may : Terminal → Bool) (token : Token) : List Terminal :=
  match token.shape with
  | .word =>
    if may (.fixed token.text) then [.fixed token.text]
    else if token.text == "_" then []
    else [.identifier]
  | .mark =>
    if token.skipped.isEmpty then [.fixed token.text, .adjoining token.text]
    else [.fixed token.text]
  | .number => [.number]
  | .character => [.character]
  | .string => [.string]
  | .templateHead => [.templateHead]
  | .templateMiddle => [.templateMiddle]
  | .templateTail => [.templateTail]
  | .blank => []
  | .comment => []
  | .unreadable => []

end JavaSurvey.Java
