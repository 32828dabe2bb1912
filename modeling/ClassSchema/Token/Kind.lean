/-!
# Kinds of tokens

The vocabulary of a class file: three forms of comment, the reserved words, and the punctuation
marks. Everything is finite and given by tables, so which word is reserved and which character is
punctuation are look-ups in the same tables that print them.
-/

namespace ClassSchema

/-- The reserved words. Every other word is an identifier. -/
inductive Keyword
  | publicWord
  | privateWord
  | protectedWord
  | classWord
  | interfaceWord
  | enumWord
  | extendsWord
  | implementsWord
  | staticWord
  | finalWord
  | intWord
  | longWord
  | floatWord
  | doubleWord
  | booleanWord
  | charWord
  | byteWord
  | shortWord
  | trueWord
  | falseWord
deriving DecidableEq

namespace Keyword

/-- All reserved words. -/
def all : List Keyword :=
  [publicWord, privateWord, protectedWord, classWord, interfaceWord, enumWord, extendsWord,
   implementsWord, staticWord, finalWord, intWord, longWord, floatWord, doubleWord, booleanWord,
   charWord, byteWord, shortWord, trueWord, falseWord]

/-- The spelling of a reserved word. -/
def text : Keyword → String
  | publicWord => "public"
  | privateWord => "private"
  | protectedWord => "protected"
  | classWord => "class"
  | interfaceWord => "interface"
  | enumWord => "enum"
  | extendsWord => "extends"
  | implementsWord => "implements"
  | staticWord => "static"
  | finalWord => "final"
  | intWord => "int"
  | longWord => "long"
  | floatWord => "float"
  | doubleWord => "double"
  | booleanWord => "boolean"
  | charWord => "char"
  | byteWord => "byte"
  | shortWord => "short"
  | trueWord => "true"
  | falseWord => "false"

/-- The reserved word with a given spelling. -/
def ofText? (word : String) : Option Keyword := all.find? (·.text = word)

/-- The name of a reserved word in a token listing. -/
def label : Keyword → String
  | publicWord => "PUBLIC"
  | privateWord => "PRIVATE"
  | protectedWord => "PROTECTED"
  | classWord => "CLASS"
  | interfaceWord => "INTERFACE"
  | enumWord => "ENUM"
  | extendsWord => "EXTENDS"
  | implementsWord => "IMPLEMENTS"
  | staticWord => "STATIC"
  | finalWord => "FINAL"
  | intWord => "INT"
  | longWord => "LONG"
  | floatWord => "FLOAT"
  | doubleWord => "DOUBLE"
  | booleanWord => "BOOLEAN"
  | charWord => "CHAR"
  | byteWord => "BYTE"
  | shortWord => "SHORT"
  | trueWord => "TRUE"
  | falseWord => "FALSE"

/-- The number of a reserved word among the token kinds. -/
def code : Keyword → Nat
  | publicWord => 30
  | privateWord => 31
  | protectedWord => 32
  | classWord => 33
  | interfaceWord => 34
  | enumWord => 35
  | extendsWord => 36
  | implementsWord => 37
  | staticWord => 38
  | finalWord => 39
  | intWord => 40
  | longWord => 41
  | floatWord => 42
  | doubleWord => 43
  | booleanWord => 44
  | charWord => 45
  | byteWord => 46
  | shortWord => 47
  | trueWord => 50
  | falseWord => 51

/-- The words that set the visibility of a declaration. -/
def isVisibility : Keyword → Bool
  | publicWord | privateWord | protectedWord => true
  | _ => false

/-- The reserved modifiers. -/
def isModifier : Keyword → Bool
  | publicWord | privateWord | protectedWord | staticWord | finalWord => true
  | _ => false

/-- The names of the primitive types. -/
def isPrimitiveType : Keyword → Bool
  | intWord | longWord | floatWord | doubleWord | booleanWord | charWord | byteWord | shortWord =>
    true
  | _ => false

end Keyword

/-- The punctuation marks. -/
inductive Mark
  | semicolon
  | comma
  | dot
  | openBrace
  | closeBrace
  | openParen
  | closeParen
  | openBracket
  | closeBracket
  | openAngle
  | closeAngle
  | equal
  | atSign
deriving DecidableEq

namespace Mark

/-- All punctuation marks. -/
def all : List Mark :=
  [semicolon, comma, dot, openBrace, closeBrace, openParen, closeParen, openBracket, closeBracket,
   openAngle, closeAngle, equal, atSign]

/-- The character of a punctuation mark. -/
def char : Mark → Char
  | semicolon => ';'
  | comma => ','
  | dot => '.'
  | openBrace => '\x7b'
  | closeBrace => '\x7d'
  | openParen => '('
  | closeParen => ')'
  | openBracket => '['
  | closeBracket => ']'
  | openAngle => '<'
  | closeAngle => '>'
  | equal => '='
  | atSign => '@'

/-- The punctuation mark with a given character. -/
def ofChar? (c : Char) : Option Mark := all.find? (·.char = c)

/-- The name of a punctuation mark in a token listing. -/
def label : Mark → String
  | semicolon => "SEMICOLON"
  | comma => "COMMA"
  | dot => "DOT"
  | openBrace => "LBRACE"
  | closeBrace => "RBRACE"
  | openParen => "LPAREN"
  | closeParen => "RPAREN"
  | openBracket => "LBRACKET"
  | closeBracket => "RBRACKET"
  | openAngle => "LESS_THAN"
  | closeAngle => "GREATER_THAN"
  | equal => "EQUAL"
  | atSign => "AT"

/-- The number of a punctuation mark among the token kinds. -/
def code : Mark → Nat
  | semicolon => 60
  | comma => 61
  | dot => 62
  | openBrace => 63
  | closeBrace => 64
  | openParen => 65
  | closeParen => 66
  | openBracket => 67
  | closeBracket => 68
  | openAngle => 69
  | closeAngle => 70
  | equal => 71
  | atSign => 72

/-- The mark that closes a group opened by this one. -/
def closer? : Mark → Option Mark
  | openBrace => some closeBrace
  | openParen => some closeParen
  | openBracket => some closeBracket
  | openAngle => some closeAngle
  | _ => none

theorem mem_all (m : Mark) : m ∈ all := by cases m <;> decide

end Mark

/-- The forms of a comment: to the end of its line, between delimiters, or documentation. -/
inductive CommentForm
  | line
  | block
  | doc
deriving DecidableEq

namespace CommentForm

/-- The name of a comment form in a token listing. -/
def label : CommentForm → String
  | line => "LINE_COMMENT"
  | block => "BLOCK_COMMENT"
  | doc => "DOC_COMMENT"

/-- The number of a comment form among the token kinds. -/
def code : CommentForm → Nat
  | line => 15
  | block => 16
  | doc => 17

end CommentForm

/-- The kind of a token. -/
inductive Kind
  | endOfInput
  | blank
  | newline
  | comment (form : CommentForm)
  | identifier
  | string
  | number
  | keyword (word : Keyword)
  | mark (mark : Mark)
deriving DecidableEq

namespace Kind

/-- All kinds, in the order of their numbers. -/
def all : List Kind :=
  [endOfInput, blank, newline, comment .line, comment .block, comment .doc, identifier, string,
   number] ++ Keyword.all.map keyword ++ Mark.all.map mark

/-- The name of a kind in a token listing. -/
def label : Kind → String
  | endOfInput => "EOF"
  | blank => "WHITESPACE"
  | newline => "NEWLINE"
  | comment form => form.label
  | identifier => "IDENTIFIER"
  | string => "STRING"
  | number => "NUMBER"
  | keyword word => word.label
  | mark m => m.label

/-- The number of a kind. -/
def code : Kind → Nat
  | endOfInput => 1
  | blank => 10
  | newline => 11
  | comment form => form.code
  | identifier => 20
  | string => 21
  | number => 22
  | keyword word => word.code
  | mark m => m.code

/-- The kind with a given name. -/
def ofLabel? (name : String) : Option Kind := all.find? (·.label = name)

/-- Trivia separate tokens and carry no meaning. -/
def isTrivia : Kind → Bool
  | blank | newline => true
  | _ => false

/-- Whether the kind is a form of comment. -/
def isComment : Kind → Bool
  | comment _ => true
  | _ => false

/-- The kinds of the reserved modifiers. -/
def isModifier : Kind → Bool
  | keyword word => word.isModifier
  | _ => false

/-- The kinds a type can start with: an identifier or a primitive type. -/
def startsType : Kind → Bool
  | identifier => true
  | keyword word => word.isPrimitiveType
  | _ => false

/-- The kinds written as words in the text of a type: two in a row need a space between them. -/
def isWord : Kind → Bool
  | identifier | number => true
  | keyword .interfaceWord | keyword .enumWord => false
  | keyword _ => true
  | _ => false

/-- The kinds at which a top-level declaration can start. -/
def startsDeclaration : Kind → Bool
  | keyword word =>
    word.isVisibility || word = .classWord || word = .interfaceWord || word = .enumWord
  | mark .atSign => true
  | _ => false

end Kind

end ClassSchema
