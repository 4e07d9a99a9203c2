import Typeforge.Text.Replace
import Typeforge.Code.Quoted
import Typeforge.Code.Tree

/-!
# Printing

The text of a syntax tree. An expression and a type stand on one line. In a type, `[]` binds tighter than
`&`, and `&` tighter than `|`, so a looser type is put in parentheses where it stands under a tighter one.
-/

namespace Typeforge.Code

open Text (joinWith)

def Keyword.text : Keyword → String
  | .string => "string"
  | .number => "number"
  | .bigint => "bigint"
  | .boolean => "boolean"
  | .null => "null"
  | .undefined => "undefined"
  | .never => "never"
  | .void => "void"
  | .unknown => "unknown"

def Literal.text : Literal → String
  | .string s => quoted s
  | .number x => x.text
  | .int n => toString n
  | .bool b => if b then "true" else "false"
  | .null => "null"
  | .notANumber => "NaN"
  | .infinity negative => if negative then "-inf" else "inf"

def parenthesized (s : String) : String := "(" ++ s ++ ")"

/-- A type that an array type may not be made of without parentheses. -/
def Ty.looserThanArray : Ty → Bool
  | .union _ | .intersection _ => true
  | _ => false

/-- A type that may not stand in an intersection without parentheses. -/
def Ty.looserThanIntersection : Ty → Bool
  | .union _ => true
  | _ => false

/-- A property with the text of its type. -/
def memberText (name type : String) (optional readonly : Bool) : String :=
  (if readonly then "readonly " else "") ++ propertyName name ++ (if optional then "?" else "") ++ ": " ++ type

mutual

def Ty.text : Ty → String
  | .keyword k => k.text
  | .literal l => l.text
  | .ref name => name
  | .array element =>
    (if element.looserThanArray then parenthesized element.text else element.text) ++ "[]"
  | .tuple elements => "[" ++ joinWith ", " (typeTexts elements) ++ "]"
  | .union members => joinWith " | " (typeTexts members)
  | .intersection members => joinWith " & " (groupedTexts members)
  | .object members =>
    if members.isEmpty then "\x7b\x7d" else "\x7b " ++ joinWith "; " (memberTexts members) ++ " \x7d"
  | .record key value => "Record<" ++ key.text ++ ", " ++ value.text ++ ">"

def typeTexts : List Ty → List String
  | [] => []
  | t :: ts => t.text :: typeTexts ts

/-- The members of an intersection. -/
def groupedTexts : List Ty → List String
  | [] => []
  | t :: ts => (if t.looserThanIntersection then parenthesized t.text else t.text) :: groupedTexts ts

def memberTexts : List (Member Ty) → List String
  | [] => []
  | ⟨name, type, optional, readonly⟩ :: ms => memberText name type.text optional readonly :: memberTexts ms

end

def Key.text : Key → String
  | .ident name | .num name => name
  | .str name => quoted name

/-- An annotation after what it annotates. -/
def annotation : Option Ty → String
  | none => ""
  | some t => ": " ++ t.text

def Param.text (p : Param) : String := p.name ++ (if p.optional then "?" else "") ++ annotation p.type

def Expr.isObject : Expr → Bool
  | .object _ => true
  | _ => false

mutual

/-- The text of an expression. The body of a function is put in parentheses when it is an object, which
would read as a block. -/
def Expr.text : Expr → String
  | .ident name => name
  | .literal l => l.text
  | .regex pattern => "/" ++ escapeRegex pattern ++ "/"
  | .member receiver property => receiver.text ++ "." ++ property
  | .call callee args => callee.text ++ "(" ++ joinWith ", " (exprTexts args) ++ ")"
  | .array items => "[" ++ joinWith ", " (exprTexts items) ++ "]"
  | .object properties =>
    if properties.isEmpty then "\x7b\x7d" else "\x7b " ++ joinWith ", " (propertyTexts properties) ++ " \x7d"
  | .arrow params body =>
    "(" ++ joinWith ", " (params.map Param.text) ++ ") => "
      ++ (if body.isObject then parenthesized body.text else body.text)

def exprTexts : List Expr → List String
  | [] => []
  | e :: es => e.text :: exprTexts es

def propertyTexts : List (Key × Expr) → List String
  | [] => []
  | (k, e) :: ps => (k.text ++ ": " ++ e.text) :: propertyTexts ps

end

def docLine (line : String) : String := if line.isEmpty then " *\n" else " * " ++ line ++ "\n"

/-- The text of a statement, with the line feed after it. -/
def Stmt.text : Stmt → String
  | .const exported name type init =>
    (if exported then "export " else "") ++ "const " ++ name ++ annotation type ++ " = " ++ init.text ++ ";\n"
  | .interface name members =>
    "export interface " ++ name ++ " \x7b\n"
      ++ String.join ((memberTexts members).map fun m => "  " ++ m ++ ";\n") ++ "\x7d\n"
  | .typeAlias name type => "export type " ++ name ++ " = " ++ type.text ++ ";\n"
  | .doc paragraphs => "/**\n" ++ String.join ((paragraphs.flatMap Text.lines).map docLine) ++ " */\n"

def ImportItem.text (i : ImportItem) : String :=
  match i.localName with
  | some localName => i.name ++ " as " ++ localName
  | none => i.name

def Binding.text : Binding → String
  | .everything localName => "* as " ++ localName
  | .named items => "\x7b " ++ joinWith ", " (items.map ImportItem.text) ++ " \x7d"

def Import.text (i : Import) : String :=
  "import " ++ (if i.typeOnly then "type " else "") ++ i.binding.text ++ " from \"" ++ i.specifier ++ "\";\n"

def Stmt.isDoc : Stmt → Bool
  | .doc _ => true
  | _ => false

/-- Statements with an empty line between them, except after a comment. -/
def bodyText : List Stmt → String
  | [] => ""
  | [s] => s.text
  | s :: ss => s.text ++ (if s.isDoc then "" else "\n") ++ bodyText ss

/-- The text of a module: the imports, an empty line, and the statements. -/
def Module.text (m : Module) : String :=
  String.join (m.imports.map Import.text) ++ (if m.imports.isEmpty then "" else "\n") ++ bodyText m.body

end Typeforge.Code
