/-
# Recordsmith.Dart.Render — Dart constructs as tokens

Rendering never adds parentheses: the text groups as the tree does only if the
tree has a `paren` wherever one is needed. Brackets stand right at what they
enclose. The statements of a block or of an arm end in semicolons, and every
block and arm says that it needs none itself.
-/
import Recordsmith.Dart.Expr
import Recordsmith.Dart.Quoted
import Recordsmith.Layout.Format

namespace Recordsmith.Dart.Expr

set_option autoImplicit false

/-- Groups of tokens divided by commas. -/
def commaSeparated (groups : List (List Token)) : List Token :=
  Token.join [.noSpaceBefore, .text ","] [] groups

/-- Tokens in brackets, without space inside. -/
def bracketed (opening : String) (inner : List Token) (closing : String) : List Token :=
  [.text opening, .noSpaceBefore] ++ inner ++ [.noSpaceBefore, .text closing]

/-- Statements, one a line, each with a semicolon behind it. -/
def statements (groups : List (List Token)) : List Token :=
  Token.join [.statementEnd, .endLine] [.statementEnd] groups

/-- A head and statements in braces. -/
def braced (head : List Token) (groups : List (List Token)) : List Token :=
  (if groups.isEmpty then head ++ [.text "\x7b\x7d"]
   else head ++ [.text "\x7b", .indent] ++ statements groups ++ [.dedent, .text "\x7d"]) ++
    [.noStatementEnd]

/-- An arm of a switch. -/
def arm (head : List Token) (groups : List (List Token)) (breaks : Bool) : List Token :=
  head ++ [.noSpaceBefore, .text ":", .indent] ++ statements groups ++
    (if breaks then
      (if groups.isEmpty then [] else [.endLine]) ++ [.text "break", .statementEnd]
     else []) ++
    [.dedent, .noStatementEnd]

/-- Type arguments as one text. -/
def typeArguments (types : List String) : String :=
  "<" ++ ", ".intercalate types ++ ">"

mutual

/-- The tokens of a construct. -/
def tokens : Expr → List Token
  | .ident name => [.text name]
  | .str value => [.text (quote value)]
  | .call callee typeArgs args =>
      tokens callee ++
        (if typeArgs.isEmpty then [] else [.noSpaceBefore, .text (typeArguments typeArgs)]) ++
        .noSpaceBefore :: bracketed "(" (commaSeparated (tokensOfEach args)) ")"
  | .index target position =>
      tokens target ++ .noSpaceBefore :: bracketed "[" (tokens position) "]"
  | .member target name nullSafe =>
      tokens target ++
        [.noSpaceBefore, .text (if nullSafe then "?." else "."), .noSpaceBefore, .text name]
  | .bang operand => tokens operand ++ [.noSpaceBefore, .text "!"]
  | .binary op left right => tokens left ++ .text op.symbol :: tokens right
  | .conditional condition positive negative =>
      tokens condition ++ .text "?" :: tokens positive ++ .text ":" :: tokens negative
  | .paren inner => bracketed "(" (tokens inner) ")"
  | .listLit elementType items =>
      (match elementType with
        | some type => [.text (typeArguments [type]), .noSpaceBefore]
        | none => []) ++
        bracketed "[" (commaSeparated (tokensOfEach items)) "]"
  | .mapLit types entries =>
      (match types with
        | some (key, value) => [.text (typeArguments [key, value]), .noSpaceBefore]
        | none => []) ++
        bracketed "\x7b" (commaSeparated (tokensOfEach entries)) "\x7d"
  | .entry key value => tokens key ++ [.noSpaceBefore, .text ":"] ++ tokens value
  | .spread operand => [.text "...", .noSpaceBefore] ++ tokens operand
  | .lambda params body =>
      bracketed "(" (commaSeparated (params.map fun param => [.text param])) ")" ++
        .text "=>" :: tokens body
  | .getter modifiers result name =>
      modifiers.map .text ++ result.toList.map .text ++ [.text "get", .text name]
  | .signature modifiers result name params =>
      modifiers.map .text ++ result.toList.map .text ++
        [.text name, .noSpaceBefore] ++ bracketed "(" (commaSeparated (tokensOfEach params)) ")"
  | .arrow head body => tokens head ++ .text "=>" :: tokens body
  | .block head body => braced (tokens head) (tokensOfEach body)
  | .classHead name base interfaces =>
      [.text "class", .text name] ++
        (match base with
          | some base => [.text "extends", .text base]
          | none => []) ++
        (if interfaces.isEmpty then []
         else
          .text "implements" ::
            commaSeparated (interfaces.map fun interface => [.text interface]))
  | .declaration modifiers type name => modifiers.map .text ++ [.text type, .text name]
  | .initialised modifiers type name init =>
      modifiers.map .text ++ [.text type, .text name, .text "="] ++ tokens init
  | .switch subject arms =>
      braced (.text "switch" :: bracketed "(" (tokens subject) ")") (tokensOfEach arms)
  | .caseArm pattern body breaks =>
      arm (.text "case" :: tokens pattern) (tokensOfEach body) breaks
  | .defaultArm body breaks => arm [.text "default"] (tokensOfEach body) breaks
  | .ret value => .text "return" :: tokens value
  | .raise value => .text "throw" :: tokens value
  | .annotated label inner => [.text ("@" ++ label), .endLine] ++ tokens inner

def tokensOfEach : List Expr → List (List Token)
  | [] => []
  | expr :: rest => tokens expr :: tokensOfEach rest

end

/-- The lines of a construct. -/
def lines (indent : Indent) (expr : Expr) : List String :=
  Layout.format indent expr.tokens

end Recordsmith.Dart.Expr
