/-
# Recordsmith.Proofs.Dart.Frame — rendering one level deep

The *frame* of a construct is its rendering with the parts left whole: texts and
marks of its own, and between them the parts, some of them as statements with a
semicolon behind. With each part rendered in its place a frame is the rendering
(`tokens_eq`), and the parts in a frame are those of the construct, in their order
(`parts_eq`).

So what rendering does is proved of rows of items, with no look at the 27 kinds
of constructs.
-/
import Recordsmith.Dart.Render
import Recordsmith.Proofs.Dart.Everywhere

namespace Recordsmith.Dart

set_option autoImplicit false

/-- What a frame is made of. -/
inductive Item where
  | text (value : String)
  /-- No space before the next text. -/
  | glue
  /-- A new line, at the same depth, deeper or shallower. -/
  | newLine
  | deeper
  | shallower
  | part (expr : Expr)
  /-- A part with a semicolon behind it. -/
  | statement (expr : Expr)
  /-- A `break` with a semicolon behind it. -/
  | leave
  /-- No semicolon behind the construct. -/
  | unended

namespace Item

/-- The tokens of an item. -/
@[simp] def tokens : Item → List Token
  | .text value => [.text value]
  | .glue => [.noSpaceBefore]
  | .newLine => [.endLine]
  | .deeper => [.indent]
  | .shallower => [.dedent]
  | .part expr => expr.tokens
  | .statement expr => expr.tokens ++ [.statementEnd]
  | .leave => [.text "break", .statementEnd]
  | .unended => [.noStatementEnd]

/-- The part that an item is, if it is one. -/
@[simp] def parts : Item → List Expr
  | .part expr | .statement expr => [expr]
  | _ => []

/-- Items with others between them. -/
def join (between : List Item) : List Item → List Item
  | [] => []
  | [item] => [item]
  | item :: rest => item :: between ++ join between rest

/-- Items divided by commas. -/
def listed (items : List Item) : List Item :=
  join [.glue, .text ","] items

/-- Items in brackets, without space inside. -/
def enclosed (opening : String) (inner : List Item) (closing : String) : List Item :=
  [.text opening, .glue] ++ inner ++ [.glue, .text closing]

/-- Statements in braces. -/
def braces (statements : List Item) : List Item :=
  (if statements.isEmpty then [.text "\x7b\x7d"]
   else [.text "\x7b", .deeper] ++ join [.newLine] statements ++ [.shallower, .text "\x7d"]) ++
    [.unended]

/-- The statements of an arm. -/
def armBody (statements : List Item) (breaks : Bool) : List Item :=
  [.glue, .text ":", .deeper] ++
    join [.newLine] (statements ++ if breaks then [.leave] else []) ++ [.shallower, .unended]

end Item

open Item

/-- The items that a construct is rendered to. -/
def frame : Expr → List Item
  | .ident name => [.text name]
  | .str value => [.text (quote value)]
  | .call callee types args =>
      .part callee :: (if types.isEmpty then [] else [.glue, .text (Expr.typeArguments types)]) ++
        .glue :: enclosed "(" (listed (args.map .part)) ")"
  | .index target position => .part target :: .glue :: enclosed "[" [.part position] "]"
  | .member target name nullSafe =>
      [.part target, .glue, .text (if nullSafe then "?." else "."), .glue, .text name]
  | .bang operand => [.part operand, .glue, .text "!"]
  | .binary op left right => [.part left, .text op.symbol, .part right]
  | .conditional condition positive negative =>
      [.part condition, .text "?", .part positive, .text ":", .part negative]
  | .paren inner => enclosed "(" [.part inner] ")"
  | .listLit type items =>
      (type.toList.flatMap fun type => [.text (Expr.typeArguments [type]), .glue]) ++
        enclosed "[" (listed (items.map .part)) "]"
  | .mapLit types entries =>
      (types.toList.flatMap fun types => [.text (Expr.typeArguments [types.1, types.2]), .glue]) ++
        enclosed "\x7b" (listed (entries.map .part)) "\x7d"
  | .entry key value => [.part key, .glue, .text ":", .part value]
  | .spread operand => [.text "...", .glue, .part operand]
  | .lambda params body => enclosed "(" (listed (params.map .text)) ")" ++ [.text "=>", .part body]
  | .getter modifiers result name =>
      modifiers.map .text ++ result.toList.map .text ++ [.text "get", .text name]
  | .signature modifiers result name params =>
      modifiers.map .text ++ result.toList.map .text ++
        .text name :: .glue :: enclosed "(" (listed (params.map .part)) ")"
  | .arrow head body => [.part head, .text "=>", .part body]
  | .block head body => .part head :: braces (body.map .statement)
  | .classHead name base interfaces =>
      [.text "class", .text name] ++
        (base.toList.flatMap fun base => [.text "extends", .text base]) ++
        (if interfaces.isEmpty then [] else .text "implements" :: listed (interfaces.map .text))
  | .declaration modifiers type name => modifiers.map .text ++ [.text type, .text name]
  | .initialised modifiers type name init =>
      modifiers.map .text ++ [.text type, .text name, .text "=", .part init]
  | .switch subject arms =>
      .text "switch" :: enclosed "(" [.part subject] ")" ++ braces (arms.map .statement)
  | .caseArm pattern body breaks =>
      .text "case" :: .part pattern :: armBody (body.map .statement) breaks
  | .defaultArm body breaks => .text "default" :: armBody (body.map .statement) breaks
  | .ret value => [.text "return", .part value]
  | .raise value => [.text "throw", .part value]
  | .annotated label inner => [.text ("@" ++ label), .newLine, .part inner]

/-! ## The tokens of a frame -/

theorem Expr.tokensOfEach_eq_map (exprs : List Expr) :
    Expr.tokensOfEach exprs = exprs.map Expr.tokens := by
  induction exprs with
  | nil => rfl
  | cons expr rest ih => rw [Expr.tokensOfEach, ih, List.map_cons]

theorem flatMap_join (write : Item → List Token) (between items : List Item) :
    (join between items).flatMap write =
      Token.join (between.flatMap write) [] (items.map write) := by
  fun_induction join between items with
  | case1 => rfl
  | case2 item => simp [Token.join]
  | case3 item rest several ih => simp_all [Token.join]

/-- Semicolons between and behind groups are semicolons behind each group. -/
theorem statements_eq (groups : List (List Token)) :
    Expr.statements groups = Token.join [.endLine] [] (groups.map (· ++ [.statementEnd])) := by
  rw [Expr.statements]
  fun_induction Token.join [.statementEnd, .endLine] [.statementEnd] groups with
  | case1 => rfl
  | case2 group => simp [Token.join]
  | case3 group rest several ih =>
    cases rest with
    | nil => exact absurd rfl several
    | cons next others => simp [Token.join, ih]

theorem join_concat (between last : List Token) {groups : List (List Token)} (some : groups ≠ []) :
    Token.join between [] (groups ++ [last]) =
      Token.join between [] groups ++ between ++ last := by
  induction groups with
  | nil => exact absurd rfl some
  | cons group rest ih =>
    cases rest with
    | nil => simp [Token.join]
    | cons next others =>
      have shorter := ih (by simp)
      rw [List.cons_append] at shorter
      simp [Token.join, shorter]

theorem tokens_comp_text : Item.tokens ∘ Item.text = fun value => [.text value] := rfl

theorem tokens_comp_part : Item.tokens ∘ Item.part = Expr.tokens := rfl

theorem tokens_comp_statement :
    Item.tokens ∘ Item.statement = (· ++ [.statementEnd]) ∘ Expr.tokens := rfl

theorem flatMap_text (values : List String) :
    (values.map Item.text).flatMap Item.tokens = values.map .text := by
  induction values with
  | nil => rfl
  | cons value rest ih => simpa using ih

theorem flatMap_listed (items : List Item) :
    (listed items).flatMap Item.tokens = Expr.commaSeparated (items.map Item.tokens) := by
  rw [listed, flatMap_join]
  rfl

theorem flatMap_enclosed (opening : String) (inner : List Item) (closing : String) :
    (enclosed opening inner closing).flatMap Item.tokens =
      Expr.bracketed opening (inner.flatMap Item.tokens) closing := by
  simp [enclosed, Expr.bracketed]

theorem braced_eq (head : List Token) (body : List Expr) :
    Expr.braced head (body.map Expr.tokens) =
      head ++ (braces (body.map .statement)).flatMap Item.tokens := by
  rw [braces, Expr.braced, statements_eq]
  cases body with
  | nil => simp
  | cons expr rest => simp [flatMap_join, tokens_comp_statement]

theorem arm_eq (head : List Token) (body : List Expr) (breaks : Bool) :
    Expr.arm head (body.map Expr.tokens) breaks =
      head ++ (armBody (body.map .statement) breaks).flatMap Item.tokens := by
  rw [armBody, Expr.arm, statements_eq]
  cases breaks with
  | false => simp [flatMap_join, tokens_comp_statement]
  | true =>
    by_cases none : body = []
    · simp [none, Token.join, Item.join]
    · simp [none, flatMap_join, tokens_comp_statement, join_concat]

/-- A frame with its parts rendered in their places is the rendering. -/
theorem tokens_eq (expr : Expr) : expr.tokens = (frame expr).flatMap Item.tokens := by
  cases expr with
  | call callee types args =>
    by_cases none : types = [] <;>
      simp [Expr.tokens, frame, none, flatMap_listed, flatMap_enclosed, Expr.tokensOfEach_eq_map,
        tokens_comp_part]
  | listLit type items =>
    cases type <;>
      simp [Expr.tokens, frame, flatMap_listed, flatMap_enclosed, Expr.tokensOfEach_eq_map,
        tokens_comp_part]
  | mapLit types entries =>
    cases types <;>
      simp [Expr.tokens, frame, flatMap_listed, flatMap_enclosed, Expr.tokensOfEach_eq_map,
        tokens_comp_part]
  | classHead name base interfaces =>
    by_cases none : interfaces = [] <;> cases base <;>
      simp [Expr.tokens, frame, none, flatMap_listed, tokens_comp_text]
  | _ =>
    simp [Expr.tokens, frame, flatMap_listed, flatMap_enclosed, flatMap_text, braced_eq, arm_eq,
      Expr.tokensOfEach_eq_map, tokens_comp_text, tokens_comp_part]

/-! ## The parts in a frame -/

theorem parts_join {between : List Item} (none : between.flatMap Item.parts = [])
    (items : List Item) :
    (join between items).flatMap Item.parts = items.flatMap Item.parts := by
  fun_induction join between items with
  | case1 => rfl
  | case2 item => rfl
  | case3 item rest several ih => simp [none, ih]

theorem parts_text (values : List String) :
    (values.map Item.text).flatMap Item.parts = [] := by
  simp

theorem parts_part (exprs : List Expr) :
    (exprs.map Item.part).flatMap Item.parts = exprs := by
  simp [List.flatMap_map]

theorem parts_statement (exprs : List Expr) :
    (exprs.map Item.statement).flatMap Item.parts = exprs := by
  simp [List.flatMap_map]

theorem parts_braces (statements : List Item) :
    (braces statements).flatMap Item.parts = statements.flatMap Item.parts := by
  cases statements with
  | nil => rfl
  | cons item rest => simp [braces, parts_join]

theorem parts_armBody (statements : List Item) (breaks : Bool) :
    (armBody statements breaks).flatMap Item.parts = statements.flatMap Item.parts := by
  cases breaks <;> simp [armBody, parts_join]

/-- The parts in a frame are those of the construct. -/
theorem parts_eq (expr : Expr) : (frame expr).flatMap Item.parts = parts expr := by
  cases expr with
  | call callee types args =>
    by_cases none : types = [] <;> simp [frame, none, enclosed, listed, parts_join, parts_part]
  | listLit type items => cases type <;> simp [frame, enclosed, listed, parts_join, parts_part]
  | mapLit types entries => cases types <;> simp [frame, enclosed, listed, parts_join, parts_part]
  | classHead name base interfaces =>
    by_cases none : interfaces = [] <;> cases base <;>
      simp [frame, none, listed, parts_join, parts_text]
  | _ =>
    simp [frame, enclosed, listed, parts_join, parts_text, parts_part, parts_statement,
      parts_braces, parts_armBody]

end Recordsmith.Dart
