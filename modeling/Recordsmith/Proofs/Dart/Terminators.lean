/-
# Recordsmith.Proofs.Dart.Terminators — which statements end in a semicolon

A block says behind itself that it needs no semicolon, and whoever lists it as a
statement puts one there all the same: which of them is left is decided only when
the tokens are laid out, with any number of constructs around the block closed in
between. `Expr.endsInBlock` says it of the construct alone: no semicolon is left
behind a construct that ends in a block, however deep the block stands in it
(`suppressedBehind_tokens`).

So what is left of an item of a frame does not depend on what is in front of it
(`Item.dropSuppressed_tokens`), and the tokens that are left of a construct are
again a frame with its parts in their places (`settled_eq`). The semicolons among
them are those behind the statements of a body (`Body.Ends`), of the construct
itself or of one within it.
-/
import Recordsmith.Proofs.Dart.Frame
import Recordsmith.Proofs.Dart.Rendered
import Recordsmith.Proofs.Layout.Suppression

namespace Recordsmith.Dart

open Recordsmith.Layout

set_option autoImplicit false

namespace Expr

/-- A construct that is a block or an arm, or has one as the last that is written of it. -/
def endsInBlock : Expr → Bool
  | .block _ _ | .switch _ _ | .caseArm _ _ _ | .defaultArm _ _ => true
  | .annotated _ last | .arrow _ last | .lambda _ last | .ret last | .raise last
  | .binary _ _ last | .conditional _ _ last | .entry _ last | .spread last
  | .initialised _ _ _ last => endsInBlock last
  | _ => false

/-- The tokens of a construct without the cancelled semicolons. -/
def settled (expr : Expr) : List Token :=
  dropSuppressed false expr.tokens

/-- A construct as a statement: with a semicolon, unless it ends in a block. -/
def terminated (expr : Expr) : List Token :=
  expr.settled ++ if expr.endsInBlock then [] else [.statementEnd]

end Expr

/-- The statements of a block or an arm, and the tokens around them. -/
structure Body where
  opening : List Token
  statements : List Expr
  /-- There is a `break` behind the statements. -/
  breaks : Bool
  closing : List Token

namespace Body

/-- Statements in braces. -/
def braced (head : List Token) (statements : List Expr) : Body where
  opening := head ++ if statements.isEmpty then [.text "\x7b\x7d"] else [.text "\x7b", .indent]
  statements := statements
  breaks := false
  closing := if statements.isEmpty then [] else [.dedent, .text "\x7d"]

/-- The statements of an arm. -/
def arm (head : List Token) (statements : List Expr) (breaks : Bool) : Body where
  opening := head ++ [.noSpaceBefore, .text ":", .indent]
  statements := statements
  breaks := breaks
  closing := [.dedent]

/-- What stands between opening and closing, one statement a line. -/
def lines (body : Body) : List (List Token) :=
  body.statements.map Expr.terminated ++
    if body.breaks then [[.text "break", .statementEnd]] else []

/-- Statements with others on the lines behind them. -/
def lead (statements : List Expr) : List Token :=
  statements.flatMap fun statement => statement.terminated ++ [.endLine]

/-- A semicolon of the body stands behind these tokens: up to the end of a statement that does
not end in a block, or up to the `break`. -/
inductive Ends (body : Body) : List Token → Prop where
  | statement {before after : List Expr} {statement : Expr}
      (split : body.statements = before ++ statement :: after)
      (ended : statement.endsInBlock = false) :
      Ends body (body.opening ++ lead before ++ statement.settled)
  | leave (breaks : body.breaks = true) :
      Ends body (body.opening ++ lead body.statements ++ [.text "break"])

end Body

/-- The body of a block, a switch or an arm. -/
def Expr.body? : Expr → Option Body
  | .block head body => some (.braced head.settled body)
  | .switch subject arms =>
      some (.braced (.text "switch" :: bracketed "(" subject.settled ")") arms)
  | .caseArm pattern body breaks => some (.arm (.text "case" :: pattern.settled) body breaks)
  | .defaultArm body breaks => some (.arm [.text "default"] body breaks)
  | _ => none

/-! ## What is left of a construct -/

theorem suppressedBehind_commaSeparated (values : List String) :
    suppressedBehind false (Expr.commaSeparated (values.map fun value => [.text value])) =
      false := by
  induction values with
  | nil => rfl
  | cons value rest ih =>
    cases rest with
    | nil => rfl
    | cons next others => exact ih

/-- A semicolon behind a construct is cancelled just if the construct ends in a block. -/
theorem suppressedBehind_tokens (expr : Expr) (suppressed : Bool) :
    suppressedBehind suppressed expr.tokens = expr.endsInBlock := by
  induction expr using induction_on_parts generalizing suppressed with
  | step expr ih =>
    -- Only the last tokens count: the mark of a body, those of the last part, or a text.
    cases expr with
    | block | switch | caseArm | defaultArm =>
      simp [tokens_eq, frame, Item.braces, Item.armBody, suppressedAfter, Expr.endsInBlock]
    | annotated | arrow | lambda | ret | raise | binary | conditional | entry | spread
      | initialised => simp_all [Expr.tokens, Expr.endsInBlock, suppressedAfter]
    | classHead name base interfaces =>
      cases base <;> by_cases none : interfaces = [] <;>
        simp [Expr.tokens, Expr.endsInBlock, none, suppressedAfter, suppressedBehind_commaSeparated]
    | _ => simp [tokens_eq, frame, Item.enclosed, suppressedAfter, Expr.endsInBlock]

/-- What is in front of a construct cancels nothing in it. -/
theorem dropSuppressed_tokens (suppressed : Bool) (expr : Expr) :
    dropSuppressed suppressed expr.tokens = expr.settled := by
  obtain ⟨value, rest, -, starts⟩ := expr.rendered.exists_text
  rw [Expr.settled, starts]
  rfl

namespace Item

/-- The tokens that are left of an item. -/
@[simp] def settled : Item → List Token
  | .part expr => expr.settled
  | .statement expr => expr.terminated
  | .unended => []
  | .text value => [.text value]
  | .glue => [.noSpaceBefore]
  | .newLine => [.endLine]
  | .deeper => [.indent]
  | .shallower => [.dedent]
  | .leave => [.text "break", .statementEnd]

theorem dropSuppressed_tokens (suppressed : Bool) (item : Item) :
    dropSuppressed suppressed item.tokens = item.settled := by
  cases item with
  | part expr => exact Dart.dropSuppressed_tokens suppressed expr
  | statement expr =>
    rw [tokens, dropSuppressed_append, Dart.dropSuppressed_tokens, suppressedBehind_tokens]
    rfl
  | text | glue | newLine | deeper | shallower | leave | unended => rfl

end Item

/-- What is left of a construct is its frame with what is left of its parts. -/
theorem settled_eq (expr : Expr) : expr.settled = (frame expr).flatMap Item.settled := by
  have row : ∀ (items : List Item) (suppressed : Bool),
      dropSuppressed suppressed (items.flatMap Item.tokens) = items.flatMap Item.settled := by
    intro items
    induction items with
    | nil => intro suppressed; rfl
    | cons item rest ih =>
      intro suppressed
      rw [List.flatMap_cons, dropSuppressed_append, ih, Item.dropSuppressed_tokens,
        List.flatMap_cons]
  rw [Expr.settled, tokens_eq, row]

theorem Item.exists_settled_eq {item : Item} {part : Expr} (isPart : part ∈ item.parts) :
    ∃ rest, item.settled = part.settled ++ rest := by
  cases item with
  | part expr =>
    rw [List.mem_singleton.1 isPart]
    exact ⟨[], (List.append_nil _).symm⟩
  | statement expr =>
    rw [List.mem_singleton.1 isPart]
    exact ⟨_, rfl⟩
  | text | glue | newLine | deeper | shallower | leave | unended => cases isPart

/-- What is left of a part stands in what is left of the construct. -/
theorem exists_settled_eq {expr part : Expr} {before : List Item} {item : Item}
    (inFrame : before ++ [item] <+: frame expr) (isPart : part ∈ item.parts) :
    part ∈ parts expr ∧
      ∃ behind, expr.settled = before.flatMap Item.settled ++ part.settled ++ behind := by
  constructor
  · rw [← parts_eq]
    exact List.mem_flatMap.2 ⟨item, inFrame.subset (by simp), isPart⟩
  · obtain ⟨rest, written⟩ := Item.exists_settled_eq isPart
    obtain ⟨others, split⟩ := inFrame
    refine ⟨rest ++ others.flatMap Item.settled, ?_⟩
    rw [settled_eq, ← split, List.flatMap_append, List.flatMap_append, List.flatMap_singleton,
      written]
    simp only [List.append_assoc]

theorem Within.settled_infix {inner outer : Expr} (within : Within inner outer) :
    inner.settled <:+: outer.settled := by
  induction within with
  | self => exact List.infix_refl _
  | @part part outer isPart inside ih =>
    rw [← parts_eq] at isPart
    obtain ⟨item, inFrame, inItem⟩ := List.mem_flatMap.1 isPart
    obtain ⟨before, others, split⟩ := List.append_of_mem inFrame
    have place : before ++ [item] <+: frame outer := ⟨others, by simp [split]⟩
    obtain ⟨-, behind, around⟩ := exists_settled_eq place inItem
    exact ih.trans ⟨_, behind, around.symm⟩

/-! ## Bodies -/

namespace Item

/-- An item that is no statement of a body. -/
@[simp] def plain : Item → Bool
  | .statement _ | .leave => false
  | _ => true

theorem all_plain_join {between : List Item} (plain : between.all plain = true)
    (items : List Item) : (join between items).all Item.plain = items.all Item.plain := by
  fun_induction join between items with
  | case1 => rfl
  | case2 item => rfl
  | case3 item rest several ih => simp [plain, ih]

end Item

namespace Body

/-- The items of a body between opening and closing. -/
def items (body : Body) : List Item :=
  body.statements.map .statement ++ if body.breaks then [.leave] else []

/-- A row of items that is a body, with plain items around its own. -/
def Framed (body : Body) (row : List Item) : Prop :=
  ∃ front back, row = front ++ Item.join [.newLine] body.items ++ back ∧
    front.all Item.plain = true ∧ front.flatMap Item.settled = body.opening ∧
    back.all Item.plain = true ∧ back.flatMap Item.settled = body.closing

theorem framed_braces (head : List Item) (plain : head.all Item.plain = true)
    (statements : List Expr) :
    (braced (head.flatMap Item.settled) statements).Framed
      (head ++ Item.braces (statements.map .statement)) := by
  by_cases none : statements = []
  · refine ⟨head ++ [.text "\x7b\x7d"], [.unended], ?_⟩
    simp [none, plain, braced, items, Item.braces, Item.join]
  · refine ⟨head ++ [.text "\x7b", .deeper], [.shallower, .text "\x7d", .unended], ?_⟩
    simp [none, plain, braced, items, Item.braces]

theorem framed_arm (head : List Item) (plain : head.all Item.plain = true)
    (statements : List Expr) (breaks : Bool) :
    (arm (head.flatMap Item.settled) statements breaks).Framed
      (head ++ Item.armBody (statements.map .statement) breaks) := by
  refine ⟨head ++ [.glue, .text ":", .deeper], [.shallower, .unended], ?_⟩
  cases breaks <;> simp [plain, arm, items, Item.armBody]

end Body

/-- The frame of a construct with a body is the body. -/
theorem framed_of_body? {expr : Expr} {body : Body} (has : expr.body? = some body) :
    body.Framed (frame expr) := by
  cases expr with
  | block head statements =>
    cases has
    simpa [frame] using Body.framed_braces [.part head] rfl statements
  | switch subject arms =>
    cases has
    simpa [frame, Expr.bracketed, Item.enclosed] using
      Body.framed_braces (.text "switch" :: Item.enclosed "(" [.part subject] ")") rfl arms
  | caseArm pattern statements breaks =>
    cases has
    simpa [frame] using Body.framed_arm [.text "case", .part pattern] rfl statements breaks
  | defaultArm statements breaks =>
    cases has
    simpa [frame] using Body.framed_arm [.text "default"] rfl statements breaks
  | _ => cases has

/-- A construct without a body has no statements. -/
theorem all_plain_frame {expr : Expr} (none : expr.body? = none) :
    (frame expr).all Item.plain = true := by
  cases expr with
  | block | switch | caseArm | defaultArm => cases none
  | call callee types args =>
    by_cases untyped : types = [] <;>
      simp [frame, untyped, Item.enclosed, Item.listed, Item.all_plain_join]
  | classHead name base interfaces =>
    by_cases alone : interfaces = [] <;>
      simp [frame, alone, Item.listed, Item.all_plain_join]
  | _ => simp [frame, Item.enclosed, Item.listed, Item.all_plain_join]

/-- What is left of a construct with a body. -/
theorem settled_of_body? {expr : Expr} {body : Body} (has : expr.body? = some body) :
    expr.settled = body.opening ++ Token.join [.endLine] [] body.lines ++ body.closing := by
  obtain ⟨front, back, split, -, opens, -, closes⟩ := framed_of_body? has
  have lines : body.items.map Item.settled = body.lines := by
    cases breaks : body.breaks <;> simp [Body.items, Body.lines, breaks]
  rw [settled_eq, split, List.flatMap_append, List.flatMap_append, opens, closes, flatMap_join,
    lines]
  rfl

/-! ## Places of semicolons -/

section Places

variable {α β : Type}

/-- A place in two lists in a row is one in the first or in the second. -/
theorem concat_prefix_append_iff {front first second : List α} {last : α} :
    front ++ [last] <+: first ++ second ↔
      front ++ [last] <+: first ∨ ∃ later, front = first ++ later ∧ later ++ [last] <+: second := by
  constructor
  · intro place
    rcases List.prefix_or_prefix_of_prefix place (List.prefix_append first second) with
      inFirst | beyond
    · exact .inl inFirst
    · rcases List.prefix_concat_iff.1 beyond with whole | ⟨later, rfl⟩
      · exact .inl (whole ▸ List.prefix_refl _)
      · rw [List.append_assoc, List.prefix_append_right_inj] at place
        exact .inr ⟨later, rfl, place⟩
  · rintro (inFirst | ⟨later, rfl, inSecond⟩)
    · exact inFirst.trans (List.prefix_append first second)
    · rw [List.append_assoc, List.prefix_append_right_inj]
      exact inSecond

theorem concat_prefix_singleton_iff {front : List α} {last item : α} :
    front ++ [last] <+: [item] ↔ front = [] ∧ last = item := by
  cases front <;> simp

theorem exists_of_concat_prefix_flatMap {write : α → List β} {items : List α} {front : List β}
    {last : β} (place : front ++ [last] <+: items.flatMap write) :
    ∃ before item inner, before ++ [item] <+: items ∧ front = before.flatMap write ++ inner ∧
      inner ++ [last] <+: write item := by
  induction items generalizing front with
  | nil => simp at place
  | cons first rest ih =>
    rw [List.flatMap_cons] at place
    rcases concat_prefix_append_iff.1 place with inFirst | ⟨later, rfl, inRest⟩
    · exact ⟨[], first, front, by simp, rfl, inFirst⟩
    · obtain ⟨before, item, inner, inItems, rfl, inItem⟩ := ih inRest
      exact ⟨first :: before, item, inner, by simpa using inItems, by simp, inItem⟩

theorem exists_of_concat_prefix_join {between items front : List Item} {last : Item}
    (place : front ++ [last] <+: Item.join between items) (other : last ∉ between) :
    ∃ before, before ++ [last] <+: items ∧ front = before.flatMap (· :: between) := by
  induction items generalizing front with
  | nil => simp [Item.join] at place
  | cons first rest ih =>
    have here : front ++ [last] <+: [first] →
        ∃ before, before ++ [last] <+: first :: rest ∧ front = before.flatMap (· :: between) := by
      intro inFirst
      obtain ⟨rfl, rfl⟩ := concat_prefix_singleton_iff.1 inFirst
      exact ⟨[], by simp, rfl⟩
    cases rest with
    | nil => exact here place
    | cons next others =>
      have row : Item.join between (first :: next :: others) =
          [first] ++ (between ++ Item.join between (next :: others)) := rfl
      rw [row] at place
      rcases concat_prefix_append_iff.1 place with inFirst | ⟨later, rfl, beyond⟩
      · exact here inFirst
      · rcases concat_prefix_append_iff.1 beyond with inBetween | ⟨later, rfl, inRest⟩
        · exact absurd (inBetween.subset (by simp)) other
        · obtain ⟨before, inItems, rfl⟩ := ih inRest
          exact ⟨first :: before, by simpa using inItems, by simp⟩

theorem prefix_join (between : List Token) (front : List (List Token)) (group : List Token)
    (back : List (List Token)) :
    front.flatMap (· ++ between) ++ group <+: Token.join between [] (front ++ group :: back) := by
  induction front with
  | nil => cases back <;> simp [Token.join]
  | cons first rest ih =>
    have longer : Token.join between [] (first :: rest ++ group :: back) =
        first ++ between ++ Token.join between [] (rest ++ group :: back) := by
      cases rest <;> rfl
    rw [longer, List.flatMap_cons, List.append_assoc _ _ group, List.prefix_append_right_inj]
    exact ih

end Places

namespace Body

/-- Where a statement or the `break` stands in a row of items that is a body. -/
theorem Framed.exists_place {body : Body} {row front : List Item} {item : Item}
    (framed : body.Framed row) (place : front ++ [item] <+: row) (unit : item.plain = false) :
    ∃ before, before ++ [item] <+: body.items ∧
      front.flatMap Item.settled =
        body.opening ++ before.flatMap fun item => item.settled ++ [.endLine] := by
  obtain ⟨opening, closing, rfl, plainOpening, opens, plainClosing, -⟩ := framed
  have elsewhere : ∀ {plain front : List Item}, plain.all Item.plain = true →
      ¬ front ++ [item] <+: plain := by
    intro plain front all within
    have itemPlain := List.all_eq_true.1 all item (within.subset (by simp))
    rw [unit] at itemPlain
    cases itemPlain
  rcases concat_prefix_append_iff.1 place with inFront | ⟨later, -, inClosing⟩
  · rcases concat_prefix_append_iff.1 inFront with inOpening | ⟨later, rfl, inItems⟩
    · exact absurd inOpening (elsewhere plainOpening)
    · have other : item ∉ [Item.newLine] := by
        intro member
        rw [List.mem_singleton.1 member] at unit
        cases unit
      obtain ⟨before, within, rfl⟩ := exists_of_concat_prefix_join inItems other
      refine ⟨before, within, ?_⟩
      rw [List.flatMap_append, opens, List.flatMap_assoc]
      simp
  · exact absurd inClosing (elsewhere plainClosing)

theorem ends_of_statement {body : Body} {before : List Item} {statement : Expr}
    (place : before ++ [.statement statement] <+: body.items)
    (ended : statement.endsInBlock = false) :
    body.Ends (body.opening ++ (before.flatMap fun item => item.settled ++ [.endLine]) ++
      statement.settled) := by
  rcases concat_prefix_append_iff.1 place with ⟨rest, split⟩ | ⟨later, -, inBreak⟩
  · rw [List.append_assoc, List.singleton_append] at split
    obtain ⟨first, others, whole, rfl, mapped⟩ := List.map_eq_append_iff.1 split.symm
    obtain ⟨same, after, rfl, isSame, -⟩ := List.map_eq_cons_iff.1 mapped
    cases isSame
    simpa [lead, List.flatMap_map] using Ends.statement whole ended
  · cases breaks : body.breaks <;> simp [breaks, concat_prefix_singleton_iff] at inBreak

theorem ends_of_leave {body : Body} {before : List Item}
    (place : before ++ [.leave] <+: body.items) :
    body.Ends (body.opening ++ (before.flatMap fun item => item.settled ++ [.endLine]) ++
      [.text "break"]) := by
  rcases concat_prefix_append_iff.1 place with inStatements | ⟨later, rfl, inBreak⟩
  · have member := inStatements.subset (List.mem_append_right before (List.mem_singleton_self _))
    simp at member
  · cases breaks : body.breaks with
    | false => simp [breaks] at inBreak
    | true =>
      simp only [breaks, if_true, concat_prefix_singleton_iff] at inBreak
      obtain ⟨rfl, -⟩ := inBreak
      simpa [lead, List.flatMap_map] using Ends.leave breaks

theorem Ends.place {body : Body} {front : List Token} (ends : body.Ends front) :
    front ++ [.statementEnd] <+:
      body.opening ++ Token.join [.endLine] [] body.lines ++ body.closing := by
  have placed : ∀ {before after : List (List Token)} {group : List Token},
      body.lines = before ++ (group ++ [.statementEnd]) :: after →
      body.opening ++ before.flatMap (· ++ [.endLine]) ++ group ++ [.statementEnd] <+:
        body.opening ++ Token.join [.endLine] [] body.lines ++ body.closing := by
    intro before after group split
    rw [List.append_assoc, List.append_assoc, List.append_assoc, List.prefix_append_right_inj,
      split]
    exact (prefix_join _ before _ after).trans (List.prefix_append _ _)
  cases ends with
  | @statement before after statement split ended =>
    have lines : body.lines =
        before.map Expr.terminated ++ (statement.settled ++ [.statementEnd]) ::
          (after.map Expr.terminated ++
            if body.breaks then [[.text "break", .statementEnd]] else []) := by
      simp [lines, split, Expr.terminated, ended]
    simpa [lead, List.flatMap_map] using placed lines
  | leave breaks =>
    have lines : body.lines =
        body.statements.map Expr.terminated ++ ([.text "break"] ++ [.statementEnd]) :: [] := by
      simp [Body.lines, breaks]
    simpa [lead, List.flatMap_map] using placed lines

end Body

/-- A statement or `break` in the frame of a construct is one of its body. -/
theorem exists_body_of_place {expr : Expr} {before : List Item} {item : Item}
    (inFrame : before ++ [item] <+: frame expr) (unit : item.plain = false) :
    ∃ body, expr.body? = some body ∧ ∃ ahead, ahead ++ [item] <+: body.items ∧
      before.flatMap Item.settled =
        body.opening ++ ahead.flatMap fun item => item.settled ++ [.endLine] := by
  cases has : expr.body? with
  | none =>
    have plain := List.all_eq_true.1 (all_plain_frame has) item (inFrame.subset (by simp))
    rw [unit] at plain
    cases plain
  | some body => exact ⟨body, rfl, (framed_of_body? has).exists_place inFrame unit⟩

/-- A semicolon is one of the construct itself or one of a part. -/
theorem ends_or_part {expr : Expr} {front : List Token}
    (place : front ++ [.statementEnd] <+: expr.settled) :
    (∃ body, expr.body? = some body ∧ body.Ends front) ∨
      ∃ part ∈ parts expr, ∃ before behind inner,
        expr.settled = before ++ part.settled ++ behind ∧ front = before ++ inner ∧
          inner ++ [.statementEnd] <+: part.settled := by
  rw [settled_eq] at place
  obtain ⟨before, item, inner, inFrame, rfl, inItem⟩ := exists_of_concat_prefix_flatMap place
  have nested : ∀ part ∈ item.parts, inner ++ [.statementEnd] <+: part.settled →
      ∃ part ∈ parts expr, ∃ ahead behind inner',
        expr.settled = ahead ++ part.settled ++ behind ∧
          before.flatMap Item.settled ++ inner = ahead ++ inner' ∧
          inner' ++ [.statementEnd] <+: part.settled := by
    intro part isPart inPart
    obtain ⟨member, behind, around⟩ := exists_settled_eq inFrame isPart
    exact ⟨part, member, _, behind, inner, around, rfl, inPart⟩
  cases item with
  | part part => exact .inr (nested part (List.mem_singleton_self part) inItem)
  | statement statement =>
    rcases concat_prefix_append_iff.1 inItem with inStatement | ⟨later, rfl, atEnd⟩
    · exact .inr (nested statement (List.mem_singleton_self statement) inStatement)
    · cases ended : statement.endsInBlock with
      | true => simp [ended] at atEnd
      | false =>
        rw [ended] at atEnd
        obtain ⟨rfl, -⟩ := concat_prefix_singleton_iff.1 atEnd
        obtain ⟨body, has, ahead, inItems, reached⟩ := exists_body_of_place inFrame rfl
        refine .inl ⟨body, has, ?_⟩
        rw [reached, List.append_nil]
        exact Body.ends_of_statement inItems ended
  | leave =>
    obtain ⟨body, has, ahead, inItems, reached⟩ := exists_body_of_place inFrame rfl
    have atBreak : inner ++ [.statementEnd] <+: [.text "break"] ++ [.statementEnd] := inItem
    rcases concat_prefix_append_iff.1 atBreak with inBreak | ⟨later, rfl, atEnd⟩
    · cases (concat_prefix_singleton_iff.1 inBreak).2
    · obtain ⟨rfl, -⟩ := concat_prefix_singleton_iff.1 atEnd
      refine .inl ⟨body, has, ?_⟩
      rw [reached, List.append_nil]
      exact Body.ends_of_leave inItems
  | text | glue | newLine | deeper | shallower | unended =>
    simp [concat_prefix_singleton_iff] at inItem

/-- Semicolons are exact. What is left of a block, a switch or an arm has a semicolon behind each
statement that does not end in a block, none behind the others and one behind a `break`. It stands
in what is left of any construct around it, and no construct has a semicolon but those of such
bodies within it. -/
theorem semicolons_exact :
    (∀ (expr : Expr) (body : Body), expr.body? = some body →
      expr.settled = body.opening ++ Token.join [.endLine] [] body.lines ++ body.closing) ∧
    (∀ inner outer : Expr, Within inner outer → inner.settled <:+: outer.settled) ∧
    ∀ (expr : Expr) (front : List Token), front ++ [.statementEnd] <+: expr.settled ↔
      ∃ inner body before behind ahead, Within inner expr ∧ inner.body? = some body ∧
        expr.settled = before ++ inner.settled ++ behind ∧ front = before ++ ahead ∧
          body.Ends ahead := by
  refine ⟨fun _ _ => settled_of_body?, fun _ _ => Within.settled_infix, fun expr front => ⟨?_, ?_⟩⟩
  · intro place
    induction expr using induction_on_parts generalizing front with
    | step expr ih =>
      rcases ends_or_part place with ⟨body, has, ends⟩ |
        ⟨part, isPart, before, behind, ahead, around, rfl, inPart⟩
      · exact ⟨expr, body, [], [], front, .self expr, has, by simp, rfl, ends⟩
      · obtain ⟨inner, body, first, last, rest, within, has, split, rfl, ends⟩ :=
          ih part isPart ahead inPart
        refine ⟨inner, body, before ++ first, last ++ behind, rest, .part isPart within, has, ?_,
          ?_, ends⟩
        · rw [around, split]
          simp only [List.append_assoc]
        · rw [List.append_assoc]
  · rintro ⟨inner, body, before, behind, ahead, -, has, around, rfl, ends⟩
    rw [around, List.append_assoc, List.append_assoc, List.prefix_append_right_inj,
      settled_of_body? has]
    exact ends.place.trans (List.prefix_append _ _)

/-- An arm with a block and a `break`, in a switch, in a block. -/
def trotting : Expr :=
  .caseArm (.ident "trot") [.block (.ident "if (tired)") []] true

def riding : Expr :=
  .block (.ident "ride()") [.switch (.ident "gait") [trotting], .ret (.ident "gait")]

theorem semicolons_exact_riding :
    trotting.settled =
      [.text "case", .text "trot", .noSpaceBefore, .text ":", .indent, .text "if (tired)",
        .text "\x7b\x7d", .endLine, .text "break", .statementEnd, .dedent] ∧
    trotting.settled <:+: riding.settled ∧
    ∃ inner body before behind ahead, Within inner riding ∧ inner.body? = some body ∧
      riding.settled = before ++ inner.settled ++ behind ∧
      riding.settled.dropLast.dropLast.dropLast = before ++ ahead ∧ body.Ends ahead :=
  ⟨semicolons_exact.1 trotting _ rfl,
    semicolons_exact.2.1 trotting riding
      (.part (.tail _ (.head _)) (.part (.tail _ (.head _)) (.self trotting))),
    (semicolons_exact.2.2 riding _).1 ⟨[.dedent, .text "\x7d"], rfl⟩⟩

end Recordsmith.Dart
