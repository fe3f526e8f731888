/-
# Recordsmith.Proofs.Dart.Rendered — the grammar of rendered constructs

The tokens of every construct are put together in few ways: texts, one behind the
other, markers behind them, an annotation on a line of its own, and bodies one
level deeper. `Rendered Q` is the grammar, for sequences all of whose texts are
in a class `Q`. A construct is in it if the strings stored in it are in `Q`
(`rendered_tokens`), provided that `Q` holds of what rendering itself writes
(`TextClass Q`).

What follows from the grammar needs no look at constructs: rendered tokens are
level, start with a text, and are led.
-/
import Recordsmith.Dart.Render
import Recordsmith.Proofs.Dart.Everywhere
import Recordsmith.Proofs.Layout.Nesting

namespace Recordsmith.Dart

open Recordsmith.Layout

set_option autoImplicit false

/-- Token sequences with texts in a class, as constructs are rendered to them. -/
inductive Rendered (Q : String → Prop) : List Token → Prop where
  | text {value : String} (inClass : Q value) : Rendered Q [.text value]
  | append {front back : List Token} (first : Rendered Q front) (second : Rendered Q back) :
      Rendered Q (front ++ back)
  | mark {front : List Token} {token : Token} (first : Rendered Q front)
      (marks : token ∈ [Token.noSpaceBefore, .statementEnd, .noStatementEnd]) :
      Rendered Q (front ++ [token])
  | newLine {front back : List Token} (first : Rendered Q front) (second : Rendered Q back) :
      Rendered Q (front ++ .endLine :: back)
  | nested {head body : List Token} (first : Rendered Q head) (inner : Rendered Q body) :
      Rendered Q (head ++ (.indent :: body ++ [.dedent]))
  | hollow {head : List Token} (first : Rendered Q head) :
      Rendered Q (head ++ [.indent, .dedent])

namespace Rendered

variable {Q : String → Prop} {tokens : List Token}

theorem level (rendered : Rendered Q tokens) : Level tokens := by
  induction rendered with
  | text inClass => exact .singleton fun _ => rfl
  | append first second front back => exact front.append back
  | mark first marks front =>
    refine front.append (.singleton fun depth => ?_)
    simp only [List.mem_cons, List.not_mem_nil, or_false] at marks
    rcases marks with rfl | rfl | rfl <;> rfl
  | newLine first second front back =>
    exact front.append ((Level.singleton fun _ => rfl).append back)
  | nested first inner head body => exact head.append body.enclosed
  | hollow first head => exact head.append Level.nil.enclosed

theorem texts (rendered : Rendered Q tokens) {value : String} (member : .text value ∈ tokens) :
    Q value := by
  induction rendered with
  | text inClass =>
    cases List.mem_singleton.1 member
    exact inClass
  | append first second front back => exact (List.mem_append.1 member).elim front back
  | mark first marks front =>
    rcases List.mem_append.1 member with inFront | last
    · exact front inFront
    · rw [← List.mem_singleton.1 last] at marks
      exact absurd marks (by simp)
  | newLine first second front back =>
    rw [List.mem_append, List.mem_cons] at member
    rcases member with inFront | same | inBack
    · exact front inFront
    · cases same
    · exact back inBack
  | nested first inner head body => 
    simp only [List.mem_append, List.mem_cons, List.not_mem_nil, or_false, reduceCtorEq,
      false_or] at member
    exact member.elim head body
  | hollow first head =>
    simp only [List.mem_append, List.mem_cons, List.not_mem_nil, or_false, reduceCtorEq] at member
    exact head member

theorem exists_text (rendered : Rendered Q tokens) :
    ∃ value rest, Q value ∧ tokens = .text value :: rest := by
  have longer : ∀ {front : List Token} (back : List Token),
      (∃ value rest, Q value ∧ front = .text value :: rest) →
      ∃ value rest, Q value ∧ front ++ back = .text value :: rest := by
    rintro _ back ⟨value, rest, inClass, rfl⟩
    exact ⟨value, rest ++ back, inClass, rfl⟩
  induction rendered with
  | text inClass => exact ⟨_, [], inClass, rfl⟩
  | append first second front back => exact longer _ front
  | mark first marks front => exact longer _ front
  | newLine first second front back => exact longer _ front
  | nested first inner head body => exact longer _ head
  | hollow first head => exact longer _ head

theorem opens (rendered : Rendered Q tokens) (filled : ∀ value, Q value → value ≠ "") :
    Opens tokens := by
  obtain ⟨value, rest, inClass, rfl⟩ := rendered.exists_text
  exact ⟨value, rest, filled value inClass, rfl⟩

theorem led (rendered : Rendered Q tokens) (filled : ∀ value, Q value → value ≠ "") :
    Led tokens := by
  induction rendered with
  | text inClass => trivial
  | append first second front back => exact front.append back
  | mark first marks front =>
    refine front.append (.of_not_mem fun ends => ?_)
    rw [← List.mem_singleton.1 ends] at marks
    exact absurd marks (by simp)
  | newLine first second front back => exact front.append ⟨second.opens filled, back⟩
  | nested first inner head body =>
    have inside : Led (.indent :: _) := body
    exact head.append (inside.append (.of_not_mem (by decide)))
  | hollow first head => exact head.append (.of_not_mem (by decide))

/-! ## Putting together -/

theorem texts_map {values : List String} (some : values ≠ [])
    (inClass : ∀ value ∈ values, Q value) :
    Rendered Q (values.map .text) := by
  induction values with
  | nil => exact absurd rfl some
  | cons value rest ih =>
    rw [List.forall_mem_cons] at inClass
    by_cases last : rest = []
    · subst last
      exact .text inClass.1
    · exact (Rendered.text inClass.1).append (ih last inClass.2)

theorem glue (rendered : Rendered Q tokens) : Rendered Q (tokens ++ [.noSpaceBefore]) :=
  rendered.mark (by simp)

/-- Groups with tokens between them that a rendered group may stand behind. -/
theorem join {delimiter last : List Token}
    (between : ∀ {front back}, Rendered Q front → Rendered Q back →
      Rendered Q (front ++ delimiter ++ back))
    (behind : ∀ {front}, Rendered Q front → Rendered Q (front ++ last))
    {groups : List (List Token)} (some : groups ≠ []) (each : ∀ group ∈ groups, Rendered Q group) :
    Rendered Q (Token.join delimiter last groups) := by
  induction groups with
  | nil => exact absurd rfl some
  | cons group rest ih =>
    rw [List.forall_mem_cons] at each
    cases rest with
    | nil => exact behind each.1
    | cons next others => exact between each.1 (ih (by simp) each.2)

end Rendered

/-! ## Constructs -/

/-- The fixed texts of rendering. -/
def symbols : List String :=
  ["(", ")", "[", "]", "\x7b", "\x7d", "\x7b\x7d", ",", ".", "?.", "!", "?", ":", "...", "=>", "=",
    "==", "&&", "is", "as", "get", "class", "extends", "implements", "switch", "case", "default",
    "break", "return", "throw"]

/-- A class of texts that has all that rendering writes besides the strings of a construct. -/
structure TextClass (Q : String → Prop) : Prop where
  symbol : ∀ value ∈ symbols, Q value
  quoted : ∀ value, Q (quote value)
  typeArguments : ∀ types, (∀ type ∈ types, Q type) → Q (Expr.typeArguments types)
  label : ∀ label, Q label → Q ("@" ++ label)

namespace Expr

/-- The strings that a construct itself stores are in a class, those of literals apart. -/
@[simp] def OwnStrings (Q : String → Prop) : Expr → Prop
  | .ident name => Q name
  | .call _ types _ => ∀ type ∈ types, Q type
  | .member _ name _ => Q name
  | .listLit type _ => ∀ element ∈ type, Q element
  | .mapLit types _ => ∀ pair ∈ types, Q pair.1 ∧ Q pair.2
  | .lambda params _ => ∀ param ∈ params, Q param
  | .getter modifiers result name =>
      (∀ modifier ∈ modifiers, Q modifier) ∧ (∀ type ∈ result, Q type) ∧ Q name
  | .signature modifiers result name _ =>
      (∀ modifier ∈ modifiers, Q modifier) ∧ (∀ type ∈ result, Q type) ∧ Q name
  | .classHead name base interfaces =>
      Q name ∧ (∀ type ∈ base, Q type) ∧ ∀ interface ∈ interfaces, Q interface
  | .declaration modifiers type name =>
      (∀ modifier ∈ modifiers, Q modifier) ∧ Q type ∧ Q name
  | .initialised modifiers type name _ =>
      (∀ modifier ∈ modifiers, Q modifier) ∧ Q type ∧ Q name
  | .annotated label _ => Q label
  | _ => True

variable {Q : String → Prop}

theorem rendered_symbol (texts : TextClass Q) {value : String} (fixed : value ∈ symbols) :
    Rendered Q [.text value] :=
  .text (texts.symbol value fixed)

theorem rendered_commaSeparated (texts : TextClass Q) {groups : List (List Token)}
    (some : groups ≠ []) (each : ∀ group ∈ groups, Rendered Q group) :
    Rendered Q (commaSeparated groups) := by
  have comma := rendered_symbol texts (show "," ∈ symbols by decide)
  refine Rendered.join ?_ ?_ some each
  · intro front back first second
    simpa using (first.glue.append comma).append second
  · intro front first
    rwa [List.append_nil]

theorem rendered_statements {groups : List (List Token)} (some : groups ≠ [])
    (each : ∀ group ∈ groups, Rendered Q group) : Rendered Q (statements groups) := by
  refine Rendered.join ?_ ?_ some each
  · intro front back first second
    have ended : Rendered Q (front ++ [.statementEnd]) := first.mark (by simp)
    simpa using ended.newLine second
  · intro front first
    exact first.mark (by simp)

theorem rendered_bracketed (texts : TextClass Q) {opening closing : String}
    (opens : opening ∈ symbols) (closes : closing ∈ symbols) {inner : List Token}
    (within : inner = [] ∨ Rendered Q inner) : Rendered Q (bracketed opening inner closing) := by
  have front : Rendered Q [.text opening, .noSpaceBefore] := (rendered_symbol texts opens).glue
  have back := rendered_symbol texts closes
  rcases within with rfl | rendered
  · exact front.glue.append back
  · simpa [bracketed] using (front.append rendered).glue.append back

theorem rendered_list (texts : TextClass Q) {opening closing : String}
    (opens : opening ∈ symbols) (closes : closing ∈ symbols) {groups : List (List Token)}
    (each : ∀ group ∈ groups, Rendered Q group) :
    Rendered Q (bracketed opening (commaSeparated groups) closing) := by
  apply rendered_bracketed texts opens closes
  by_cases none : groups = []
  · subst none
    exact .inl rfl
  · exact .inr (rendered_commaSeparated texts none each)

theorem rendered_braced (texts : TextClass Q) {head : List Token} (first : Rendered Q head)
    {groups : List (List Token)} (each : ∀ group ∈ groups, Rendered Q group) :
    Rendered Q (braced head groups) := by
  have opening := rendered_symbol texts (show "\x7b" ∈ symbols by decide)
  have closing := rendered_symbol texts (show "\x7d" ∈ symbols by decide)
  have closed := rendered_symbol texts (show "\x7b\x7d" ∈ symbols by decide)
  rw [braced]
  refine Rendered.mark ?_ (by simp)
  split
  · exact first.append closed
  · next some =>
    have inner := rendered_statements (by simpa using some) each
    simpa using ((first.append opening).nested inner).append closing

theorem rendered_arm (texts : TextClass Q) {head : List Token} (first : Rendered Q head)
    {groups : List (List Token)} (each : ∀ group ∈ groups, Rendered Q group) (breaks : Bool) :
    Rendered Q (arm head groups breaks) := by
  have colon := rendered_symbol texts (show ":" ∈ symbols by decide)
  have leaving : Rendered Q [.text "break", .statementEnd] :=
    (rendered_symbol texts (show "break" ∈ symbols by decide)).mark (by simp)
  have headed : Rendered Q (head ++ [.noSpaceBefore] ++ [.text ":"]) := first.glue.append colon
  have marked : ∀ {tokens}, Rendered Q tokens → Rendered Q (tokens ++ [.noStatementEnd]) :=
    fun rendered => rendered.mark (by simp)
  by_cases none : groups = []
  · subst none
    cases breaks with
    | true => simpa [arm, statements, Token.join] using marked (headed.nested leaving)
    | false => simpa [arm, statements, Token.join] using marked headed.hollow
  · have inner := rendered_statements none each
    cases breaks with
    | true => simpa [arm, none] using marked (headed.nested (inner.newLine leaving))
    | false => simpa [arm] using marked (headed.nested inner)

theorem rendered_each {values : List String} (inClass : ∀ value ∈ values, Q value) :
    ∀ group ∈ values.map fun value => [Token.text value], Rendered Q group := by
  rw [List.forall_mem_map]
  intro value member
  exact .text (inClass value member)

/-- Texts in a row, the last of them given apart. -/
theorem rendered_row (values : List String) (last : String) (inClass : ∀ value ∈ values, Q value)
    (lastInClass : Q last) : Rendered Q (values.map .text ++ [.text last]) := by
  have row : Rendered Q ((values ++ [last]).map .text) := by
    apply Rendered.texts_map (by simp)
    simpa [or_imp, forall_and] using ⟨inClass, lastInClass⟩
  simpa using row

mutual

/-- The tokens of a construct are rendered, with texts in the class of its strings. -/
theorem rendered_tokens (texts : TextClass Q) :
    ∀ expr : Expr, Everywhere (OwnStrings Q) expr → Rendered Q (tokens expr)
  | .ident name, own => .text own
  | .str value, _ => .text (texts.quoted value)
  | .call callee types args, own => by
    have called := rendered_tokens texts callee own.2.1
    have list := rendered_list texts (show "(" ∈ symbols by decide) (show ")" ∈ symbols by decide)
      (rendered_tokensOfEach texts args own.2.2)
    rw [tokens]
    split
    · simpa using called.glue.append list
    · have applied := called.glue.append (.text (texts.typeArguments types own.1))
      simpa using applied.glue.append list
  | .index target position, own => by
    have front := rendered_tokens texts target own.2.1
    have inner := rendered_tokens texts position own.2.2
    simpa [tokens] using front.glue.append (rendered_bracketed texts
      (show "[" ∈ symbols by decide) (show "]" ∈ symbols by decide) (.inr inner))
  | .member target name nullSafe, own => by
    have front := rendered_tokens texts target own.2
    have dot : Rendered Q [.text (if nullSafe then "?." else ".")] := by
      cases nullSafe with
      | true => exact rendered_symbol texts (by decide)
      | false => exact rendered_symbol texts (by decide)
    simpa [tokens] using (front.glue.append dot).glue.append (.text own.1)
  | .bang operand, own => by
    have front := rendered_tokens texts operand own.2
    simpa [tokens] using front.glue.append (rendered_symbol texts (show "!" ∈ symbols by decide))
  | .binary op left right, own => by
    have symbol : Rendered Q [.text op.symbol] := by
      cases op with
      | equals | conjunction | isType | asType | assignment =>
        exact rendered_symbol texts (by decide)
    have first := rendered_tokens texts left own.2.1
    have second := rendered_tokens texts right own.2.2
    exact first.append (symbol.append second)
  | .conditional condition positive negative, own => by
    have first := rendered_tokens texts condition own.2.1
    have second := rendered_tokens texts positive own.2.2.1
    have third := rendered_tokens texts negative own.2.2.2
    have query := rendered_symbol texts (show "?" ∈ symbols by decide)
    have colon := rendered_symbol texts (show ":" ∈ symbols by decide)
    simpa [tokens] using ((first.append query).append second).append (colon.append third)
  | .paren inner, own =>
    rendered_bracketed texts (by decide) (by decide) (.inr (rendered_tokens texts inner own.2))
  | .listLit type items, own => by
    have list := rendered_list texts (show "[" ∈ symbols by decide) (show "]" ∈ symbols by decide)
      (rendered_tokensOfEach texts items own.2)
    cases type with
    | none => exact list
    | some element =>
      have typed : Q (typeArguments [element]) :=
        texts.typeArguments _ (by simpa using own.1 element rfl)
      exact (Rendered.text typed).glue.append list
  | .mapLit types entries, own => by
    have list := rendered_list texts (show "\x7b" ∈ symbols by decide)
      (show "\x7d" ∈ symbols by decide) (rendered_tokensOfEach texts entries own.2)
    cases types with
    | none => exact list
    | some pair =>
      have typed : Q (typeArguments [pair.1, pair.2]) :=
        texts.typeArguments _ (by simpa using own.1 pair rfl)
      exact (Rendered.text typed).glue.append list
  | .entry key value, own => by
    have first := rendered_tokens texts key own.2.1
    have second := rendered_tokens texts value own.2.2
    have colon := rendered_symbol texts (show ":" ∈ symbols by decide)
    simpa [tokens] using (first.glue.append colon).append second
  | .spread operand, own =>
    (rendered_symbol texts (show "..." ∈ symbols by decide)).glue.append
      (rendered_tokens texts operand own.2)
  | .lambda params body, own => by
    have list := rendered_list texts (show "(" ∈ symbols by decide) (show ")" ∈ symbols by decide)
      (rendered_each own.1)
    have arrow := rendered_symbol texts (show "=>" ∈ symbols by decide)
    exact list.append (arrow.append (rendered_tokens texts body own.2))
  | .getter modifiers result name, own => by
    have row := rendered_row (modifiers ++ result.toList ++ ["get"]) name
      (by simpa [or_imp, forall_and] using
        ⟨own.1, own.2.1, texts.symbol "get" (by decide)⟩) own.2.2
    simpa [tokens] using row
  | .signature modifiers result name params, own => by
    have row := rendered_row (modifiers ++ result.toList) name
      (by simpa [or_imp, forall_and] using ⟨own.1.1, own.1.2.1⟩) own.1.2.2
    have list := rendered_list texts (show "(" ∈ symbols by decide) (show ")" ∈ symbols by decide)
      (rendered_tokensOfEach texts params own.2)
    simpa [tokens] using row.glue.append list
  | .arrow head body, own => by
    have arrow := rendered_symbol texts (show "=>" ∈ symbols by decide)
    have first := rendered_tokens texts head own.2.1
    exact first.append (arrow.append (rendered_tokens texts body own.2.2))
  | .block head body, own =>
    rendered_braced texts (rendered_tokens texts head own.2.1)
      (rendered_tokensOfEach texts body own.2.2)
  | .classHead name base interfaces, own => by
    have headed : Rendered Q [.text "class", .text name] :=
      (rendered_symbol texts (by decide)).append (.text own.1)
    have listed : ∀ front, Rendered Q front → Rendered Q (front ++
        if interfaces.isEmpty then []
        else .text "implements" ::
          commaSeparated (interfaces.map fun interface => [.text interface])) := by
      intro front first
      split
      · rwa [List.append_nil]
      · next several =>
        have implementing := rendered_symbol texts (show "implements" ∈ symbols by decide)
        have list := rendered_commaSeparated texts (by simpa using several) (rendered_each own.2.2)
        exact first.append (implementing.append list)
    cases base with
    | none => exact listed _ headed
    | some type =>
      have extending := rendered_symbol texts (show "extends" ∈ symbols by decide)
      exact listed _ (headed.append (extending.append (.text (own.2.1 type rfl))))
  | .declaration modifiers type name, own => by
    have row := rendered_row (modifiers ++ [type]) name
      (by simpa [or_imp, forall_and] using ⟨own.1, own.2.1⟩) own.2.2
    simpa [tokens] using row
  | .initialised modifiers type name init, own => by
    have row := rendered_row (modifiers ++ [type, name]) "="
      (by simpa [or_imp, forall_and] using own.1) (texts.symbol "=" (by decide))
    simpa [tokens] using row.append (rendered_tokens texts init own.2)
  | .switch subject arms, own => by
    have keyword := rendered_symbol texts (show "switch" ∈ symbols by decide)
    have list := rendered_bracketed texts (show "(" ∈ symbols by decide)
      (show ")" ∈ symbols by decide) (.inr (rendered_tokens texts subject own.2.1))
    exact rendered_braced texts (keyword.append list) (rendered_tokensOfEach texts arms own.2.2)
  | .caseArm pattern body breaks, own => by
    have keyword := rendered_symbol texts (show "case" ∈ symbols by decide)
    exact rendered_arm texts (keyword.append (rendered_tokens texts pattern own.2.1))
      (rendered_tokensOfEach texts body own.2.2) breaks
  | .defaultArm body breaks, own =>
    rendered_arm texts (rendered_symbol texts (show "default" ∈ symbols by decide))
      (rendered_tokensOfEach texts body own.2) breaks
  | .ret value, own =>
    (rendered_symbol texts (show "return" ∈ symbols by decide)).append
      (rendered_tokens texts value own.2)
  | .raise value, own =>
    (rendered_symbol texts (show "throw" ∈ symbols by decide)).append
      (rendered_tokens texts value own.2)
  | .annotated label inner, own =>
    (Rendered.text (texts.label label own.1)).newLine (rendered_tokens texts inner own.2)

theorem rendered_tokensOfEach (texts : TextClass Q) :
    ∀ exprs : List Expr, EverywhereAll (OwnStrings Q) exprs →
      ∀ group ∈ tokensOfEach exprs, Rendered Q group
  | [], _ => by simp [tokensOfEach]
  | expr :: rest, own => by
    rw [tokensOfEach, List.forall_mem_cons]
    exact ⟨rendered_tokens texts expr own.1, rendered_tokensOfEach texts rest own.2⟩

end

/-- The tokens of any construct are rendered, whatever its strings are. -/
theorem rendered (expr : Expr) : Rendered (fun _ => True) expr.tokens := by
  apply rendered_tokens ⟨by simp, by simp, by simp, by simp⟩
  apply everywhere_of_forall
  intro expr
  cases expr <;> simp

end Expr

end Recordsmith.Dart
