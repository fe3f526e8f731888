/-
# Recordsmith.Proofs.TypeExpr.Grammar — the language of type texts

`Derives text tree` is the grammar of type texts, with the tree each derivation
builds; `ws` is any run of blanks:

    T ::= ws name ws [ '<' T (',' T)* '>' ws ] [ '?' ws ]

`List` takes one argument and `Map` two, and neither stands without arguments.
Reading is not a descent along this grammar: it trims, takes the null mark from
the end, looks for the matching bracket and cuts what is inside a second time.
That it reads this language all the same is proved from one equivalence for each
of these steps:

* `splitNullMark_frame`, `exists_frame`: blanks, null mark and what they enclose;
* `splitHead_eq_bare_iff`, `splitHead_eq_applied_iff`: the name and the brackets;
* `parseEach_eq_ok_iff`: the arguments;
* `parseChars_eq_ok_iff`: the steps put together.

`parse_iff_derives` is the result. As reading is a function, no text has two trees.
-/
import Recordsmith.Proofs.Text.Trim
import Recordsmith.Proofs.TypeExpr.Brackets
import Recordsmith.TypeExpr.Parser

namespace Recordsmith.TypeExpr

open Recordsmith.Text

set_option autoImplicit false

/-- What stands behind a type: nothing, or the null mark and blanks. -/
inductive NullSuffix : Bool → List Char → Prop where
  | absent : NullSuffix false []
  | present {gap : List Char} (blank : Blanks gap) : NullSuffix true ('?' :: gap)

/-- The tree whose root has this null mark, this name and these arguments. -/
inductive Applies (nullable : Bool) : String → List TypeExpr → TypeExpr → Prop where
  | list (element : TypeExpr) :
      Applies nullable Container.list.name [element] (.list element nullable)
  | map (key value : TypeExpr) :
      Applies nullable Container.map.name [key, value] (.map key value nullable)
  | generic {name : String} (args : List TypeExpr) (notList : name ≠ Container.list.name)
      (notMap : name ≠ Container.map.name) :
      Applies nullable name args (.generic name args nullable)

/-- A text of the grammar and its tree. The arguments come with their texts. -/
inductive Derives : List Char → TypeExpr → Prop where
  | bare {lead name gap mark : List Char} {nullable : Bool} (leadBlank : Blanks lead)
      (valid : isIdentifier name = true) (gapBlank : Blanks gap)
      (suffix : NullSuffix nullable mark)
      (notList : String.ofList name ≠ Container.list.name)
      (notMap : String.ofList name ≠ Container.map.name) :
      Derives (lead ++ name ++ gap ++ mark) (.scalar (String.ofList name) nullable)
  | applied {lead name space gap mark : List Char} {nullable : Bool}
      {args : List (List Char × TypeExpr)} {tree : TypeExpr} (leadBlank : Blanks lead)
      (valid : isIdentifier name = true) (spaceBlank : Blanks space) (nonempty : args ≠ [])
      (each : ∀ arg ∈ args, Derives arg.1 arg.2) (gapBlank : Blanks gap)
      (suffix : NullSuffix nullable mark)
      (shape : Applies nullable (String.ofList name) (args.map Prod.snd) tree) :
      Derives
        (lead ++ (name ++ space ++ '<' :: ([','].intercalate (args.map Prod.fst) ++ ['>'])) ++
          gap ++ mark)
        tree

/-! ## Blanks and null mark -/

/-- A solid text that does not end in `?` is found again between blanks, with the
null mark behind it. -/
theorem splitNullMark_frame {lead core gap mark : List Char} {nullable : Bool}
    (leadBlank : Blanks lead) (solid : Solid core) (nonempty : core ≠ [])
    (unmarked : core.getLast? ≠ some '?') (gapBlank : Blanks gap)
    (suffix : NullSuffix nullable mark) :
    splitNullMark (trim (lead ++ core ++ gap ++ mark)) = (core, nullable) := by
  cases suffix with
  | absent =>
    rw [List.append_nil, trim_padded leadBlank solid gapBlank, splitNullMark, if_neg unmarked]
  | present behindBlank =>
    rename_i behind
    have marked : Solid (core ++ gap ++ ['?']) := by
      refine ⟨?_, ?_⟩
      · intro c first
        obtain ⟨d, rest, rfl⟩ := List.exists_cons_of_ne_nil nonempty
        exact solid.first c first
      · intro c last
        rw [List.getLast?_concat] at last
        cases last
        decide
    have regroup : lead ++ core ++ gap ++ '?' :: behind =
        lead ++ (core ++ gap ++ ['?']) ++ behind := by
      simp only [List.append_assoc, List.singleton_append]
    rw [regroup, trim_padded leadBlank marked behindBlank, splitNullMark,
      if_pos List.getLast?_concat, List.dropLast_concat, trimEnd_append gapBlank,
      trimEnd_of_getLast solid.last]

/-- Every text is its body between blanks, with the null mark behind it. -/
theorem exists_frame (raw : List Char) :
    ∃ lead gap mark, Blanks lead ∧ Blanks gap ∧ NullSuffix (splitNullMark (trim raw)).2 mark ∧
      raw = lead ++ (splitNullMark (trim raw)).1 ++ gap ++ mark := by
  obtain ⟨lead, behind, leadBlank, behindBlank, same⟩ := exists_padding raw
  by_cases marked : (trim raw).getLast? = some '?'
  · obtain ⟨gap, gapBlank, body⟩ := exists_trimEnd (trim raw).dropLast
    have whole : trim raw = (trim raw).dropLast ++ ['?'] := by
      obtain ⟨front, ended⟩ := List.getLast?_eq_some_iff.1 marked
      rw [ended, List.dropLast_concat]
    rw [splitNullMark, if_pos marked]
    refine ⟨lead, gap, '?' :: behind, leadBlank, gapBlank, .present behindBlank, ?_⟩
    rw [List.append_assoc lead, ← body, ← List.singleton_append, ← List.append_assoc,
      List.append_assoc lead, ← whole]
    exact same
  · rw [splitNullMark, if_neg marked]
    exact ⟨lead, behind, [], leadBlank, behindBlank, .absent, by rw [List.append_nil]; exact same⟩

/-! ## Name and brackets -/

theorem ne_open_of_not_mem {front : List Char} (noOpen : '<' ∉ front) :
    ∀ c ∈ front, decide (c ≠ '<') = true := by
  intro c member
  rw [decide_eq_true_eq]
  rintro rfl
  exact noOpen member

theorem exists_open_of_mem {body : List Char} (opened : '<' ∈ body) :
    ∃ front behind, body = front ++ '<' :: behind ∧ '<' ∉ front := by
  obtain ⟨front, behind, same, noOpen⟩ := List.eq_append_cons_of_mem opened
  exact ⟨front, behind, same, noOpen⟩

theorem splitHead_of_not_mem {body text : List Char} (noOpen : '<' ∉ body) :
    splitHead body text =
      if '>' ∈ body then .error (.unbalancedBrackets (String.ofList text))
      else .ok (trim body, none) := by
  have none : body.dropWhile (· ≠ '<') = [] := by
    rw [← List.append_nil body, List.dropWhile_append_of_pos (ne_open_of_not_mem noOpen)]
    rfl
  rw [splitHead, none]

theorem splitHead_append_open {front behind text : List Char} (noOpen : '<' ∉ front) :
    splitHead (front ++ '<' :: behind) text =
      match upToClose 0 behind with
      | none => .error (.unbalancedBrackets (String.ofList text))
      | some (inner, after) =>
          if trim after = [] then .ok (trim front, some inner)
          else if '<' ∈ trim after ∨ '>' ∈ trim after then
            .error (.unbalancedBrackets (String.ofList text))
          else .error (.trailingInput (String.ofList (trim after)) (String.ofList text)) := by
  rw [splitHead, List.takeWhile_append_of_pos (ne_open_of_not_mem noOpen),
    List.dropWhile_append_of_pos (ne_open_of_not_mem noOpen)]
  cases closed : upToClose 0 behind <;> simp [closed]

theorem splitHead_eq_bare_iff {body text name : List Char} :
    splitHead body text = .ok (name, none) ↔ '<' ∉ body ∧ '>' ∉ body ∧ name = trim body := by
  by_cases opened : '<' ∈ body
  · obtain ⟨front, behind, rfl, noOpen⟩ := exists_open_of_mem opened
    rw [splitHead_append_open noOpen]
    refine ⟨fun split => ?_, fun free => absurd opened free.1⟩
    split at split
    · cases split
    · split at split
      · cases split
      · split at split <;> cases split
  · rw [splitHead_of_not_mem opened]
    by_cases closed : '>' ∈ body
    · simp [closed]
    · simp [opened, closed, eq_comm]

theorem splitHead_eq_applied_iff {body text name inner : List Char} :
    splitHead body text = .ok (name, some inner) ↔
      ∃ front after, body = front ++ '<' :: (inner ++ '>' :: after) ∧ '<' ∉ front ∧
        Balanced inner ∧ Blanks after ∧ name = trim front := by
  constructor
  · intro split
    by_cases opened : '<' ∈ body
    · obtain ⟨front, behind, rfl, noOpen⟩ := exists_open_of_mem opened
      rw [splitHead_append_open noOpen] at split
      split at split
      · cases split
      · next read after closed =>
        split at split
        · next blank =>
          cases split
          obtain ⟨rfl, balanced⟩ := upToClose_eq_some_iff.1 closed
          exact ⟨front, after, rfl, noOpen, balanced, blanks_of_trim_eq_nil blank, rfl⟩
        · split at split <;> cases split
    · rw [splitHead_of_not_mem opened] at split
      split at split <;> cases split
  · rintro ⟨front, after, rfl, noOpen, balanced, blank, rfl⟩
    rw [splitHead_append_open noOpen, upToClose_eq_some_iff.2 ⟨rfl, balanced⟩]
    simp [trim_blanks blank]

/-! ## Trees -/

theorem bare_eq_ok_iff {name : String} {nullable : Bool} {text : List Char} {tree : TypeExpr} :
    bare name nullable text = .ok tree ↔
      name ≠ Container.list.name ∧ name ≠ Container.map.name ∧ tree = .scalar name nullable := by
  rw [bare]
  split
  · next container =>
    constructor
    · intro read
      cases read
    · rintro ⟨notList, notMap, -⟩
      exact absurd container (not_or.2 ⟨notList, notMap⟩)
  · next other =>
    obtain ⟨notList, notMap⟩ := not_or.1 other
    simp [notList, notMap, eq_comm]

theorem applied_eq_ok_iff {name : String} {args : List TypeExpr} {nullable : Bool}
    {text : List Char} {tree : TypeExpr} :
    applied name args nullable text = .ok tree ↔ Applies nullable name args tree := by
  constructor
  · intro read
    unfold applied at read
    split at read
    · next isList =>
      subst isList
      split at read
      · cases read; exact .list _
      · cases read
    · next notList =>
      split at read
      · next isMap =>
        subst isMap
        split at read
        · cases read; exact .map _ _
        · cases read
      · next notMap => cases read; exact .generic _ notList notMap
  · intro shape
    cases shape with
    | list element => rfl
    | map key value => rfl
    | generic args notList notMap =>
      unfold applied
      rw [if_neg notList, if_neg notMap]

/-! ## Arguments -/

theorem splitOutside_eq_ok_iff {delimiter : Char} {text : List Char}
    {segments : List (List Char)} :
    splitOutside delimiter text = .ok segments ↔
      ∃ pieces, piecesOutside delimiter text = some pieces ∧ segments = pieces.map trim := by
  rw [splitOutside]
  split
  · next unbalanced => simp [unbalanced]
  · next pieces cut => simp [cut, eq_comm]

/-- Arguments are read if each of them is, and none is empty. -/
theorem parseEach_eq_ok_iff {text : List Char} {pieces : List (List Char)}
    {trees : List TypeExpr} :
    parseEach text (pieces.map trim) = .ok trees ↔
      ∃ args : List (List Char × TypeExpr), pieces = args.map Prod.fst ∧
        trees = args.map Prod.snd ∧
        ∀ arg ∈ args, trim arg.1 ≠ [] ∧ parseChars (trim arg.1) = .ok arg.2 := by
  constructor
  · intro read
    induction pieces generalizing trees with
    | nil =>
      rw [List.map_nil, parseEach] at read
      cases read
      exact ⟨[], rfl, rfl, by simp⟩
    | cons piece rest ih =>
      rw [List.map_cons, parseEach] at read
      split at read
      · cases read
      · next nonempty =>
        split at read
        · cases read
        · next tree parsed =>
          split at read
          · cases read
          · next others readRest =>
            cases read
            obtain ⟨args, rfl, rfl, each⟩ := ih readRest
            exact ⟨(piece, tree) :: args, rfl, rfl,
              List.forall_mem_cons.2 ⟨⟨nonempty, parsed⟩, each⟩⟩
  · rintro ⟨args, rfl, rfl, each⟩
    induction args with
    | nil => simp [parseEach]
    | cons arg rest ih =>
      obtain ⟨⟨nonempty, parsed⟩, eachRest⟩ := List.forall_mem_cons.1 each
      rw [List.map_cons, List.map_cons, parseEach, if_neg nonempty, parsed, ih eachRest]
      rfl

/-! ## Reading -/

/-- The steps of reading a type, each with the result of the one before it. -/
theorem parseChars_eq (raw : List Char) :
    parseChars raw =
      (splitHead (splitNullMark (trim raw)).1 (trim raw)).bind fun head =>
        if isIdentifier head.1 then
          head.2.elim (bare (String.ofList head.1) (splitNullMark (trim raw)).2 (trim raw))
            fun inner => (splitOutside ',' inner).bind fun segments =>
              (parseEach (trim raw) segments).bind fun args =>
                applied (String.ofList head.1) args (splitNullMark (trim raw)).2 (trim raw)
        else .error (.invalidIdentifier (String.ofList head.1) (String.ofList (trim raw))) := by
  cases head : splitHead (splitNullMark (trim raw)).1 (trim raw) with
  | error cause =>
    rw [parseChars]
    split
    · next same => rw [head] at same; cases same; rfl
    · next same => rw [head] at same; cases same
  | ok found =>
    rw [parseChars]
    split
    · next same => rw [head] at same; cases same
    · next name inner? same =>
      rw [head] at same
      cases same
      dsimp only [Except.bind]
      split
      · cases inner? with
        | none => rfl
        | some inner =>
          dsimp only [Option.elim]
          split
          · next failed => rw [failed]
          · next segments cut =>
            rw [cut]
            dsimp only
            cases parseEach (trim raw) segments <;> rfl
      · rfl

theorem bind_eq_ok_iff {α β : Type} {result : Except TypeError α} {next : α → Except TypeError β}
    {value : β} :
    result.bind next = .ok value ↔ ∃ found, result = .ok found ∧ next found = .ok value := by
  cases result <;> simp [Except.bind]

/-- The steps of reading a type: a name alone, or a name with arguments. -/
theorem parseChars_eq_ok_iff {raw : List Char} {tree : TypeExpr} :
    parseChars raw = .ok tree ↔
      ∃ name, isIdentifier name = true ∧
        ((splitHead (splitNullMark (trim raw)).1 (trim raw) = .ok (name, none) ∧
            bare (String.ofList name) (splitNullMark (trim raw)).2 (trim raw) = .ok tree) ∨
          ∃ inner segments args,
            splitHead (splitNullMark (trim raw)).1 (trim raw) = .ok (name, some inner) ∧
            splitOutside ',' inner = .ok segments ∧ parseEach (trim raw) segments = .ok args ∧
            applied (String.ofList name) args (splitNullMark (trim raw)).2 (trim raw) =
              .ok tree) := by
  rw [parseChars_eq, bind_eq_ok_iff]
  constructor
  · rintro ⟨⟨name, inner?⟩, head, read⟩
    dsimp only at read
    split at read
    · next valid =>
      refine ⟨name, valid, ?_⟩
      cases inner? with
      | none => exact .inl ⟨head, read⟩
      | some inner =>
        obtain ⟨segments, cut, read⟩ := bind_eq_ok_iff.1 read
        obtain ⟨args, readArgs, read⟩ := bind_eq_ok_iff.1 read
        exact .inr ⟨inner, segments, args, head, cut, readArgs, read⟩
    · cases read
  · rintro ⟨name, valid, ⟨head, read⟩ | ⟨inner, segments, args, head, cut, readArgs, read⟩⟩
    · exact ⟨_, head, by rw [if_pos valid]; exact read⟩
    · refine ⟨_, head, ?_⟩
      rw [if_pos valid]
      exact bind_eq_ok_iff.2 ⟨segments, cut, bind_eq_ok_iff.2 ⟨args, readArgs, read⟩⟩

theorem parseChars_trim (raw : List Char) : parseChars (trim raw) = parseChars raw := by
  rw [parseChars, parseChars, trim_trim]

/-- A text without anything but blanks is no type. -/
theorem trim_ne_nil_of_parseChars {raw : List Char} {tree : TypeExpr}
    (read : parseChars raw = .ok tree) : trim raw ≠ [] := by
  intro empty
  obtain ⟨name, valid, ⟨head, -⟩ | ⟨inner, _, _, head, -⟩⟩ := parseChars_eq_ok_iff.1 read
  · rw [empty] at head
    obtain ⟨-, -, rfl⟩ := splitHead_eq_bare_iff.1 head
    cases valid
  · rw [empty] at head
    obtain ⟨front, after, same, -⟩ := splitHead_eq_applied_iff.1 head
    exact absurd same.symm (by simp [splitNullMark])

/-! ## A name with brackets -/

section Applied

variable {lead name space inner gap mark : List Char} {nullable : Bool}

/-- A name and brackets, as they stand in a text without the blanks around them. -/
theorem splitNullMark_applied (leadBlank : Blanks lead) (valid : isIdentifier name = true)
    (gapBlank : Blanks gap) (suffix : NullSuffix nullable mark) :
    splitNullMark (trim (lead ++ (name ++ space ++ '<' :: (inner ++ ['>'])) ++ gap ++ mark)) =
      (name ++ space ++ '<' :: (inner ++ ['>']), nullable) := by
  have last : (name ++ space ++ '<' :: (inner ++ ['>'])).getLast? = some '>' := by
    rw [← List.cons_append, ← List.append_assoc, List.getLast?_concat]
  have solid : Solid (name ++ space ++ '<' :: (inner ++ ['>'])) := by
    refine ⟨?_, ?_⟩
    · intro c first
      obtain ⟨d, rest, rfl⟩ := List.exists_cons_of_ne_nil (ne_nil_of_isIdentifier valid)
      exact (solid_of_isIdentifier valid).first c first
    · intro c ends
      rw [last] at ends
      cases ends
      decide
  exact splitNullMark_frame leadBlank solid (by simp) (by rw [last]; decide) gapBlank suffix

theorem splitHead_applied (text : List Char) (valid : isIdentifier name = true)
    (spaceBlank : Blanks space) (balanced : Balanced inner) :
    splitHead (name ++ space ++ '<' :: (inner ++ ['>'])) text = .ok (name, some inner) := by
  have noOpen : '<' ∉ name ++ space := by
    rw [List.mem_append, not_or]
    exact ⟨not_mem_of_isIdentifier valid (by decide), spaceBlank.not_mem (by decide)⟩
  have trimmed := trim_padded Blanks.nil (solid_of_isIdentifier valid) spaceBlank
  exact splitHead_eq_applied_iff.2
    ⟨name ++ space, [], rfl, noOpen, balanced, Blanks.nil, trimmed.symm⟩

end Applied

/-- A text with a name and brackets is these two and the null mark, with blanks around them. -/
theorem exists_frame_of_applied {raw name inner : List Char}
    (head : splitHead (splitNullMark (trim raw)).1 (trim raw) = .ok (name, some inner)) :
    ∃ lead space gap mark, Blanks lead ∧ Blanks space ∧ Blanks gap ∧
      NullSuffix (splitNullMark (trim raw)).2 mark ∧ Balanced inner ∧
      raw = lead ++ (name ++ space ++ '<' :: (inner ++ ['>'])) ++ gap ++ mark := by
  obtain ⟨lead, gap, mark, leadBlank, gapBlank, suffix, frame⟩ := exists_frame raw
  obtain ⟨front, after, body, -, balanced, afterBlank, rfl⟩ := splitHead_eq_applied_iff.1 head
  obtain ⟨start, space, startBlank, spaceBlank, padded⟩ := exists_padding front
  refine ⟨lead ++ start, space, after ++ gap, mark, leadBlank.append startBlank, spaceBlank,
    afterBlank.append gapBlank, suffix, balanced, ?_⟩
  rw [body, padded] at frame
  simpa only [List.append_assoc, List.cons_append, List.nil_append] using frame

/-! ## Derivable texts among brackets and commas -/

/-- A text that the search for brackets and the cut at commas pass over as one. -/
structure Whole (text : List Char) : Prop where
  balanced : Balanced text
  uncut : delimitersOutside ',' 0 text = 0

theorem Whole.append {front back : List Char} (first : Whole front) (second : Whole back) :
    Whole (front ++ back) := by
  refine ⟨first.balanced.append second.balanced, ?_⟩
  rw [delimitersOutside_append first.balanced, first.uncut, second.uncut]

theorem Whole.of_not_mem {text : List Char} (noOpen : '<' ∉ text) (noClose : '>' ∉ text)
    (noComma : ',' ∉ text) : Whole text :=
  ⟨.of_not_mem noOpen noClose, delimitersOutside_of_not_mem noComma 0⟩

theorem Whole.of_blanks {text : List Char} (blank : Blanks text) : Whole text :=
  .of_not_mem (blank.not_mem (by decide)) (blank.not_mem (by decide)) (blank.not_mem (by decide))

theorem Whole.of_isIdentifier {name : List Char} (valid : isIdentifier name = true) :
    Whole name :=
  .of_not_mem (not_mem_of_isIdentifier valid (by decide))
    (not_mem_of_isIdentifier valid (by decide)) (not_mem_of_isIdentifier valid (by decide))

theorem Whole.of_suffix {nullable : Bool} {mark : List Char} (suffix : NullSuffix nullable mark) :
    Whole mark := by
  cases suffix with
  | absent => exact .of_blanks Blanks.nil
  | present blank =>
    have question : Whole ['?'] := .of_not_mem (by decide) (by decide) (by decide)
    exact question.append (.of_blanks blank)

theorem balanced_intercalate {pieces : List (List Char)}
    (each : ∀ piece ∈ pieces, Balanced piece) : Balanced ([','].intercalate pieces) := by
  induction pieces with
  | nil => exact .of_not_mem (by simp) (by simp)
  | cons piece rest ih =>
    obtain ⟨first, others⟩ := List.forall_mem_cons.1 each
    cases rest with
    | nil => simpa using first
    | cons next rest =>
      have comma : Balanced [','] := .of_not_mem (by decide) (by decide)
      rw [List.intercalate_cons_cons]
      exact (first.append comma).append (ih others)

theorem Derives.whole {text : List Char} {tree : TypeExpr} (derivation : Derives text tree) :
    Whole text := by
  induction derivation with
  | bare leadBlank valid gapBlank suffix notList notMap =>
    exact (((Whole.of_blanks leadBlank).append (.of_isIdentifier valid)).append
      (.of_blanks gapBlank)).append (.of_suffix suffix)
  | applied leadBlank valid spaceBlank nonempty each gapBlank suffix shape ih =>
    rename_i lead name space gap mark nullable args tree
    have inner : Balanced ([','].intercalate (args.map Prod.fst)) := by
      apply balanced_intercalate
      intro piece member
      obtain ⟨arg, argMember, rfl⟩ := List.mem_map.1 member
      exact (ih arg argMember).balanced
    have brackets : Whole ('<' :: ([','].intercalate (args.map Prod.fst) ++ ['>'])) :=
      ⟨inner.enclose, delimitersOutside_enclose inner⟩
    have core := ((Whole.of_isIdentifier valid).append (.of_blanks spaceBlank)).append brackets
    exact (((Whole.of_blanks leadBlank).append core).append (.of_blanks gapBlank)).append
      (.of_suffix suffix)

/-! ## The grammar and the reader -/

/-- What the grammar derives is read, with the tree of the derivation. -/
theorem parseChars_of_derives {text : List Char} {tree : TypeExpr}
    (derivation : Derives text tree) : parseChars text = .ok tree := by
  induction derivation with
  | bare leadBlank valid gapBlank suffix notList notMap =>
    rename_i lead name gap mark nullable
    have solid := solid_of_isIdentifier valid
    have unmarked : name.getLast? ≠ some '?' := fun last =>
      not_mem_of_isIdentifier valid (by decide) (List.mem_of_getLast? last)
    rw [parseChars_eq_ok_iff, splitNullMark_frame leadBlank solid (ne_nil_of_isIdentifier valid)
      unmarked gapBlank suffix]
    refine ⟨name, valid, .inl ⟨splitHead_eq_bare_iff.2 ⟨?_, ?_, (trim_of_solid solid).symm⟩,
      bare_eq_ok_iff.2 ⟨notList, notMap, rfl⟩⟩⟩
    · exact not_mem_of_isIdentifier valid (by decide)
    · exact not_mem_of_isIdentifier valid (by decide)
  | applied leadBlank valid spaceBlank nonempty each gapBlank suffix shape ih =>
    rename_i lead name space gap mark nullable args tree
    have whole : ∀ piece ∈ args.map Prod.fst, Whole piece := by
      intro piece member
      obtain ⟨arg, argMember, rfl⟩ := List.mem_map.1 member
      exact (each arg argMember).whole
    have balanced : Balanced ([','].intercalate (args.map Prod.fst)) :=
      balanced_intercalate fun piece member => (whole piece member).balanced
    have cut : splitOutside ',' ([','].intercalate (args.map Prod.fst)) =
        .ok ((args.map Prod.fst).map trim) :=
      splitOutside_eq_ok_iff.2 ⟨_, piecesOutside_intercalate (by decide) (by simpa using nonempty)
        fun piece member => ⟨(whole piece member).balanced, (whole piece member).uncut⟩, rfl⟩
    have readArgs : ∀ text, parseEach text ((args.map Prod.fst).map trim) =
        .ok (args.map Prod.snd) := by
      refine fun text => parseEach_eq_ok_iff.2 ⟨args, rfl, rfl, fun arg member => ?_⟩
      have read := ih arg member
      exact ⟨trim_ne_nil_of_parseChars read, by rw [parseChars_trim]; exact read⟩
    rw [parseChars_eq_ok_iff, splitNullMark_applied leadBlank valid gapBlank suffix]
    exact ⟨name, valid, .inr ⟨_, _, _, splitHead_applied _ valid spaceBlank balanced, cut,
      readArgs _, applied_eq_ok_iff.2 shape⟩⟩

theorem length_lt_extent {piece : List Char} {pieces : List (List Char)}
    (member : piece ∈ pieces) : piece.length < extent pieces := by
  induction pieces with
  | nil => cases member
  | cons first rest ih =>
    simp only [extent]
    rcases List.mem_cons.1 member with rfl | member
    · omega
    · have := ih member
      omega

/-- What is read is derived, with the tree that was read. -/
theorem derives_of_parseChars {raw : List Char} {tree : TypeExpr}
    (read : parseChars raw = .ok tree) : Derives raw tree := by
  -- By the length of the text: every argument is shorter than the text it stands in.
  induction size : raw.length using Nat.strongRecOn generalizing raw tree with
  | ind n ih =>
    subst size
    obtain ⟨name, valid, ⟨head, built⟩ | ⟨inner, segments, trees, head, cut, readArgs, built⟩⟩ :=
      parseChars_eq_ok_iff.1 read
    · obtain ⟨lead, gap, mark, leadBlank, gapBlank, suffix, frame⟩ := exists_frame raw
      generalize splitNullMark (trim raw) = marked at *
      obtain ⟨body, nullable⟩ := marked
      obtain ⟨-, -, rfl⟩ := splitHead_eq_bare_iff.1 head
      obtain ⟨notList, notMap, rfl⟩ := bare_eq_ok_iff.1 built
      obtain ⟨front, space, frontBlank, spaceBlank, padded⟩ := exists_padding body
      have same : raw = lead ++ front ++ trim body ++ (space ++ gap) ++ mark := by
        dsimp only at frame
        rw [padded] at frame
        simpa only [List.append_assoc] using frame
      rw [same]
      exact .bare (leadBlank.append frontBlank) valid (spaceBlank.append gapBlank) suffix
        notList notMap
    · obtain ⟨lead, space, gap, mark, leadBlank, spaceBlank, gapBlank, suffix, -, frame⟩ :=
        exists_frame_of_applied head
      obtain ⟨pieces, found, rfl⟩ := splitOutside_eq_ok_iff.1 cut
      obtain ⟨nonempty, rfl⟩ := piecesOutside_join found
      obtain ⟨args, rfl, rfl, each⟩ := parseEach_eq_ok_iff.1 readArgs
      have derived : ∀ arg ∈ args, Derives arg.1 arg.2 := by
        intro arg member
        have readArg := (each arg member).2
        rw [parseChars_trim] at readArg
        have shorter : arg.1.length < raw.length := by
          have := length_lt_extent (List.mem_map_of_mem (f := Prod.fst) member)
          have := piecesOutside_extent found
          have := splitHead_length head
          have := length_splitNullMark_le (trim raw)
          have := length_trim_le raw
          omega
        exact ih _ shorter readArg rfl
      rw [frame]
      exact .applied leadBlank valid spaceBlank (by simpa using nonempty) derived gapBlank suffix
        (applied_eq_ok_iff.1 built)

theorem parse_eq_ok_iff {raw : String} {tree : TypeExpr} :
    parse raw = .ok tree ↔ Derives raw.toList tree :=
  ⟨derives_of_parseChars, parseChars_of_derives⟩

theorem Derives.unique {text : List Char} {tree other : TypeExpr} (first : Derives text tree)
    (second : Derives text other) : tree = other := by
  have read := parseChars_of_derives first
  rw [parseChars_of_derives second] at read
  cases read
  rfl

/-- **The reader decides the grammar.** A text is read exactly if it can be derived, with the
tree of the derivation, and no text has two trees. -/
theorem parse_iff_derives (raw : String) :
    (∀ tree, parse raw = .ok tree ↔ Derives raw.toList tree) ∧
      ∀ tree other, Derives raw.toList tree → Derives raw.toList other → tree = other :=
  ⟨fun _ => parse_eq_ok_iff, fun _ _ first second => first.unique second⟩

theorem parse_iff_derives_nullables :
    parse "List< Item? > ?" = .ok (.list (.scalar "Item" true) true) := by
  have inner : Derives [' ', 'I', 't', 'e', 'm', '?', ' '] (.scalar "Item" true) :=
    @Derives.bare [' '] ['I', 't', 'e', 'm'] [] ['?', ' '] true (by decide) (by decide)
      (by decide) (.present (by decide)) (by decide) (by decide)
  have outer : Derives "List< Item? > ?".toList (.list (.scalar "Item" true) true) :=
    @Derives.applied [] ['L', 'i', 's', 't'] [] [' '] ['?'] true
      [([' ', 'I', 't', 'e', 'm', '?', ' '], .scalar "Item" true)] _ (by decide) (by decide)
      (by decide) (by simp) (by simpa using inner) (by decide) (.present (by decide)) (.list _)
  exact ((parse_iff_derives _).1 _).2 outer

end Recordsmith.TypeExpr
