/-
# Recordsmith.Proofs.TypeExpr.Guarded — reading a type without checks

Reading a type rests on four facts that need no check while it runs: the counter of open
brackets is not 0 when it is lowered, the text between the brackets of a type can be cut
into arguments, there is an argument at each position that one is taken from, and
arguments are shorter than the type they stand in.

`parseGuarded` is the reader with all four put to the test. It lowers its counter and takes
arguments out of the list by position, as the reader might do without a look, and has only
so much room for calls within calls; an `Abort` tells what went wrong. `parseGuarded_eq`
says that nothing does: with room for one call more than the text has characters it gives
what `parseChars` gives. One lemma for each step leads there:

* `closeFrom_open`: from a `<` on, the counter is at least 1 up to the bracket that closes it;
* `exists_segments`: the arguments can be cut, and they are proper parts of the text;
* `appliedGuarded_eq`: the number of arguments is checked before they are taken.
-/
import Recordsmith.Proofs.TypeExpr.BracketErrors

namespace Recordsmith.TypeExpr

open Recordsmith.Text

set_option autoImplicit false

/-- What can go wrong in a step that is not checked. -/
inductive Abort where
  | counter
  | uncut
  | position
  | room
deriving DecidableEq, Repr

/-- A result of reading, unless a step went wrong. -/
abbrev Guarded (α : Type) : Type :=
  Except Abort (Except TypeError α)

/-- The counter for one bracket less. -/
def lower : Nat → Except Abort Nat
  | 0 => .error .counter
  | depth + 1 => .ok depth

/-- The argument at a position, and the others. -/
def takeAt (position : Nat) (args : List TypeExpr) : Except Abort (TypeExpr × List TypeExpr) :=
  match args[position]? with
  | none => .error .position
  | some arg => .ok (arg, args.eraseIdx position)

/-- The text up to the bracket at which the counter comes to 0, and the text behind it. -/
def closeFrom : Nat → List Char → Except Abort (Option (List Char × List Char))
  | _, [] => .ok none
  | depth, c :: rest =>
      if c = '<' then (closeFrom (depth + 1) rest).map (Option.map (addFront c))
      else if c = '>' then
        (lower depth).bind fun below =>
          if below = 0 then .ok (some ([], rest))
          else (closeFrom below rest).map (Option.map (addFront c))
      else (closeFrom depth rest).map (Option.map (addFront c))

/-- Go on with what was read, or pass the error on. -/
def andThen {α β : Type} (first : Guarded α) (next : α → Guarded β) : Guarded β :=
  first.bind fun
    | .error cause => .ok (.error cause)
    | .ok value => next value

/-- The name in front and the text between the brackets. The counter starts at the first `<`. -/
def splitHeadGuarded (body text : List Char) : Guarded (List Char × Option (List Char)) :=
  match body.dropWhile (· ≠ '<') with
  | [] =>
      if '>' ∈ body then .ok (.error (.unbalancedBrackets (String.ofList text)))
      else .ok (.ok (trim body, none))
  | c :: behind =>
      (closeFrom 0 (c :: behind)).map fun
        | none => .error (.unbalancedBrackets (String.ofList text))
        | some (bracketed, after) =>
            if trim after = [] then
              .ok (trim (body.takeWhile (· ≠ '<')), some bracketed.tail)
            else if '<' ∈ trim after ∨ '>' ∈ trim after then
              .error (.unbalancedBrackets (String.ofList text))
            else .error (.trailingInput (String.ofList (trim after)) (String.ofList text))

/-- The type with this name and these arguments. -/
def appliedGuarded (name : String) (args : List TypeExpr) (nullable : Bool) (text : List Char) :
    Guarded TypeExpr :=
  if name = Container.list.name then
    if args.length = 1 then
      (takeAt 0 args).map fun (element, _) => .ok (.list element nullable)
    else .ok (.error (.arity name 1 args.length (String.ofList text)))
  else if name = Container.map.name then
    if args.length = 2 then
      (takeAt 1 args).bind fun (value, others) =>
        (takeAt 0 others).map fun (key, _) => .ok (.map key value nullable)
    else .ok (.error (.arity name 2 args.length (String.ofList text)))
  else .ok (.ok (.generic name args nullable))

/-- Read arguments one after the other. -/
def eachGuarded (read : List Char → Guarded TypeExpr) (text : List Char) :
    List (List Char) → Guarded (List TypeExpr)
  | [] => .ok (.ok [])
  | segment :: rest =>
      if segment = [] then .ok (.error (.emptyArgument (String.ofList text)))
      else
        andThen (read segment) fun arg =>
          andThen (eachGuarded read text rest) fun args => .ok (.ok (arg :: args))

/-- Read a type, with room for so many calls within one another. -/
def parseGuarded : Nat → List Char → Guarded TypeExpr
  | 0, _ => .error .room
  | room + 1, raw =>
      let text := trim raw
      andThen (splitHeadGuarded (splitNullMark text).1 text) fun (name, inner?) =>
        if isIdentifier name then
          match inner? with
          | none => .ok (bare (String.ofList name) (splitNullMark text).2 text)
          | some inner =>
              match splitOutside ',' inner with
              | .error _ => .error .uncut
              | .ok segments =>
                  andThen (eachGuarded (parseGuarded room) text segments) fun args =>
                    appliedGuarded (String.ofList name) args (splitNullMark text).2 text
        else .ok (.error (.invalidIdentifier (String.ofList name) (String.ofList text)))

/-! ## The counter -/

/-- A counter that starts above 0 is lowered to 0 first at the bracket that is looked for. -/
theorem closeFrom_succ (depth : Nat) (text : List Char) :
    closeFrom (depth + 1) text = .ok (upToClose depth text) := by
  induction text generalizing depth with
  | nil => rfl
  | cons c rest ih =>
    rw [closeFrom, upToClose]
    split
    · rw [ih]
      rfl
    · split
      · cases depth with
        | zero => rfl
        | succ below =>
          show (closeFrom (below + 1) rest).map _ = _
          rw [ih]
          rfl
      · rw [ih]
        rfl

/-- From a `<` on the counter is at least 1 whenever it is lowered. -/
theorem closeFrom_open (behind : List Char) :
    closeFrom 0 ('<' :: behind) = .ok ((upToClose 0 behind).map (addFront '<')) := by
  rw [closeFrom, if_pos rfl, closeFrom_succ]
  rfl

example : closeFrom 0 ['>'] = .error .counter := rfl

theorem splitHeadGuarded_eq (body text : List Char) :
    splitHeadGuarded body text = .ok (splitHead body text) := by
  by_cases opened : '<' ∈ body
  · obtain ⟨front, behind, rfl, noOpen⟩ := exists_open_of_mem opened
    rw [splitHead_append_open noOpen, splitHeadGuarded,
      List.takeWhile_append_of_pos (ne_open_of_not_mem noOpen),
      List.dropWhile_append_of_pos (ne_open_of_not_mem noOpen),
      List.dropWhile_cons_of_neg (by simp), List.takeWhile_cons_of_neg (by simp), List.append_nil]
    dsimp only
    rw [closeFrom_open]
    cases upToClose 0 behind <;> rfl
  · have none : body.dropWhile (· ≠ '<') = [] := by
      rw [← List.append_nil body, List.dropWhile_append_of_pos (ne_open_of_not_mem opened)]
      rfl
    rw [splitHead_of_not_mem opened, splitHeadGuarded, none]
    dsimp only
    split <;> rfl

/-! ## The arguments -/

theorem appliedGuarded_eq (name : String) (args : List TypeExpr) (nullable : Bool)
    (text : List Char) :
    appliedGuarded name args nullable text = .ok (applied name args nullable text) := by
  unfold appliedGuarded applied
  split
  · rcases args with _ | ⟨element, _ | ⟨second, rest⟩⟩
    · rfl
    · rfl
    · simp
  · split
    · rcases args with _ | ⟨key, _ | ⟨value, _ | ⟨third, rest⟩⟩⟩
      · rfl
      · rfl
      · rfl
      · simp
    · rfl

/-- A piece is part of the text that the pieces make up. -/
theorem isInfix_intercalate {separator piece : List Char} {pieces : List (List Char)}
    (member : piece ∈ pieces) : piece <:+: separator.intercalate pieces := by
  induction pieces with
  | nil => cases member
  | cons first rest ih =>
    cases rest with
    | nil =>
      rw [List.mem_singleton.1 member]
      simp
    | cons next rest =>
      rw [List.intercalate_cons_cons]
      rcases List.mem_cons.1 member with rfl | member
      · rw [List.append_assoc]
        exact List.infix_append [] piece _
      · exact (ih member).trans (List.suffix_append _ _).isInfix

theorem isInfix_trim (text : List Char) : trim text <:+: text := by
  obtain ⟨lead, gap, -, -, same⟩ := exists_padding text
  exact ⟨lead, gap, same.symm⟩

/-- The text between the brackets of a type can be cut, and the segments are proper parts of the
type. -/
theorem exists_segments {raw name inner : List Char}
    (head : splitHead (splitNullMark (trim raw)).1 (trim raw) = .ok (name, some inner)) :
    Balanced inner ∧ ∃ segments, splitOutside ',' inner = .ok segments ∧
      ∀ segment ∈ segments, segment <:+: raw ∧ segment.length < raw.length := by
  obtain ⟨lead, space, gap, mark, -, -, -, -, balanced, frame⟩ := exists_frame_of_applied head
  obtain ⟨pieces, cut⟩ := exists_piecesOutside ',' balanced
  refine ⟨balanced, pieces.map trim, splitOutside_eq_ok_iff.2 ⟨pieces, cut, rfl⟩, ?_⟩
  intro segment member
  obtain ⟨piece, isPiece, rfl⟩ := List.mem_map.1 member
  have within : trim piece <:+: inner := by
    rw [(piecesOutside_join cut).2]
    exact (isInfix_trim piece).trans (isInfix_intercalate isPiece)
  have around : raw = (lead ++ name ++ space ++ ['<']) ++ inner ++ (['>'] ++ gap ++ mark) := by
    simpa using frame
  refine ⟨within.trans ⟨_, _, around.symm⟩, ?_⟩
  have shorter := within.length_le
  rw [around]
  simp only [List.length_append, List.length_cons, List.length_nil]
  omega

/-! ## Reading -/

/-- A step that does not abort, and a next one that does not either for what was read. -/
theorem andThen_ok {α β : Type} {first : Except TypeError α} {next : α → Guarded β}
    {result : α → Except TypeError β}
    (safe : ∀ value, first = .ok value → next value = .ok (result value)) :
    andThen (.ok first) next = .ok (first.bind result) := by
  cases first with
  | error cause => rfl
  | ok value => exact safe value rfl

theorem eachGuarded_eq {read : List Char → Guarded TypeExpr} {segments : List (List Char)}
    (text : List Char) (safe : ∀ segment ∈ segments, read segment = .ok (parseChars segment)) :
    eachGuarded read text segments = .ok (parseEach text segments) := by
  induction segments with
  | nil =>
    rw [parseEach]
    rfl
  | cons segment rest ih =>
    obtain ⟨first, later⟩ := List.forall_mem_cons.1 safe
    rw [eachGuarded, parseEach]
    split
    · rfl
    · rw [first, ih later]
      cases parseChars segment with
      | error cause => rfl
      | ok arg => cases parseEach text rest <;> rfl

/-- There is room enough for as many calls within one another as the text has characters, and one
more. -/
theorem parseGuarded_eq {room : Nat} {raw : List Char} (enough : raw.length < room) :
    parseGuarded room raw = .ok (parseChars raw) := by
  -- The arguments are shorter than the text, so that the room left is enough for them.
  induction room generalizing raw with
  | zero => omega
  | succ room ih =>
    rw [parseChars_eq, parseGuarded, splitHeadGuarded_eq]
    refine andThen_ok fun head found => ?_
    obtain ⟨name, inner?⟩ := head
    dsimp only
    split
    · cases inner? with
      | none => rfl
      | some inner =>
        obtain ⟨-, segments, cut, parts⟩ := exists_segments found
        have safe : ∀ segment ∈ segments, parseGuarded room segment = .ok (parseChars segment) := by
          intro segment member
          have shorter := (parts segment member).2
          exact ih (by omega)
        dsimp only [Option.elim_some]
        rw [cut]
        dsimp only
        rw [eachGuarded_eq _ safe]
        exact andThen_ok fun args _ => appliedGuarded_eq _ _ _ _
    · rfl

/-- **No step of reading goes wrong.** Reading with all steps put to the test ends with the same
result. In particular, from a `<` on the counter is never lowered at 0; the text between the
brackets is balanced and can be cut; every argument that is read is a proper part of the text; and
arguments are only taken from positions where there are some. -/
theorem parse_never_aborts (raw : String) :
    (∀ room, raw.toList.length < room → parseGuarded room raw.toList = .ok (parse raw)) ∧
    (∀ behind, closeFrom 0 ('<' :: behind) = .ok ((upToClose 0 behind).map (addFront '<'))) ∧
    (∀ name inner,
      splitHead (splitNullMark (trim raw.toList)).1 (trim raw.toList) = .ok (name, some inner) →
        ¬ Unbalanced inner ∧ ∃ segments, splitOutside ',' inner = .ok segments ∧
          ∀ segment ∈ segments, segment <:+: raw.toList ∧ segment.length < raw.toList.length) ∧
    ∀ name args nullable text,
      appliedGuarded name args nullable text = .ok (applied name args nullable text) := by
  refine ⟨fun room enough => parseGuarded_eq enough, closeFrom_open, ?_, appliedGuarded_eq⟩
  intro name inner head
  obtain ⟨balanced, cut⟩ := exists_segments head
  rw [unbalanced_iff, not_not]
  exact ⟨balanced, cut⟩

/-- A nested type, and a text with brackets in disorder. -/
theorem parse_never_aborts_disorder :
    parseGuarded 24 "Map<String, List<int>>?".toList = .ok (parse "Map<String, List<int>>?") ∧
    (∃ segments, splitOutside ',' "String, List<int>".toList = .ok segments ∧
      ∀ segment ∈ segments, segment.length < 23) ∧
    parseGuarded 12 "><a,<>,>>>?".toList = .ok (parse "><a,<>,>>>?") := by
  obtain ⟨whole, -, parts, -⟩ := parse_never_aborts "Map<String, List<int>>?"
  obtain ⟨-, segments, cut, each⟩ := parts "Map".toList "String, List<int>".toList rfl
  refine ⟨whole 24 (by decide), ⟨segments, cut, fun segment member => ?_⟩, ?_⟩
  · exact (each segment member).2
  · exact (parse_never_aborts "><a,<>,>>>?").1 12 (by decide)

end Recordsmith.TypeExpr
