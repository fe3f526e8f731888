/-
# Recordsmith.TypeExpr.Parser — reading a type

A type is read from its trimmed text. A `?` at the end marks it nullable. The
first `<` opens its arguments, which end at the matching `>`; nothing may
follow them. The arguments are the pieces between the commas outside brackets,
each read the same way. The faults of one text are reported in this order:

1. brackets that do not match, or text behind the arguments;
2. a name that is no identifier;
3. a `List` or `Map` without arguments;
4. the first argument that is empty or no type;
5. a `List` or `Map` with the wrong number of arguments.

Every argument is shorter than the text it stands in, which is what the
recursion rests on (`splitHead_length`).
-/
import Recordsmith.Text.Identifier
import Recordsmith.TypeExpr.Basic
import Recordsmith.TypeExpr.Brackets

namespace Recordsmith.TypeExpr

open Recordsmith.Text

set_option autoImplicit false

/-- The text without its null mark, and whether there was one. -/
def splitNullMark (text : List Char) : List Char × Bool :=
  if text.getLast? = some '?' then (trimEnd text.dropLast, true) else (text, false)

/-- The name in front and the text between the brackets, if there are any. `text`
is the whole type, which errors quote. -/
def splitHead (body text : List Char) : Except TypeError (List Char × Option (List Char)) :=
  match body.dropWhile (· ≠ '<') with
  | [] =>
      if '>' ∈ body then .error (.unbalancedBrackets (String.ofList text))
      else .ok (trim body, none)
  | _ :: behind =>
      match upToClose 0 behind with
      | none => .error (.unbalancedBrackets (String.ofList text))
      | some (inner, after) =>
          let trailing := trim after
          if trailing = [] then .ok (trim (body.takeWhile (· ≠ '<')), some inner)
          else if '<' ∈ trailing ∨ '>' ∈ trailing then
            .error (.unbalancedBrackets (String.ofList text))
          else .error (.trailingInput (String.ofList trailing) (String.ofList text))

/-- The type with this name and these arguments. -/
def applied (name : String) (args : List TypeExpr) (nullable : Bool) (text : List Char) :
    Except TypeError TypeExpr :=
  if name = Container.list.name then
    match args with
    | [element] => .ok (.list element nullable)
    | _ => .error (.arity name 1 args.length (String.ofList text))
  else if name = Container.map.name then
    match args with
    | [key, value] => .ok (.map key value nullable)
    | _ => .error (.arity name 2 args.length (String.ofList text))
  else .ok (.generic name args nullable)

/-- The type with this name and no arguments. -/
def bare (name : String) (nullable : Bool) (text : List Char) : Except TypeError TypeExpr :=
  if name = Container.list.name ∨ name = Container.map.name then
    .error (.missingArguments name (String.ofList text))
  else .ok (.scalar name nullable)

theorem length_splitNullMark_le (text : List Char) :
    (splitNullMark text).1.length ≤ text.length := by
  rw [splitNullMark]
  split
  · have := length_trimEnd_le text.dropLast
    simp only [List.length_dropLast] at this ⊢
    omega
  · exact Nat.le_refl _

theorem splitHead_length {body text name inner : List Char}
    (split : splitHead body text = .ok (name, some inner)) : inner.length + 2 ≤ body.length := by
  have shorter := (List.dropWhile_sublist (l := body) (· ≠ '<')).length_le
  unfold splitHead at split
  split at split
  · split at split <;> simp at split
  · next opened =>
    rw [opened] at shorter
    split at split
    · simp at split
    · next closed =>
      have := upToClose_length closed
      dsimp only at split
      split at split
      · injection split with same
        injection same with _ same
        injection same with same
        subst same
        simp only [List.length_cons] at shorter
        omega
      · split at split <;> simp at split

-- Only the proof of termination uses the equations `split` and `cut`.
set_option linter.unusedVariables false in
mutual

/-- Read a type. -/
def parseChars (raw : List Char) : Except TypeError TypeExpr :=
  let text := trim raw
  match split : splitHead (splitNullMark text).1 text with
  | .error cause => .error cause
  | .ok (name, inner?) =>
      if isIdentifier name then
        match inner? with
        | none => bare (String.ofList name) (splitNullMark text).2 text
        | some inner =>
            match cut : splitOutside ',' inner with
            | .error cause => .error cause
            | .ok segments =>
                match parseEach text segments with
                | .error cause => .error cause
                | .ok args => applied (String.ofList name) args (splitNullMark text).2 text
      else .error (.invalidIdentifier (String.ofList name) (String.ofList text))
termination_by raw.length
decreasing_by
  have := splitHead_length split
  have := splitOutside_extent_le cut
  have := length_splitNullMark_le text
  have : text.length ≤ raw.length := length_trim_le raw
  omega

/-- Read the arguments of the type `text` one after the other. -/
def parseEach (text : List Char) : List (List Char) → Except TypeError (List TypeExpr)
  | [] => .ok []
  | segment :: rest =>
      if segment = [] then .error (.emptyArgument (String.ofList text))
      else
        match parseChars segment with
        | .error cause => .error cause
        | .ok arg =>
            match parseEach text rest with
            | .error cause => .error cause
            | .ok args => .ok (arg :: args)
termination_by segments => extent segments
decreasing_by
  all_goals
    simp only [extent]
    omega

end

/-- Read a type such as `List<Item>?`. -/
def parse (raw : String) : Except TypeError TypeExpr :=
  parseChars raw.toList

end Recordsmith.TypeExpr
