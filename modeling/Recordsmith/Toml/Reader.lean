/-
# Recordsmith.Toml.Reader — reading a TOML text

A TOML text is a sequence of lines, each with at most one statement: a
`[header]`, a `[[header]]` or `key = value`. A comment may end any line. Within
arrays and inline tables line breaks and comments are free, except within a key,
and a comma may stand behind the last element. Line breaks are a line feed or a
carriage return and a line feed, and multi-line strings keep them as they are; no
other control character but the tab may occur, escaped in a double-quoted string
apart. Arrays and inline tables nest at most `maxNesting` deep, and a key has at
most `maxKeyParts` parts.
-/
import Recordsmith.Toml.Scalar

namespace Recordsmith.Toml

open Recordsmith.Text

set_option autoImplicit false

/-- How deep arrays and inline tables may nest. -/
def maxNesting : Nat := 80

/-- How many parts a key with dots may have. -/
def maxKeyParts : Nat := 80

/-- A space or a tab. -/
def isSpacing (c : Char) : Bool :=
  c == ' ' || c == '\t'

/-- Drop the spaces and tabs in front. -/
def skipSpacing (text : List Char) : List Char :=
  text.dropWhile isSpacing

/-- A character that may stand unescaped within a line. -/
def isPrintable (c : Char) : Bool :=
  c == '\t' || (0x20 ≤ c.toNat && c.toNat ≠ 0x7f)

/-- The text behind a line break. -/
def lineBreak? : List Char → Option (List Char)
  | '\n' :: rest => some rest
  | '\r' :: '\n' :: rest => some rest
  | _ => none

/-- Drop spacing, line breaks and comments. Fails on a character that may not
stand in a comment. -/
def skipTrivia (inComment : Bool) : List Char → Option (List Char)
  | [] => some []
  | '\n' :: rest => skipTrivia false rest
  | '\r' :: '\n' :: rest => skipTrivia false rest
  | c :: rest =>
      if inComment then if isPrintable c then skipTrivia true rest else none
      else if c = '#' then skipTrivia true rest
      else if isSpacing c then skipTrivia false rest
      else some (c :: rest)

/-- The text behind the rest of a line that holds nothing but a comment. -/
def endOfLine (inComment : Bool) : List Char → Option (List Char)
  | [] => some []
  | '\n' :: rest => some rest
  | '\r' :: '\n' :: rest => some rest
  | c :: rest =>
      if inComment then if isPrintable c then endOfLine true rest else none
      else if c = '#' then endOfLine true rest
      else if isSpacing c then endOfLine false rest
      else none

/-! ## Strings -/

/-- The character with the code that these hexadecimal digits write. -/
def codePoint? (digits : List Char) : Option Char :=
  let code := ofDigits 16 digits
  if digits.all (isDigitOf 16) ∧ code.isValidChar then some (Char.ofNat code) else none

/-- The character that a one-letter escape stands for. -/
def shortEscape? : Char → Option Char
  | 'b' => some '\x08'
  | 't' => some '\t'
  | 'n' => some '\n'
  | 'f' => some '\x0c'
  | 'r' => some '\r'
  | 'e' => some '\x1b'
  | '"' => some '"'
  | '\\' => some '\\'
  | _ => none

/-- What was read with a character in front of it. -/
def addFront (c : Char) (read : List Char × List Char) : List Char × List Char :=
  (c :: read.1, read.2)

/-- Read a double-quoted string from behind its quote. -/
def readBasic : List Char → Option (List Char × List Char)
  | [] => none
  | '"' :: rest => some ([], rest)
  | '\\' :: 'x' :: a :: b :: rest =>
      (codePoint? [a, b]).bind fun c => (readBasic rest).map (addFront c)
  | '\\' :: 'u' :: a :: b :: c :: d :: rest =>
      (codePoint? [a, b, c, d]).bind fun c => (readBasic rest).map (addFront c)
  | '\\' :: 'U' :: a :: b :: c :: d :: e :: f :: g :: h :: rest =>
      (codePoint? [a, b, c, d, e, f, g, h]).bind fun c => (readBasic rest).map (addFront c)
  | '\\' :: letter :: rest =>
      (shortEscape? letter).bind fun c => (readBasic rest).map (addFront c)
  | c :: rest =>
      if isPrintable c && c != '\\' then (readBasic rest).map (addFront c) else none

/-- Read a single-quoted string from behind its quote. -/
def readLiteral : List Char → Option (List Char × List Char)
  | [] => none
  | '\'' :: rest => some ([], rest)
  | c :: rest => if isPrintable c then (readLiteral rest).map (addFront c) else none

/-- Whether a backslash stands at the end of a line, with this text behind it. -/
def endsLine (text : List Char) : Bool :=
  (lineBreak? (skipSpacing text)).isSome

/-- Read a string between triple double quotes. Up to two quotes may stand in front
of the closing ones. While `joining`, behind a backslash at the end of a line, blanks
and line breaks are dropped. -/
def readMultilineBasic (joining : Bool) : List Char → Option (List Char × List Char)
  | [] => none
  | '"' :: '"' :: '"' :: '"' :: '"' :: rest => some (['"', '"'], rest)
  | '"' :: '"' :: '"' :: '"' :: rest => some (['"'], rest)
  | '"' :: '"' :: '"' :: rest => some ([], rest)
  | '\r' :: '\n' :: rest =>
      if joining then readMultilineBasic true rest
      else (readMultilineBasic false rest).map fun read => addFront '\r' (addFront '\n' read)
  | '\\' :: 'x' :: a :: b :: rest =>
      (codePoint? [a, b]).bind fun c => (readMultilineBasic false rest).map (addFront c)
  | '\\' :: 'u' :: a :: b :: c :: d :: rest =>
      (codePoint? [a, b, c, d]).bind fun c => (readMultilineBasic false rest).map (addFront c)
  | '\\' :: 'U' :: a :: b :: c :: d :: e :: f :: g :: h :: rest =>
      (codePoint? [a, b, c, d, e, f, g, h]).bind fun c =>
        (readMultilineBasic false rest).map (addFront c)
  | '\\' :: letter :: rest =>
      if endsLine (letter :: rest) then readMultilineBasic true (letter :: rest)
      else
        (shortEscape? letter).bind fun c => (readMultilineBasic false rest).map (addFront c)
  | c :: rest =>
      if joining && (isSpacing c || c == '\n') then readMultilineBasic true rest
      else if (isPrintable c && c != '\\') || c == '\n' then
        (readMultilineBasic false rest).map (addFront c)
      else none

/-- Read a string between triple single quotes. -/
def readMultilineLiteral : List Char → Option (List Char × List Char)
  | [] => none
  | '\'' :: '\'' :: '\'' :: '\'' :: '\'' :: rest => some (['\'', '\''], rest)
  | '\'' :: '\'' :: '\'' :: '\'' :: rest => some (['\''], rest)
  | '\'' :: '\'' :: '\'' :: rest => some ([], rest)
  | '\r' :: '\n' :: rest =>
      (readMultilineLiteral rest).map fun read => addFront '\r' (addFront '\n' read)
  | c :: rest =>
      if isPrintable c || c == '\n' then (readMultilineLiteral rest).map (addFront c) else none

/-- A multi-line string does not hold the line break right behind its quotes. -/
def skipFirstBreak (text : List Char) : List Char :=
  (lineBreak? text).getD text

/-- Read a string of any of the four kinds. -/
def readText? (text : List Char) : Option (List Char × List Char) :=
  match text with
  | '"' :: '"' :: '"' :: rest => readMultilineBasic false (skipFirstBreak rest)
  | '"' :: rest => readBasic rest
  | '\'' :: '\'' :: '\'' :: rest => readMultilineLiteral (skipFirstBreak rest)
  | '\'' :: rest => readLiteral rest
  | _ => none

/-! ## Keys -/

/-- A character of a key without quotes. -/
def isBareKeyChar (c : Char) : Bool :=
  c.isAlphanum || c == '_' || c == '-'

/-- Read a key without dots. -/
def readSimpleKey (text : List Char) : Option (String × List Char) :=
  let quoted (read : List Char × List Char) := (String.ofList read.1, read.2)
  match text with
  | '"' :: rest => (readBasic rest).map quoted
  | '\'' :: rest => (readLiteral rest).map quoted
  | _ =>
      let bare := text.takeWhile isBareKeyChar
      if bare = [] then none else some (String.ofList bare, text.dropWhile isBareKeyChar)

/-- Read a key of at most so many parts, and the spacing behind it. -/
def readParts : Nat → List Char → Option (Key × List Char)
  | 0, _ => none
  | parts + 1, text =>
      (readSimpleKey text).bind fun (name, rest) =>
        match skipSpacing rest with
        | '.' :: rest =>
            (readParts parts (skipSpacing rest)).map fun (key, rest) =>
              ({ key with path := name :: key.path }, rest)
        | rest => some (⟨[], name⟩, rest)

/-- Read a key and the spacing behind it. -/
def readKey (text : List Char) : Option (Key × List Char) :=
  readParts maxKeyParts text

/-! ## Values -/

/-- A character that no bare word contains. -/
def endsWord (c : Char) : Bool :=
  c ∈ ['\n', '\r', '#', ',', '=', '[', ']', '{', '}']

/-- Whether a bare word goes on with a text behind its spacing. -/
def continuesWord : List Char → Bool
  | [] => false
  | c :: _ => !endsWord c && c != '"' && c != '\''

/-- Read a bare word. It may contain spacing, as between a date and a time, but does
not end in it. -/
def readWord : List Char → List Char × List Char
  | [] => ([], [])
  | c :: rest =>
      if endsWord c || (isSpacing c && !continuesWord (skipSpacing rest)) then ([], c :: rest)
      else addFront c (readWord rest)

/-- Read a value that is neither an array nor an inline table. -/
def readScalar (text : List Char) : Option (Node × List Char) :=
  match text with
  | [] => none
  | c :: _ =>
      if c = '"' ∨ c = '\'' then
        (readText? text).map fun (value, rest) => (.text (String.ofList value), rest)
      else
        let (word, rest) := readWord text
        (scalar? word).map fun value => (value, rest)

mutual

/-- Read a value; `room` more containers may nest in it. -/
def readValue : Nat → Nat → List Char → Option (Node × List Char)
  | 0, _, _ => none
  | steps + 1, room, text =>
      match text with
      | '[' :: rest =>
          if room = 0 then none
          else (readItems steps (room - 1) rest).map fun (items, rest) => (.array items, rest)
      | '{' :: rest =>
          if room = 0 then none
          else
            (readEntries steps (room - 1) rest).bind fun (entries, rest) =>
              (Table.inline? entries).map fun table => (table, rest)
      | _ => readScalar text

/-- Read the items of an array up to its end. -/
def readItems : Nat → Nat → List Char → Option (List Node × List Char)
  | 0, _, _ => none
  | steps + 1, room, text =>
      (skipTrivia false text).bind fun text =>
        match text with
        | ']' :: rest => some ([], rest)
        | _ =>
            (readValue steps room text).bind fun (item, rest) =>
              (skipTrivia false rest).bind fun rest =>
                match rest with
                | ',' :: rest =>
                    (readItems steps room rest).map fun (items, rest) => (item :: items, rest)
                | ']' :: rest => some ([item], rest)
                | _ => none

/-- Read the entries of an inline table up to its end. -/
def readEntries : Nat → Nat → List Char → Option (List (Key × Node) × List Char)
  | 0, _, _ => none
  | steps + 1, room, text =>
      (skipTrivia false text).bind fun text =>
        match text with
        | '}' :: rest => some ([], rest)
        | _ =>
            (readKey text).bind fun (key, rest) =>
              (skipTrivia false rest).bind fun rest =>
                match rest with
                | '=' :: rest =>
                    (skipTrivia false rest).bind fun rest =>
                      (readValue steps room rest).bind fun (value, rest) =>
                        (skipTrivia false rest).bind fun rest =>
                          match rest with
                          | ',' :: rest =>
                              (readEntries steps room rest).map fun (entries, rest) =>
                                ((key, value) :: entries, rest)
                          | '}' :: rest => some ([(key, value)], rest)
                          | _ => none
                | _ => none

end

/-! ## Lines -/

/-- What a line of a document says. -/
inductive Statement where
  | openSection (key : Key)
  | openElement (key : Key)
  | assign (key : Key) (value : Node)

/-- Read one statement; `steps` bounds the reading of a value. -/
def readStatement (steps : Nat) (text : List Char) : Option (Statement × List Char) :=
  match text with
  | '[' :: '[' :: rest =>
      (readKey (skipSpacing rest)).bind fun (key, rest) =>
        match rest with
        | ']' :: ']' :: rest => some (.openElement key, rest)
        | _ => none
  | '[' :: rest =>
      (readKey (skipSpacing rest)).bind fun (key, rest) =>
        match rest with
        | ']' :: rest => some (.openSection key, rest)
        | _ => none
  | _ =>
      (readKey text).bind fun (key, rest) =>
        match rest with
        | '=' :: rest =>
            (readValue steps maxNesting (skipSpacing rest)).map fun (value, rest) =>
              (.assign key value, rest)
        | _ => none

/-- Read the statements of so many lines; `steps` bounds the reading of a value. -/
def readStatements (steps : Nat) : Nat → List Char → Option (List Statement)
  | 0, _ => none
  | lines + 1, text =>
      (skipTrivia false text).bind fun text =>
        match text with
        | [] => some []
        | _ =>
            (readStatement steps text).bind fun (statement, rest) =>
              (endOfLine false rest).bind fun rest =>
                (readStatements steps lines rest).map (statement :: ·)

/-- The section in which a statement stands, and the document before it. -/
structure Progress where
  current : List String
  root : Table

/-- Carry out a statement. -/
def Progress.step (progress : Progress) : Statement → Option Progress
  | .openSection key =>
      (progress.root.addSection key).map fun root => ⟨key.path ++ [key.name], root⟩
  | .openElement key =>
      (progress.root.addElement key).map fun root => ⟨key.path ++ [key.name], root⟩
  | .assign key value =>
      (progress.root.update .wayside (fun _ table => table.assign key value) .header
        progress.current).map fun root => { progress with root }

/-- The table that a whole text defines. A byte order mark in front is skipped. -/
def parse? (text : String) : Option Table :=
  let chars :=
    match text.toList with
    | '\ufeff' :: rest => rest
    | chars => chars
  let length := chars.length
  (readStatements (2 * length + 2) (length + 1) chars).bind fun statements =>
    (statements.foldlM Progress.step ⟨[], []⟩).map Progress.root

end Recordsmith.Toml
