import Mathlib.Algebra.Group.Nat.Defs
import Mathlib.Data.List.Basic

/-!
# Literal expressions of LuaJIT

What a Lua chunk `return e` gives for an expression `e` built from literals: `nil`, `true`,
`false`, decimal integers with an optional minus sign, short strings in `"` or `'`, and table
constructors whose fields are such expressions. The reader works on the bytes of the text, as
the LuaJIT lexer (`lj_lex.c`) does, and gives the value and the text after the expression.

`none` is a lexical or syntax error, or a form this reader leaves out: comments, the escapes
`\z` and `\u{...}`, numerals other than decimal integers below `2 ^ 53` (LuaJIT reads the
others as floating-point numbers), and all other expressions.

A short string reads a byte as itself unless it is the closing quote, a line break (an error)
or a backslash, which starts an escape (`readShortString_append_plain`,
`readShortString_escape`).
-/

namespace Lua

/-- The values of literal expressions; a table is the list of its positional fields. -/
inductive Value where
  | nil
  | bool (b : Bool)
  | number (n : Int)
  | str (s : List UInt8)
  | table (fields : List Value)
deriving Repr

/-- `lj_char_isspace`. -/
def isSpace (c : UInt8) : Bool := c = 32 || (9 ≤ c && c ≤ 13)

/-- `lj_char_isdigit`. -/
def isDigit (c : UInt8) : Bool := 48 ≤ c && c ≤ 57

/-- `lj_char_isident`: letters, digits, `_`, and every byte from `0x80`. -/
def isIdent (c : UInt8) : Bool :=
  isDigit c || (65 ≤ c && c ≤ 90) || (97 ≤ c && c ≤ 122) || c = 95 || 128 ≤ c

/-- The value of a hexadecimal digit. -/
def hexVal (c : UInt8) : Option Nat :=
  if isDigit c then some (c.toNat - 48)
  else if 65 ≤ c && c ≤ 70 then some (c.toNat - 55)
  else if 97 ≤ c && c ≤ 102 then some (c.toNat - 87)
  else none

/-- The byte of a one-character escape: `\a \b \f \n \r \t \v \\ \" \'`. -/
def escapeByte (c : UInt8) : Option UInt8 :=
  if c = 97 then some 7
  else if c = 98 then some 8
  else if c = 102 then some 12
  else if c = 110 then some 10
  else if c = 114 then some 13
  else if c = 116 then some 9
  else if c = 118 then some 11
  else if c = 92 ∨ c = 34 ∨ c = 39 then some c
  else none

/-- A byte written before the rest of a string. -/
def consByte (b : UInt8) (r : Option (List UInt8 × List UInt8)) : Option (List UInt8 × List UInt8) :=
  r.map fun (s, rest) => (b :: s, rest)

/-- `lex_string` after the opening quote `delim`: the bytes of the string and the text after
the closing quote. -/
def readShortString (delim : UInt8) : List UInt8 → Option (List UInt8 × List UInt8)
  | [] => none
  | c :: cs =>
    if c = delim then some ([], cs)
    else if c = 10 ∨ c = 13 then none
    else if c = 92 then
      match cs with
      | [] => none
      | e :: rest =>
        match escapeByte e with
        | some b => consByte b (readShortString delim rest)
        | none =>
          if e = 10 ∨ e = 13 then
            -- an escaped line break is a newline; `\r\n` and `\n\r` count as one
            match rest with
            | f :: rest' =>
              if (f = 10 ∨ f = 13) ∧ f ≠ e then consByte 10 (readShortString delim rest')
              else consByte 10 (readShortString delim (f :: rest'))
            | [] => none
          else if e = 120 then
            match rest with
            | h₁ :: h₂ :: rest' =>
              match hexVal h₁, hexVal h₂ with
              | some a, some b => consByte (16 * a + b).toUInt8 (readShortString delim rest')
              | _, _ => none
            | _ => none
          else if isDigit e then
            -- up to three decimal digits, at most 255
            match rest with
            | d₂ :: rest' =>
              if isDigit d₂ then
                match rest' with
                | d₃ :: rest'' =>
                  if isDigit d₃ then
                    let v := 100 * (e.toNat - 48) + 10 * (d₂.toNat - 48) + (d₃.toNat - 48)
                    if v > 255 then none else consByte v.toUInt8 (readShortString delim rest'')
                  else
                    consByte (10 * (e.toNat - 48) + (d₂.toNat - 48)).toUInt8
                      (readShortString delim (d₃ :: rest''))
                | [] => none
              else consByte (e.toNat - 48).toUInt8 (readShortString delim (d₂ :: rest'))
            | [] => none
          else none
    else consByte c (readShortString delim cs)

/-- The text without its leading white space. -/
def skipSpace (t : List UInt8) : List UInt8 := t.dropWhile isSpace

/-- The value of a string of decimal digits. -/
def digitsValue (ds : List UInt8) : Nat := ds.foldl (fun n d => 10 * n + (d.toNat - 48)) 0

/-- A numeral: the longest run of identifier bytes and dots, read when it is a decimal integer
below `2 ^ 53`. -/
def readNumeral (t : List UInt8) : Option (Nat × List UInt8) :=
  let run := t.takeWhile fun c => isIdent c || c = 46
  if run ≠ [] ∧ run.all isDigit ∧ digitsValue run < 2 ^ 53 then
    some (digitsValue run, t.drop run.length)
  else none

/-- A keyword at the start of a text: its bytes, not followed by an identifier byte. -/
def readKeyword (kw t : List UInt8) : Option (List UInt8) :=
  if kw.isPrefixOf t ∧ ((t.drop kw.length).head?.map isIdent) ≠ some true then
    some (t.drop kw.length)
  else none

mutual

/-- An expression at the start of a text, with at most `fuel` nested tables and fields. -/
def readExp : Nat → List UInt8 → Option (Value × List UInt8)
  | 0, _ => none
  | fuel + 1, input =>
    match skipSpace input with
    | [] => none
    | c :: rest =>
      if c = 34 ∨ c = 39 then (readShortString c rest).map fun (s, r) => (.str s, r)
      else if c = 123 then readFields fuel [] rest
      else if c = 45 then
        -- a minus sign before a numeral; `--` starts a comment
        if rest.head? = some 45 then none
        else (readNumeral (skipSpace rest)).map fun (n, r) => (.number (-n), r)
      else if isDigit c then (readNumeral (c :: rest)).map fun (n, r) => (.number n, r)
      else
        match readKeyword "nil".toUTF8.toList (c :: rest) with
        | some r => some (.nil, r)
        | none =>
          match readKeyword "true".toUTF8.toList (c :: rest) with
          | some r => some (.bool true, r)
          | none => (readKeyword "false".toUTF8.toList (c :: rest)).map fun r => (.bool false, r)

/-- The fields of a table constructor after `{` and the fields `acc` read so far, up to the
closing `}`; a field is followed by `,` or `;`, the last one possibly by nothing. -/
def readFields : Nat → List Value → List UInt8 → Option (Value × List UInt8)
  | 0, _, _ => none
  | fuel + 1, acc, input =>
    match skipSpace input with
    | [] => none
    | c :: rest =>
      if c = 125 then some (.table acc, rest)
      else
        match readExp fuel (c :: rest) with
        | none => none
        | some (v, rest') =>
          match skipSpace rest' with
          | [] => none
          | s :: rest'' =>
            if s = 44 ∨ s = 59 then readFields fuel (acc ++ [v]) rest''
            else if s = 125 then some (.table (acc ++ [v]), rest'')
            else none

end

/-- The value of `return e` for the text `e`: the whole text is one expression. -/
def eval (text : List UInt8) : Option Value :=
  match readExp (text.length + 1) text with
  | some (v, rest) => if skipSpace rest = [] then some v else none
  | none => none

/-! ### Short strings -/

/-- A byte that a short string in `"` reads as itself. -/
def plainByte (b : UInt8) : Prop := b ≠ 34 ∧ b ≠ 92 ∧ b ≠ 10 ∧ b ≠ 13

instance : DecidablePred plainByte := fun b =>
  inferInstanceAs (Decidable (b ≠ 34 ∧ b ≠ 92 ∧ b ≠ 10 ∧ b ≠ 13))

@[simp] lemma readShortString_quote (rest : List UInt8) :
    readShortString 34 (34 :: rest) = some ([], rest) := by
  rw [readShortString.eq_def]
  simp

/-- A backslash and an escape letter are read as the byte the escape stands for. -/
theorem readShortString_escape (e b : UInt8) (rest : List UInt8) (he : escapeByte e = some b) :
    readShortString 34 (92 :: e :: rest) = consByte b (readShortString 34 rest) := by
  rw [readShortString.eq_def]
  simp [he]

/-- A plain byte is read as itself. -/
lemma readShortString_cons_plain {c : UInt8} (hc : plainByte c) (cs : List UInt8) :
    readShortString 34 (c :: cs) = consByte c (readShortString 34 cs) := by
  obtain ⟨hquote, hback, hlf, hcr⟩ := hc
  rw [readShortString.eq_def]
  simp [hquote, hback, hlf, hcr]

/-- Bytes other than the quote, the backslash and line breaks are read as themselves. -/
theorem readShortString_append_plain {s t rest : List UInt8} {out : List UInt8}
    (hs : ∀ b ∈ s, plainByte b) (ht : readShortString 34 t = some (out, rest)) :
    readShortString 34 (s ++ t) = some (s ++ out, rest) := by
  induction s with
  | nil => simpa using ht
  | cons b s ih =>
    rw [List.cons_append, readShortString_cons_plain (hs b List.mem_cons_self),
      ih fun b hb => hs b (List.mem_cons_of_mem _ hb)]
    rfl

/-- A string literal followed by nothing but white space is read by `eval`. -/
theorem eval_string {s out : List UInt8} (hs : readShortString 34 s = some (out, [])) :
    eval (34 :: s) = some (.str out) := by
  simp [eval, readExp, skipSpace, isSpace, hs]

end Lua
