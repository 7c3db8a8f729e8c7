import ChainLint.Text.Hex
import ChainLint.Text.Identifier
import ChainLint.Text.Line

/-!
# Tokens

A `Cursor` is what is left of a source and its byte offset.  `scan c` is the token at a cursor and the
cursor behind it.  Some texts are tokens only where the grammar expects them, and have scanners of
their own: `scanRegex`, `scanTemplate`, `scanElementName`, `scanElementText` and `scanQuoted`; and a
closing angle bracket is a token by itself unless `scanAngle` joins it to what follows.

A text that is no token is `invalid`, which no rule of the grammar takes.
-/

namespace ChainLint.Syntax

/-- What is left of a source, and how many bytes lie before it. -/
structure Cursor where
  rest : List Char
  offset : Nat
deriving Inhabited

/-- Moves a cursor behind its first `n` characters. -/
def Cursor.skip : Nat → Cursor → Cursor
  | 0, c => c
  | _ + 1, ⟨[], o⟩ => ⟨[], o⟩
  | n + 1, ⟨x :: xs, o⟩ => Cursor.skip n ⟨xs, o + x.utf8Size⟩

/-- A token of a program. -/
inductive Token
  | word (text : String) (escaped : Bool)
  | privateName
  | number
  | text
  | regex
  | template (last sound : Bool)
  | sign (text : String)
  | elementText
  | finish
  | invalid
deriving DecidableEq, Inhabited

/-- A token and the cursor behind it. -/
abbrev Scan := Token × Cursor

/-- What no rule of the grammar takes. -/
def noToken (c : Cursor) : Scan := (.invalid, c)

/-! ### Blanks and words -/

/-- Blanks other than line ends. -/
def isBlank (c : Char) : Bool :=
  c = ' ' || c = '\t' || c = '\x0b' || c = '\x0c' || c = '\u00a0' || c = '\ufeff' ||
    c = '\u0085' || c = '\u1680' || ('\u2000' ≤ c && c ≤ '\u200b') || c = '\u202f' ||
    c = '\u205f' || c = '\u3000'

/-- A code point written as an escape, and how many characters the escape takes. -/
def unicodeEscape? : List Char → Option (Nat × Nat)
  | '\\' :: 'u' :: '{' :: cs =>
    let ds := cs.takeWhile Text.isHex
    let n := Text.hexNumber ds
    if ds ≠ [] && (cs.drop ds.length).head? = some '}' && n ≤ 0x10FFFF then
      some (n, ds.length + 4)
    else none
  | '\\' :: 'u' :: cs => (Text.hexQuad? cs).map (·, 6)
  | _ => none

/-- The rest of a word, its characters so far reversed; `escaped` tells if one was an escape. -/
def scanWordRest : Nat → List Char → Bool → Cursor → Scan
  | 0, _, _, c => noToken c
  | fuel + 1, done, escaped, c =>
    match c.rest with
    | [] => (.word (String.ofList done.reverse) escaped, c)
    | x :: _ =>
      if x = '\\' then
        match unicodeEscape? c.rest with
        | some (n, length) =>
          let y := Char.ofNat n
          if if done = [] then Text.isNameStart y else Text.isNamePart y then
            scanWordRest fuel (y :: done) true (c.skip length)
          else noToken c
        | none => noToken c
      else if Text.isNamePart x then scanWordRest fuel (x :: done) escaped (c.skip 1)
      else (.word (String.ofList done.reverse) escaped, c)

/-- A word, whose first character has been looked at. -/
def scanWord (c : Cursor) : Scan := scanWordRest (c.rest.length + 1) [] false c

/-! ### Numbers -/

/-- Whether separators stand only between digits. -/
def wellSeparated : List Char → Bool
  | [] => true
  | ['_'] => false
  | '_' :: '_' :: _ => false
  | _ :: cs => wellSeparated cs

/-- The length of a run of digits with separators, if it has a digit and they are well placed. -/
def digitRun? (p : Char → Bool) (cs : List Char) : Option Nat :=
  let run := cs.takeWhile fun c => p c || c = '_'
  if run ≠ [] && run.head? ≠ some '_' && wellSeparated run then some run.length else none

/-- A binary digit. -/
def isBinary (c : Char) : Bool := c = '0' || c = '1'

/-- An octal digit. -/
def isOctal (c : Char) : Bool := '0' ≤ c && c ≤ '7'

/-- The length of the mark of a big integer. -/
def bigMark (cs : List Char) : Nat := if cs.head? = some 'n' then 1 else 0

/-- The length of an exponent, zero without one; none when its digits are missing. -/
def exponent? (cs : List Char) : Option Nat :=
  match cs with
  | e :: s :: rest =>
    if e = 'e' || e = 'E' then
      if s = '+' || s = '-' then (digitRun? Char.isDigit rest).map (· + 2)
      else (digitRun? Char.isDigit (s :: rest)).map (· + 1)
    else some 0
  | [e] => if e = 'e' || e = 'E' then none else some 0
  | [] => some 0

/-- The length of the fraction and the exponent behind a whole part. -/
def fraction? (cs : List Char) : Option Nat :=
  match cs with
  | '.' :: rest =>
    let run := if (rest.head?.map Char.isDigit).getD false then digitRun? Char.isDigit rest else some 0
    run.bind fun n => (exponent? (rest.drop n)).map (n + 1 + ·)
  | _ => exponent? cs

/-- The length of a decimal number. -/
def decimal? (cs : List Char) : Option Nat :=
  match digitRun? Char.isDigit cs with
  | none => fraction? cs
  | some n =>
    let whole := cs.take n
    let rest := cs.drop n
    if whole.length > 1 && whole.head? = some '0' then
      if whole.contains '_' then none
      else if whole.all isOctal then some n
      else (fraction? rest).map (n + ·)
    else if bigMark rest = 1 then some (n + 1)
    else (fraction? rest).map (n + ·)

/-- The length of a number in any notation. -/
def numberLength? : List Char → Option Nat
  | '0' :: x :: cs =>
    let inBase (p : Char → Bool) : Option Nat :=
      (digitRun? p cs).map fun n => n + 2 + bigMark (cs.drop n)
    if x = 'x' || x = 'X' then inBase Text.isHex
    else if x = 'o' || x = 'O' then inBase isOctal
    else if x = 'b' || x = 'B' then inBase isBinary
    else decimal? ('0' :: x :: cs)
  | cs => decimal? cs

/-- A number, behind which no word and no digit may follow at once. -/
def scanNumber (c : Cursor) : Scan :=
  match numberLength? c.rest with
  | none => noToken c
  | some n =>
    let after := c.skip n
    match after.rest with
    | x :: _ => if Text.isNamePart x || x = '\\' then noToken c else (.number, after)
    | [] => (.number, after)

/-! ### Strings, templates and regular expressions -/

/-- The characters of an escape inside quotes; none for one that is malformed. -/
def escapeLength? : List Char → Option Nat
  | '\\' :: 'x' :: a :: b :: _ => if Text.isHex a && Text.isHex b then some 4 else none
  | '\\' :: 'x' :: _ => none
  | '\\' :: 'u' :: cs => (unicodeEscape? ('\\' :: 'u' :: cs)).map (·.2)
  | '\\' :: '\r' :: '\n' :: _ => some 3
  | '\\' :: _ :: _ => some 2
  | _ => none

/-- The inside of a string and its closing quote. -/
def scanStringRest (quote : Char) : Nat → Cursor → Scan
  | 0, c => noToken c
  | fuel + 1, c =>
    match c.rest with
    | [] => noToken c
    | '\\' :: _ =>
      match escapeLength? c.rest with
      | some n => scanStringRest quote fuel (c.skip n)
      | none => noToken c
    | x :: _ =>
      if x = quote then (.text, c.skip 1)
      else if x = '\n' || x = '\r' then noToken c
      else scanStringRest quote fuel (c.skip 1)

/-- A string, whose quote has been looked at. -/
def scanString (quote : Char) (c : Cursor) : Scan :=
  scanStringRest quote (c.rest.length + 1) (c.skip 1)

/-- Whether an escape of a template stands for a character. -/
def soundEscape (cs : List Char) : Bool :=
  match cs with
  | '\\' :: '0' :: d :: _ => !d.isDigit
  | '\\' :: d :: _ => !('1' ≤ d && d ≤ '9') && (escapeLength? cs).isSome
  | _ => true

/-- A piece of a template up to its end or to an expression in it. -/
def scanTemplateRest : Nat → Bool → Cursor → Scan
  | 0, _, c => noToken c
  | fuel + 1, sound, c =>
    match c.rest with
    | [] => noToken c
    | '\x60' :: _ => (.template true sound, c.skip 1)
    | '$' :: '{' :: _ => (.template false sound, c.skip 2)
    | '\\' :: _ =>
      if soundEscape c.rest then scanTemplateRest fuel sound (c.skip ((escapeLength? c.rest).getD 2))
      else scanTemplateRest fuel false (c.skip 2)
    | _ => scanTemplateRest fuel sound (c.skip 1)

/-- A piece of a template behind its backquote or behind the brace of an expression. -/
def scanTemplate (c : Cursor) : Scan := scanTemplateRest (c.rest.length + 1) true (c.skip 1)

/-- The inside of a regular expression and its closing slash. -/
def scanRegexBody : Nat → Bool → Cursor → Option Cursor
  | 0, _, _ => none
  | fuel + 1, inClass, c =>
    match c.rest with
    | [] => none
    | '\\' :: x :: _ => if Text.isLineEnd x then none else scanRegexBody fuel inClass (c.skip 2)
    | x :: _ =>
      if Text.isLineEnd x || x = '\\' then none
      else if x = '/' && !inClass then some (c.skip 1)
      else scanRegexBody fuel (if x = '[' then true else if x = ']' then false else inClass) (c.skip 1)

/-- Whether regular expression flags are known and stand once. -/
def validFlags (flags : List Char) : Bool :=
  flags.all "dgimsuvy".toList.contains && flags.eraseDups.length = flags.length

/-- A regular expression, whose slash has been looked at. -/
def scanRegex (c : Cursor) : Scan :=
  match scanRegexBody (c.rest.length + 1) false (c.skip 1) with
  | none => noToken c
  | some after =>
    let flags := after.rest.takeWhile Text.isNamePart
    if validFlags flags then (.regex, after.skip flags.length) else noToken c

/-! ### Inside elements -/

/-- A name inside a tag, which may hold hyphens. -/
def scanElementName (c : Cursor) : Scan :=
  match c.rest with
  | x :: _ =>
    if Text.isNameStart x then
      let name := c.rest.takeWhile fun y => Text.isNamePart y || y = '-'
      (.word (String.ofList name) true, c.skip name.length)
    else noToken c
  | [] => noToken c

/-- A quoted attribute: any characters up to the same quote. -/
def scanQuoted (c : Cursor) : Scan :=
  match c.rest with
  | quote :: cs =>
    let inside := cs.takeWhile (· ≠ quote)
    if (quote = '"' || quote = '\x27') && inside.length < cs.length then
      (.text, c.skip (inside.length + 2))
    else noToken c
  | [] => noToken c

/-- Text between tags, which ends before a brace or a tag. -/
def scanElementText (c : Cursor) : Scan :=
  match c.rest with
  | '<' :: _ => (.sign "<", c.skip 1)
  | '{' :: _ => (.sign "\x7b", c.skip 1)
  | _ =>
    let run := c.rest.takeWhile fun x => !(['<', '{', '>', '}'].contains x)
    let after := c.skip run.length
    match after.rest with
    | '<' :: _ | '{' :: _ => (.elementText, after)
    | _ => noToken c

/-! ### Signs -/

/-- The signs of the grammar, each before those it starts with. -/
def signs : List (List Char × String) :=
  ["...", "===", "!==", "**=", "<<=", "&&=", "||=", "??=", "=>", "==", "!=", "<=", "++", "--",
    "<<", "&&", "||", "??", "?.", "+=", "-=", "*=", "/=", "%=", "&=", "|=", "^=", "**", "\x7b",
    "\x7d", "(", ")", "[", "]", ";", ",", "<", ">", "+", "-", "*", "/", "%", "&", "|", "^", "!",
    "~", "?", ":", "=", ".", "@"].map fun s => (s.toList, s)

/-- The signs that a closing angle bracket begins. -/
def angleSigns : List (List Char × String) :=
  [">>>=", ">>>", ">>=", ">>", ">=", ">"].map fun s => (s.toList, s)

/-- Whether a sign stands at the head of a text; a dot behind a question mark belongs to a digit. -/
def signAt (cs : List Char) (s : List Char × String) : Bool :=
  s.1.isPrefixOf cs && !(s.2 = "?." && ((cs.drop 2).head?.map Char.isDigit).getD false)

/-- The first of some signs that stands at the cursor. -/
def scanSignOf (table : List (List Char × String)) (c : Cursor) : Scan :=
  match table.find? (signAt c.rest) with
  | some s => (.sign s.2, c.skip s.1.length)
  | none => noToken c

/-- The longest sign at a closing angle bracket. -/
def scanAngle (c : Cursor) : Scan := scanSignOf angleSigns c

/-- A private name, whose hash has been looked at. -/
def scanPrivate (c : Cursor) : Scan :=
  match (c.skip 1).rest with
  | x :: _ =>
    if Text.isNameStart x || x = '\\' then
      match scanWord (c.skip 1) with
      | (.word _ _, after) => (.privateName, after)
      | _ => noToken c
    else noToken c
  | [] => noToken c

/-- The token at a cursor, no blank or comment standing there. -/
def scan (c : Cursor) : Scan :=
  match c.rest with
  | [] => (.finish, c)
  | x :: cs =>
    if Text.isNameStart x || x = '\\' then scanWord c
    else if x.isDigit || (x = '.' && (cs.head?.map Char.isDigit).getD false) then scanNumber c
    else if x = '"' || x = '\x27' then scanString x c
    else if x = '\x60' then scanTemplate c
    else if x = '#' then scanPrivate c
    else scanSignOf signs c

end ChainLint.Syntax
