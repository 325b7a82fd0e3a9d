import PageRecords.Unicode.Code

/-!
# Tokens of selectors

Comments and unread ends are forgiven: a string or a comment may end with the
text, and a backslash at the end stands for the replacement character.
-/

namespace PageRecords.Selector

open Unicode (hexValue? charOfCode?)

/-- How an attribute's value is compared. -/
inductive Operator where
  | equal
  | word
  | dash
  | start
  | stop
  | part
deriving DecidableEq, Repr

inductive Token where
  | ident (name : String)
  /-- A name and the parenthesis right after it. -/
  | function (name : String)
  /-- A hash mark and a name that could stand alone. -/
  | hash (name : String)
  | string (value : String)
  /-- The value is there if the number is written as an integer. -/
  | number (signed : Bool) (value : Option Int)
  | dimension (value : Option Int) (unit : String)
  | blank
  | colon
  | comma
  | openBracket
  | closeBracket
  | closeParen
  | operator (op : Operator)
  | delim (c : Char)
  /-- A token that no selector has. -/
  | foreign
deriving DecidableEq, Repr

def isNewline (c : Char) : Bool := c = '\n' || c = '\r' || c = '\x0c'

def isBlank (c : Char) : Bool := c = ' ' || c = '\t' || isNewline c

def replacement : Char := '\ufffd'

def isNameStart (c : Char) : Bool :=
  c.isAlpha || c = '_' || c = '\x00' || c.toNat ≥ 0x80

def isNameChar (c : Char) : Bool :=
  isNameStart c || c.isDigit || c = '-'

/-- A backslash that escapes what follows. -/
def startsEscape : List Char → Bool
  | '\\' :: c :: _ => !isNewline c
  | ['\\'] => true
  | _ => false

def startsName : List Char → Bool
  | '-' :: '-' :: _ => true
  | '-' :: c :: rest => isNameStart c || startsEscape (c :: rest)
  | c :: rest => isNameStart c || startsEscape (c :: rest)
  | [] => false

def startsDigit : List Char → Bool
  | c :: _ => c.isDigit
  | [] => false

/-- Whether a number starts here, its sign aside. -/
def startsMagnitude : List Char → Bool
  | '.' :: rest => startsDigit rest
  | cs => startsDigit cs

-- --------------------------------------------------------------------
-- Names and strings
-- --------------------------------------------------------------------

/-- One line break. -/
def dropNewline : List Char → List Char
  | '\r' :: '\n' :: rest => rest
  | c :: rest => if isNewline c then rest else c :: rest
  | [] => []

theorem length_dropNewline (cs : List Char) : (dropNewline cs).length ≤ cs.length := by
  fun_cases dropNewline cs <;> simp_all
  omega

/-- The blank that closes a numeric escape. -/
def dropBlank : List Char → List Char
  | ' ' :: rest | '\t' :: rest => rest
  | cs => dropNewline cs

theorem length_dropBlank (cs : List Char) : (dropBlank cs).length ≤ cs.length := by
  fun_cases dropBlank cs <;> simp_all [length_dropNewline]

/-- The character that is escaped, after the backslash. -/
def escaped (cs : List Char) : Char × List Char :=
  let digits := (cs.take 6).takeWhile fun c => (hexValue? c).isSome
  if digits.isEmpty then
    match cs with
    | [] => (replacement, [])
    | c :: rest => (if c = '\x00' then replacement else c, rest)
  else
    let code := digits.foldl (fun n c => n * 16 + (hexValue? c).getD 0) 0
    let c := if code = 0 then replacement else (charOfCode? code).getD replacement
    (c, dropBlank (cs.drop digits.length))

theorem length_escaped (cs : List Char) : (escaped cs).2.length ≤ cs.length := by
  unfold escaped
  dsimp only
  split
  · cases cs <;> simp
  · refine Nat.le_trans (length_dropBlank _) ?_
    simp

/-- The name here, possibly empty, and the rest. -/
def name : List Char → List Char × List Char
  | [] => ([], [])
  | c :: rest =>
    if startsEscape (c :: rest) then
      have : (escaped rest).2.length < rest.length + 1 :=
        Nat.lt_succ_of_le (length_escaped rest)
      let (ds, after) := name (escaped rest).2
      ((escaped rest).1 :: ds, after)
    else if isNameChar c then
      let (ds, rest) := name rest
      ((if c = '\x00' then replacement else c) :: ds, rest)
    else ([], c :: rest)
termination_by cs => cs.length

/-- The string that the quote ends, and the rest; nothing if a line breaks in it. -/
def quoted (quote : Char) : List Char → Option (List Char × List Char)
  | [] => some ([], [])
  | '\\' :: rest =>
    match _h : rest with
    | [] => some ([], [])
    | c :: more =>
      if isNewline c then
        have : (dropNewline (c :: more)).length ≤ more.length + 1 := length_dropNewline _
        quoted quote (dropNewline (c :: more))
      else
        have : (escaped (c :: more)).2.length ≤ more.length + 1 := length_escaped _
        (quoted quote (escaped (c :: more)).2).map fun (ds, rest) =>
          ((escaped (c :: more)).1 :: ds, rest)
  | c :: rest =>
    if c = quote then some ([], rest)
    else if isNewline c then none
    else (quoted quote rest).map fun (ds, rest) =>
      ((if c = '\x00' then replacement else c) :: ds, rest)
termination_by cs => cs.length

-- --------------------------------------------------------------------
-- Numbers
-- --------------------------------------------------------------------

/-- Numbers stop at the bounds of thirty-two bits. -/
def clamp (n : Int) : Int := max (-2147483648) (min 2147483647 n)

def digitsValue (ds : List Char) : Nat :=
  ds.foldl (fun n c => n * 10 + (c.toNat - '0'.toNat)) 0

/-- Drops an exponent and tells whether there was one. -/
def dropExponent (cs : List Char) : Bool × List Char :=
  match cs with
  | e :: rest =>
    if e = 'e' || e = 'E' then
      let unsigned := match rest with
        | '+' :: more | '-' :: more => more
        | rest => rest
      if startsDigit unsigned then (true, unsigned.dropWhile Char.isDigit) else (false, cs)
    else (false, cs)
  | [] => (false, [])

/-- The number here, with the unit right after it. -/
def numeric (cs : List Char) : Token × List Char :=
  let (signed, negative, cs) := match cs with
    | '-' :: rest => (true, true, rest)
    | '+' :: rest => (true, false, rest)
    | cs => (false, false, cs)
  let whole := cs.takeWhile Char.isDigit
  let rest := cs.dropWhile Char.isDigit
  let (fraction, rest) := match rest with
    | '.' :: more => if startsDigit more then (true, more.dropWhile Char.isDigit) else (false, rest)
    | rest => (false, rest)
  let (exponent, rest) := dropExponent rest
  let magnitude : Int := digitsValue whole
  let value :=
    if fraction || exponent then none else some (clamp (if negative then -magnitude else magnitude))
  match rest with
  | '%' :: rest => (.foreign, rest)
  | rest =>
    if startsName rest then
      let (unit, rest) := name rest
      (.dimension value (String.ofList unit), rest)
    else (.number signed value, rest)

-- --------------------------------------------------------------------
-- Tokens
-- --------------------------------------------------------------------

/-- What follows a comment, of which the start is read. -/
def afterComment : List Char → List Char
  | '*' :: '/' :: rest => rest
  | _ :: rest => afterComment rest
  | [] => []

/-- A name, or a function if a parenthesis follows. -/
def named (cs : List Char) : Token × List Char :=
  let (n, rest) := name cs
  match rest with
  | '(' :: rest => (.function (String.ofList n), rest)
  | rest => (.ident (String.ofList n), rest)

/-- A token of one or two characters: an operator if an equals sign follows. -/
def orOperator (op : Operator) (c : Char) : List Char → Token × List Char
  | '=' :: rest => (.operator op, rest)
  | rest => (.delim c, rest)

/-- The token that starts with `c`, and the rest. -/
def token (c : Char) (rest : List Char) : Token × List Char :=
  if isBlank c then (.blank, rest.dropWhile isBlank)
  else if c = '"' || c = '\'' then
    match quoted c rest with
    | some (value, rest) => (.string (String.ofList value), rest)
    | none => (.foreign, rest)
  else if c = '#' then
    if startsName rest then
      let (n, rest) := name rest
      (.hash (String.ofList n), rest)
    else (.foreign, rest)
  else if c.isDigit || ((c = '+' || c = '-') && startsMagnitude rest) ||
      (c = '.' && startsDigit rest) then numeric (c :: rest)
  else if startsName (c :: rest) then named (c :: rest)
  else if c = ',' then (.comma, rest)
  else if c = ':' then (.colon, rest)
  else if c = '[' then (.openBracket, rest)
  else if c = ']' then (.closeBracket, rest)
  else if c = ')' then (.closeParen, rest)
  else if c = '~' then orOperator .word c rest
  else if c = '|' then orOperator .dash c rest
  else if c = '^' then orOperator .start c rest
  else if c = '$' then orOperator .stop c rest
  else if c = '*' then orOperator .part c rest
  else if c = '=' then (.operator .equal, rest)
  else (.delim c, rest)

/-- The tokens of a text, comments left out. -/
def tokens (fuel : Nat) (cs : List Char) : List Token :=
  match fuel, cs with
  | 0, _ | _, [] => []
  | fuel + 1, '/' :: '*' :: rest => tokens fuel (afterComment rest)
  | fuel + 1, '-' :: '-' :: '>' :: rest => .foreign :: tokens fuel rest
  | fuel + 1, c :: rest =>
    let (t, rest) := token c rest
    t :: tokens fuel rest

def tokensOf (s : String) : List Token := tokens s.length s.toList

end PageRecords.Selector
