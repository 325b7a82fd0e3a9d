import PageRecords.Html.Declaration

/-!
# Reading tokens

One step reads from a given text mode: at least one character, or the end. Text
other than in the data mode ends only with the end tag of the element it stands
in, which is the one started last.
-/

namespace PageRecords.Html

/-- The tokens of a step, what remains, and how to read it. -/
structure Lexed where
  tokens : List Token
  rest : List Char
  mode : TextMode

/-- What the state of the page has to say about reading. -/
structure Surroundings where
  /-- The name of the element started last. -/
  lastStarted : String
  /-- The current element is not one of HTML. -/
  foreign : Bool

def chars (cs : List Char) : List Token := cs.map .char

-- --------------------------------------------------------------------
-- Tags
-- --------------------------------------------------------------------

/-- A tag that the page ends in is left out. -/
def readStartTag (cs : List Char) : Lexed :=
  let (name, rest) := tagName cs
  match readAttributes rest with
  | some (attributes, selfClosing, rest) =>
    ⟨[.startTag ⟨name, attributes, selfClosing⟩], rest, .data⟩
  | none => ⟨[], [], .data⟩

def readEndTagFrom (name : String) (cs : List Char) : Lexed :=
  match readAttributes cs with
  | some (_, _, rest) => ⟨[.endTag name], rest, .data⟩
  | none => ⟨[], [], .data⟩

def readEndTag (cs : List Char) : Lexed :=
  let (name, rest) := tagName cs
  readEndTagFrom name rest

/-- What follows the name, if the text is the end tag of that element after its
bracket and slash. -/
def afterEndOf? (name : String) (cs : List Char) : Option (List Char) :=
  let letters := cs.takeWhile Char.isAlpha
  let rest := cs.dropWhile Char.isAlpha
  match rest with
  | c :: _ =>
    if letters.map Char.toLower = name.toList && endsTagName c then some rest else none
  | [] => none

-- --------------------------------------------------------------------
-- Modes
-- --------------------------------------------------------------------

/-- After an opening bracket and an exclamation mark. -/
def readDeclaration (foreign : Bool) (cs : List Char) : Lexed :=
  match cs with
  | '-' :: '-' :: rest =>
    let (text, rest) := commentFrom .opening rest
    ⟨[.comment (String.ofList text)], rest, .data⟩
  | cs =>
    if Doctype.startsWithWord "doctype" cs then
      let (d, rest) := Doctype.read (cs.drop 7)
      ⟨[.doctype d], rest, .data⟩
    else if foreign && "[CDATA[".toList.isPrefixOf cs then ⟨[], cs.drop 7, .cdata⟩
    else
      let (t, rest) := bogusComment cs
      ⟨[t], rest, .data⟩

/-- After an opening bracket. -/
def readMarkup (foreign : Bool) (cs : List Char) : Lexed :=
  match cs with
  | '!' :: rest => readDeclaration foreign rest
  | '?' :: _ =>
    let (t, rest) := bogusComment cs
    ⟨[t], rest, .data⟩
  | '/' :: rest =>
    match rest with
    | [] => ⟨chars ['<', '/'], [], .data⟩
    | '>' :: rest => ⟨[], rest, .data⟩
    | c :: _ =>
      if c.isAlpha then readEndTag rest
      else
        let (t, rest) := bogusComment rest
        ⟨[t], rest, .data⟩
  | c :: _ => if c.isAlpha then readStartTag cs else ⟨chars ['<'], cs, .data⟩
  | [] => ⟨chars ['<'], [], .data⟩

def readData (foreign : Bool) (c : Char) (rest : List Char) : Lexed :=
  if c = '&' then
    let (text, rest) := reference false rest
    ⟨chars text, rest, .data⟩
  else if c = '<' then readMarkup foreign rest
  else ⟨[.char c], rest, .data⟩

/-- A character of text in which only the end tag of the element counts. -/
def readRaw (mode : TextMode) (lastStarted : String) (c : Char) (rest : List Char) : Lexed :=
  match c, rest with
  | '<', '/' :: more =>
    match afterEndOf? lastStarted more with
    | some after => readEndTagFrom lastStarted after
    | none => ⟨chars ['<'], rest, mode⟩
  | c, rest => ⟨chars [valueChar c], rest, mode⟩

def readRcdata (lastStarted : String) (c : Char) (rest : List Char) : Lexed :=
  if c = '&' then
    let (text, rest) := reference false rest
    ⟨chars text, rest, .rcdata⟩
  else readRaw .rcdata lastStarted c rest

-- --------------------------------------------------------------------
-- Scripts
-- --------------------------------------------------------------------

/-- The word `script` and the character after it, if both stand here. -/
def scriptWord? (cs : List Char) : Option (List Char × List Char) :=
  match cs.drop 6 with
  | c :: rest =>
    if Doctype.startsWithWord "script" cs && endsTagName c then some (cs.take 7, rest) else none
  | [] => none

def readScript (lastStarted : String) (c : Char) (rest : List Char) : Lexed :=
  match c, rest with
  | '<', '!' :: '-' :: '-' :: rest => ⟨chars ['<', '!', '-', '-'], rest, .scriptEscaped 2⟩
  | c, rest => readRaw .script lastStarted c rest

/-- Inside a comment of a script. Another script may start in it, which is text. -/
def readScriptEscaped (dashes : Nat) (lastStarted : String) (c : Char) (rest : List Char) :
    Lexed :=
  if c = '-' then ⟨chars ['-'], rest, .scriptEscaped (min 2 (dashes + 1))⟩
  else if c = '>' && dashes = 2 then ⟨chars ['>'], rest, .script⟩
  else if c = '<' then
    match scriptWord? rest with
    | some (word, rest) => ⟨chars ('<' :: word), rest, .scriptDoubleEscaped 0⟩
    | none => readRaw (.scriptEscaped 0) lastStarted c rest
  else ⟨chars [valueChar c], rest, .scriptEscaped 0⟩

/-- Inside a script of a comment of a script. Its end tag is text. -/
def readScriptDoubleEscaped (dashes : Nat) (c : Char) (rest : List Char) : Lexed :=
  if c = '-' then ⟨chars ['-'], rest, .scriptDoubleEscaped (min 2 (dashes + 1))⟩
  else if c = '>' && dashes = 2 then ⟨chars ['>'], rest, .script⟩
  else
    match c, rest with
    | '<', '/' :: more =>
      match scriptWord? more with
      | some (word, rest) => ⟨chars ('<' :: '/' :: word), rest, .scriptEscaped 0⟩
      | none => ⟨chars ['<', '/'], more, .scriptDoubleEscaped 0⟩
    | c, rest => ⟨chars [valueChar c], rest, .scriptDoubleEscaped 0⟩

-- --------------------------------------------------------------------
-- Steps
-- --------------------------------------------------------------------

/-- One step. -/
def lex (s : Surroundings) (mode : TextMode) (cs : List Char) : Lexed :=
  match cs with
  | [] => ⟨[.stop], [], .data⟩
  | c :: rest =>
    match mode with
    | .data => readData s.foreign c rest
    | .rcdata => readRcdata s.lastStarted c rest
    | .rawtext => readRaw .rawtext s.lastStarted c rest
    | .plaintext => ⟨chars [valueChar c], rest, .plaintext⟩
    | .cdata =>
      match c, rest with
      | ']', ']' :: '>' :: rest => ⟨[], rest, .data⟩
      | c, rest => ⟨chars [c], rest, .cdata⟩
    | .script => readScript s.lastStarted c rest
    | .scriptEscaped dashes => readScriptEscaped dashes s.lastStarted c rest
    | .scriptDoubleEscaped dashes => readScriptDoubleEscaped dashes c rest

/-- The text of a page as it is read: without a byte order mark, and with one kind
of line break. -/
def plainLines : List Char → List Char
  | '\r' :: '\n' :: rest => '\n' :: plainLines rest
  | '\r' :: rest => '\n' :: plainLines rest
  | c :: rest => c :: plainLines rest
  | [] => []

def pageText (html : String) : List Char :=
  match html.toList with
  | '\ufeff' :: rest => plainLines rest
  | cs => plainLines cs

end PageRecords.Html
