import TanDialog.Text.Numeral

/-!
# TOML documents

Settings are written in TOML. `fields?` checks that a text is a document and lists the keys at its
top level with their values. Settings are numbers and truth values, so that of all other values
only the form is checked.
-/

namespace TanDialog.Toml

/-- A value at the top level. -/
inductive Value
  | integer (n : Int)
  | boolean (b : Bool)
  /-- A text, a number with a fraction, a date, an array or a table. -/
  | other
deriving DecidableEq

/-- A reader of the front of a text. -/
abbrev Reader := StateT (List Char) Option

namespace Reader

/-- The next character, which stays. -/
def peek? : Reader (Option Char) := do return (← get).head?

/-- Reads the given character. -/
def expect (c : Char) : Reader Unit := do
  match ← get with
  | d :: rest => if c = d then set rest else failure
  | [] => failure

/-- Reads the given text, if it follows. -/
def accept (expected : List Char) : Reader Bool := do
  let cs ← get
  if expected.isPrefixOf cs then
    set (cs.drop expected.length)
    return true
  else return false

/-- Reads as many characters of a class as follow. -/
def takeWhile (p : Char → Bool) : Reader (List Char) := do
  let cs ← get
  set (cs.dropWhile p)
  return cs.takeWhile p

/-! ### Space -/

/-- Spaces and tabs. -/
def isSpace (c : Char) : Bool := c == ' ' || c == '\t'

/-- Whether a character may stand in a comment or a text. -/
def isPrintable (c : Char) : Bool := c == '\t' || 0x20 ≤ c.toNat

/-- Skips spaces and tabs. -/
def skipSpace : Reader Unit := do
  let _ ← takeWhile isSpace

/-- Skips a comment, if one follows. -/
def skipComment : Reader Unit := do
  if ← accept ['#'] then
    let _ ← takeWhile isPrintable

/-- Reads the end of a line, if it follows. -/
def newline : Reader Bool := do
  if ← accept ['\n'] then return true
  accept ['\r', '\n']

/-- Skips what may stand behind a statement; the line, or the text, has to end there. -/
def endOfLine : Reader Unit := do
  skipSpace
  skipComment
  if ← newline then return
  if (← get).isEmpty then return else failure

/-- Skips spaces, comments and line ends, at most the given number of lines. -/
def skipLines : Nat → Reader Unit
  | 0 => return
  | limit + 1 => do
    skipSpace
    skipComment
    if ← newline then skipLines limit

/-! ### Texts -/

/-- The character with a number, if there is one. -/
def charOf? (n : Nat) : Option Char := if n.isValidChar then some (Char.ofNat n) else none

/-- Reads the number of a character in the given count of hexadecimal digits. -/
def numberedChar (digits : Nat) : Reader Char := do
  let cs ← get
  set (cs.drop digits)
  if cs.length < digits then failure
  match (Numeral.digitsFrom? 16 0 (cs.take digits)).bind charOf? with
  | some c => return c
  | none => failure

/-- Reads what follows a backslash. -/
def escaped : Reader Char := do
  match ← get with
  | c :: rest =>
    set rest
    match c with
    | 'b' => return '\x08'
    | 't' => return '\t'
    | 'n' => return '\n'
    | 'f' => return '\x0c'
    | 'r' => return '\r'
    | '"' => return '"'
    | '\\' => return '\\'
    | 'u' => numberedChar 4
    | 'U' => numberedChar 8
    | _ => failure
  | [] => failure

/-- Skips the blanks behind a backslash at the end of a line, if the line ends there. -/
def continuedLine : Reader Bool := do
  let cs ← get
  let (_, rest) := (cs.takeWhile isSpace, cs.dropWhile isSpace)
  if rest.head? = some '\n' || ['\r', '\n'].isPrefixOf rest then
    set (rest.dropWhile fun c => isSpace c || c == '\n' || c == '\r')
    return true
  else return false

/-- Reads a text up to its closing quotes, at most the given number of characters. Escapes count in
a text with double quotes, line ends in a text with three quotes. -/
def textBody (quotes : List Char) : Nat → Reader (List Char)
  | 0 => failure
  | limit + 1 => do
    if ← accept quotes then return []
    let multiline := quotes.length = 3
    if multiline then
      if ← newline then return '\n' :: (← textBody quotes limit)
    if quotes.head? = some '"' then
      if ← accept ['\\'] then
        if multiline then
          if ← continuedLine then return ← textBody quotes limit
        let c ← escaped
        return c :: (← textBody quotes limit)
    match ← get with
    | c :: rest =>
      if isPrintable c then
        set rest
        return c :: (← textBody quotes limit)
      else failure
    | [] => failure

/-- Reads a text behind its opening quotes. -/
def textBehind (quotes : List Char) : Reader (List Char) := do
  textBody quotes ((← get).length + 1)

/-- Reads a text on one line, if one follows. -/
def text? : Reader (Option (List Char)) := do
  if ← accept ['"'] then return some (← textBehind ['"'])
  if ← accept ['\''] then return some (← textBehind ['\''])
  return none

/-- Reads a text on one or more lines, if one follows. -/
def anyText? : Reader (Option (List Char)) := do
  for quote in ['"', '\''] do
    let quotes := [quote, quote, quote]
    if ← accept quotes then
      let _ ← newline
      return some (← textBehind quotes)
  text?

/-! ### Keys -/

/-- Whether a character may stand in a key without quotes. -/
def isKeyChar (c : Char) : Bool := c.isAlphanum || c == '_' || c == '-'

/-- Reads one part of a key. -/
def keyPart : Reader String := do
  match ← text? with
  | some key => return String.ofList key
  | none =>
    let key ← takeWhile isKeyChar
    if key.isEmpty then failure
    return String.ofList key

/-- Reads a key, whose parts are separated by points, at most the given number of parts. -/
def keyParts : Nat → Reader (List String)
  | 0 => failure
  | limit + 1 => do
    let part ← keyPart
    skipSpace
    if ← accept ['.'] then
      skipSpace
      return part :: (← keyParts limit)
    else return [part]

/-- Reads a key. -/
def key : Reader (List String) := do
  keyParts ((← get).length + 1)

/-! ### Values without inner structure -/

/-- Digits of a base in which single underscores may stand between digits. -/
def isDigitRun (base : Nat) (cs : List Char) : Bool :=
  (cs.splitOn '_').all fun part =>
    !part.isEmpty && part.all fun c => (Numeral.digit? base c).isSome

/-- The number written by a run of digits. -/
def runValue (base : Nat) (cs : List Char) : Nat :=
  (Numeral.digitsFrom? base 0 (cs.filter (· ≠ '_'))).getD 0

/-- A run of decimal digits without a zero in front. -/
def isPlainRun (cs : List Char) : Bool :=
  isDigitRun 10 cs && (cs.length == 1 || cs.head? != some '0')

/-- Splits off a sign. -/
def unsign : List Char → Bool × List Char
  | '-' :: cs => (true, cs)
  | '+' :: cs => (false, cs)
  | cs => (false, cs)

/-- The value of a whole number, which has to fit into 64 bits. -/
def integer? (token : List Char) : Option Int :=
  let based (base : Nat) (digits : List Char) : Option Int :=
    if isDigitRun base digits then some (runValue base digits) else none
  let n? : Option Int :=
    match token with
    | '0' :: 'x' :: digits => based 16 digits
    | '0' :: 'o' :: digits => based 8 digits
    | '0' :: 'b' :: digits => based 2 digits
    | _ =>
      let (negative, digits) := unsign token
      if isPlainRun digits then
        some (if negative then -(runValue 10 digits : Int) else runValue 10 digits)
      else none
  n?.filter fun n => -(Numeral.bound64 : Int) ≤ 2 * n && 2 * n < Numeral.bound64

/-- Whether a token is a number with a fraction or an exponent, or one of the special numbers. -/
def isFraction (token : List Char) : Bool :=
  let (_, cs) := unsign token
  let (mantissa, exponent) :=
    (cs.takeWhile (· ∉ ['e', 'E']), (cs.dropWhile (· ∉ ['e', 'E'])).drop 1)
  let (whole, fraction) := (mantissa.takeWhile (· ≠ '.'), (mantissa.dropWhile (· ≠ '.')).drop 1)
  let hasPoint := whole.length < mantissa.length
  let hasExponent := mantissa.length < cs.length
  String.ofList cs == "inf" || String.ofList cs == "nan" ||
    ((hasPoint || hasExponent) && isPlainRun whole && (!hasPoint || isDigitRun 10 fraction) &&
      (!hasExponent || isDigitRun 10 (unsign exponent).2))

/-- Whether a text has the given shape, in which `0` stands for any digit. -/
def hasShape (shape : String) (cs : List Char) : Bool :=
  cs.length == shape.length &&
    (shape.toList.zip cs).all fun (s, c) => if s = '0' then c.isDigit else s == c

/-- Whether a token is a time of day. -/
def isTime (cs : List Char) : Bool :=
  hasShape "00:00:00" (cs.take 8) &&
    match cs.drop 8 with
    | [] => true
    | '.' :: digits => !digits.isEmpty && digits.all Char.isDigit
    | _ => false

/-- Whether a token is a time of day, possibly with its offset from universal time. -/
def isOffsetTime (cs : List Char) : Bool :=
  let offset := cs.drop (cs.length - 6)
  isTime cs || (cs.getLast?.any (· ∈ ['Z', 'z']) && isTime cs.dropLast) ||
    ((hasShape "+00:00" offset || hasShape "-00:00" offset) && isTime (cs.take (cs.length - 6)))

/-- Whether a token is a date, a time of day or both. -/
def isDateTime (cs : List Char) : Bool :=
  let date := hasShape "0000-00-00" (cs.take 10)
  isTime cs || (date && cs.length == 10) ||
    (date && (cs[10]?).any (· ∈ ['T', 't', ' ']) && isOffsetTime (cs.drop 11))

/-- Whether a character may stand in a value without quotes. -/
def isTokenChar (c : Char) : Bool := isKeyChar c || c == '+' || c == '.' || c == ':'

/-- Reads the characters of a value without quotes. A date may be followed by a space and a time of
day. -/
def token : Reader (List Char) := do
  let first ← takeWhile isTokenChar
  let cs ← get
  match cs with
  | ' ' :: d :: _ =>
    if hasShape "0000-00-00" first && d.isDigit then
      set (cs.drop 1)
      return first ++ ' ' :: (← takeWhile isTokenChar)
    else return first
  | _ => return first

/-- The value of a token. -/
def tokenValue? (token : List Char) : Option Value :=
  if token = "true".toList then some (.boolean true)
  else if token = "false".toList then some (.boolean false)
  else
    match integer? token with
    | some n => some (.integer n)
    | none => if isFraction token || isDateTime token then some .other else none

/-- Reads a value without inner structure. -/
def scalar : Reader Value := do
  match ← anyText? with
  | some _ => return .other
  | none =>
    match tokenValue? (← token) with
    | some v => return v
    | none => failure

/-! ### Arrays and tables within a line -/

/-- What is to be read next inside arrays and inline tables. -/
inductive Goal
  /-- A value. -/
  | value
  /-- The elements of an array, up to its bracket. -/
  | elements
  /-- What may follow an element of an array. -/
  | afterElement
  /-- The entries of an inline table, up to its brace; a comma has been read before if `more`. -/
  | entries (more : Bool)
  /-- What may follow an entry of an inline table. -/
  | afterEntry

/-- Carries out goals, at most the given number of steps. -/
def runGoals : Nat → List Goal → Reader Unit
  | _, [] => return
  | 0, _ => failure
  | limit + 1, goal :: goals => do
    match goal with
    | .value =>
      if ← accept ['['] then runGoals limit (.elements :: goals)
      else if ← accept ['{'] then runGoals limit (.entries false :: goals)
      else
        let _ ← scalar
        runGoals limit goals
    | .elements =>
      skipLines (← get).length
      if ← accept [']'] then runGoals limit goals
      else runGoals limit (.value :: .afterElement :: goals)
    | .afterElement =>
      skipLines (← get).length
      if ← accept [','] then runGoals limit (.elements :: goals)
      else
        expect ']'
        runGoals limit goals
    | .entries more =>
      skipSpace
      if !more && (← accept ['}']) then runGoals limit goals
      else
        let _ ← key
        expect '='
        skipSpace
        runGoals limit (.value :: .afterEntry :: goals)
    | .afterEntry =>
      skipSpace
      if ← accept [','] then runGoals limit (.entries true :: goals)
      else
        expect '}'
        runGoals limit goals

/-- Reads a value. -/
def value : Reader Value := do
  match ← peek? with
  | some '[' | some '{' =>
    runGoals (4 * (← get).length + 4) [.value]
    return .other
  | _ => scalar

/-! ### Documents -/

/-- A line of a document. -/
inductive Statement
  | blank
  | table (path : List String)
  | arrayElement (path : List String)
  | entry (path : List String) (value : Value)

/-- Reads a statement with the end of its line. -/
def statement : Reader Statement := do
  skipSpace
  let s ←
    match ← peek? with
    | some '[' =>
      expect '['
      let array ← accept ['[']
      skipSpace
      let path ← key
      expect ']'
      if array then
        expect ']'
        pure (.arrayElement path)
      else pure (.table path)
    | some '#' | some '\n' | some '\r' | none => pure .blank
    | some _ =>
      let path ← key
      expect '='
      skipSpace
      pure (.entry path (← value))
  endOfLine
  return s

/-- Reads statements up to the end of the text, at most the given number. -/
def statements : Nat → Reader (List Statement)
  | 0 => failure
  | limit + 1 => do
    if (← get).isEmpty then return []
    let s ← statement
    return s :: (← statements limit)

end Reader

/-- The tables that a document opens by name. -/
def tableNames (statements : List Reader.Statement) : List (List String) :=
  statements.filterMap fun s => match s with
    | .table path => some path
    | _ => none

/-- The keys at the top level with their values, `root` telling whether no table has been opened. -/
def topLevel : Bool → List Reader.Statement → List (String × Value)
  | _, [] => []
  | root, .blank :: rest => topLevel root rest
  | _, .table path :: rest => (path.headD "", .other) :: topLevel false rest
  | _, .arrayElement path :: rest => (path.headD "", .other) :: topLevel false rest
  | true, .entry [name] v :: rest => (name, v) :: topLevel true rest
  | true, .entry path _ :: rest => (path.headD "", .other) :: topLevel true rest
  | false, .entry .. :: rest => topLevel false rest

/-- The keys at the top level of a document with their values; none where the text is no document
or opens a table twice. -/
def fields? (text : String) : Option (List (String × Value)) := do
  let cs := text.toList
  let cs := if cs.head? = some '\ufeff' then cs.drop 1 else cs
  let (statements, _) ← (Reader.statements (cs.length + 1)).run cs
  let names := tableNames statements
  if names.eraseDups.length = names.length then some (topLevel true statements) else none

end TanDialog.Toml
