import Notetaker.PythonFloat

/-!
# JSON text

`dumps` is `json.dumps` of a flat dictionary in its default form: ASCII only, separators `", "` and
`": "`. `loads` is `json.loads`: a scanner that turns the text into tokens, one character at a time,
and a stack machine that builds the value, one token at a time. Both are structural recursions over
their input, so every text has an answer. Duplicate keys keep their first place and their last
value. A lone surrogate escape reads as the replacement character. Nesting beyond the recursion
budget and integer literals beyond the digit limit raise errors of their own.
-/

open PythonText PythonFloat

namespace JsonText

inductive Json where
  | null
  | bool (b : Bool)
  | int (n : ℤ)
  | float (x : PyFloat)
  | str (s : Text)
  | arr (xs : List Json)
  | obj (members : List (Text × Json))

/-- The values `dumps` accepts as members. -/
inductive Scalar where
  | null
  | int (n : ℤ)
  | str (s : Text)
  deriving DecidableEq

def Scalar.toJson : Scalar → Json
  | null => .null
  | int n => .int n
  | str s => .str s

/-! ## Encoding -/

/-- `\uXXXX` for a code unit below `2 ^ 16`. -/
def unicodeEscape (n : ℕ) : Text :=
  ['\\', 'u', hexDigit (n / 4096), hexDigit (n / 256 % 16), hexDigit (n / 16 % 16), hexDigit (n % 16)]

/-- One character of a string under `ensure_ascii`. -/
def escapeChar (c : Char) : Text :=
  if c = '"' then ['\\', '"']
  else if c = '\\' then ['\\', '\\']
  else if c = '\n' then ['\\', 'n']
  else if c = '\r' then ['\\', 'r']
  else if c = '\t' then ['\\', 't']
  else if c.toNat = 8 then ['\\', 'b']
  else if c.toNat = 12 then ['\\', 'f']
  else if 32 ≤ c.toNat ∧ c.toNat < 127 then [c]
  else if c.toNat < 65536 then unicodeEscape c.toNat
  else
    let v := c.toNat - 65536
    unicodeEscape (0xd800 + v / 1024) ++ unicodeEscape (0xdc00 + v % 1024)

def dumpsString (s : Text) : Text := '"' :: s.flatMap escapeChar ++ ['"']

def Scalar.dumps : Scalar → Text
  | null => "null".toList
  | int n => intText n
  | str s => dumpsString s

def dumpsMember (m : Text × Scalar) : Text := dumpsString m.1 ++ ": ".toList ++ m.2.dumps

/-- `json.dumps` of a dictionary given in its iteration order. -/
def dumps (members : List (Text × Scalar)) : Text :=
  '{' :: ", ".toList.intercalate (members.map dumpsMember) ++ ['}']

/-! ## Scanning -/

inductive Token where
  | open (object : Bool)
  | close (object : Bool)
  | colon
  | comma
  | string (s : Text)
  /-- A maximal run of the characters that make up numbers and literals. -/
  | atom (lexeme : Text)
  | bad
  deriving DecidableEq

/-- Where the scanner stands. Accumulated text is held in reverse. -/
inductive Scan where
  | idle
  | inAtom (acc : Text)
  | inString (acc : Text)
  | inEscape (acc : Text) (high : Option ℕ)
  /-- Inside a `\u` escape: `left` hexadecimal digits are missing. -/
  | inHex (acc : Text) (high : Option ℕ) (left value : ℕ)
  /-- Behind the escape of a high surrogate. -/
  | afterHigh (acc : Text) (high : ℕ)
  | stopped
  deriving DecidableEq

def isJsonSpace (c : Char) : Bool := c = ' ' || c = '\t' || c = '\n' || c = '\r'

def isAtomChar (c : Char) : Bool := c.isAlphanum || c = '+' || c = '-' || c = '.'

def replacement : Char := '\uFFFD'

def simpleEscape : Char → Option Char
  | '"' => some '"'
  | '\\' => some '\\'
  | '/' => some '/'
  | 'b' => some (Char.ofNat 8)
  | 'f' => some (Char.ofNat 12)
  | 'n' => some '\n'
  | 'r' => some '\r'
  | 't' => some '\t'
  | _ => none

/-- A character between two tokens. -/
def scanIdle (c : Char) : Scan × List Token :=
  if isJsonSpace c then (.idle, [])
  else if c = '"' then (.inString [], [])
  else if isAtomChar c then (.inAtom [c], [])
  else if c = '{' then (.idle, [.open true])
  else if c = '}' then (.idle, [.close true])
  else if c = '[' then (.idle, [.open false])
  else if c = ']' then (.idle, [.close false])
  else if c = ':' then (.idle, [.colon])
  else if c = ',' then (.idle, [.comma])
  else (.stopped, [.bad])

def scanString (acc : Text) (c : Char) : Scan × List Token :=
  if c = '"' then (.idle, [.string acc.reverse])
  else if c = '\\' then (.inEscape acc none, [])
  else if c.toNat < 32 then (.stopped, [.bad])
  else (.inString (c :: acc), [])

/-- A completed `\u` escape with code unit `unit`, behind a high surrogate when `high` is one. -/
def finishHex (acc : Text) (high : Option ℕ) (unit : ℕ) : Scan :=
  match high with
  | some h =>
      if 0xdc00 ≤ unit ∧ unit ≤ 0xdfff then
        .inString (Char.ofNat (65536 + (h - 0xd800) * 1024 + (unit - 0xdc00)) :: acc)
      else if 0xd800 ≤ unit ∧ unit ≤ 0xdbff then .afterHigh (replacement :: acc) unit
      else .inString (Char.ofNat unit :: replacement :: acc)
  | none =>
      if 0xd800 ≤ unit ∧ unit ≤ 0xdbff then .afterHigh acc unit
      else if 0xdc00 ≤ unit ∧ unit ≤ 0xdfff then .inString (replacement :: acc)
      else .inString (Char.ofNat unit :: acc)

def scanStep : Scan → Char → Scan × List Token
  | .idle, c => scanIdle c
  | .inAtom acc, c =>
      if isAtomChar c then (.inAtom (c :: acc), [])
      else ((scanIdle c).1, .atom acc.reverse :: (scanIdle c).2)
  | .inString acc, c => scanString acc c
  | .inEscape acc high, c =>
      if c = 'u' then (.inHex acc high 4 0, [])
      else match simpleEscape c with
        | some d => (.inString (d :: (if high.isSome then replacement :: acc else acc)), [])
        | none => (.stopped, [.bad])
  | .inHex acc high left value, c =>
      match hexValue c with
      | none => (.stopped, [.bad])
      | some d =>
          if left ≤ 1 then (finishHex acc high (value * 16 + d), [])
          else (.inHex acc high (left - 1) (value * 16 + d), [])
  | .afterHigh acc high, c =>
      if c = '\\' then (.inEscape acc (some high), []) else scanString (replacement :: acc) c
  | .stopped, _ => (.stopped, [])

def scanEnd : Scan → List Token
  | .idle | .stopped => []
  | .inAtom acc => [.atom acc.reverse]
  | _ => [.bad]

def scan : Scan → Text → List Token
  | st, [] => scanEnd st
  | st, c :: cs => (scanStep st c).2 ++ scan (scanStep st c).1 cs

/-! ## Building values -/

inductive JsonError where
  /-- `json.JSONDecodeError`. -/
  | decode
  /-- The `ValueError` of an integer literal above the digit limit. -/
  | intDigits
  /-- `RecursionError`. -/
  | recursion
  deriving DecidableEq

/-- The interpreter's limits; `depth` is the nesting a value may have. -/
structure Limits where
  depth : ℕ
  intDigits : ℕ
  depth_pos : 0 < depth
  intDigits_pos : 0 < intDigits

/-- The digits of an integer are 4300 at most unless the interpreter is told otherwise. -/
theorem Limits.intMaxStrDigits_pos : 0 < 4300 := by decide

/-- The limits of CPython. -/
def pythonLimits : Limits := ⟨1000, 4300, by decide, Limits.intMaxStrDigits_pos⟩

/-- Whether a fraction or an exponent follows the integer part of a number. -/
def startsFloat : Text → Bool
  | '.' :: d :: _ => d.isDigit
  | e :: cs => (e = 'e' || e = 'E') && match cs with
      | s :: d :: _ => s.isDigit || ((s = '+' || s = '-') && d.isDigit)
      | [d] => d.isDigit
      | [] => false
  | [] => false

/-- The number behind its optional sign: `(0|[1-9][0-9]*)(\.[0-9]+)?([eE][-+]?[0-9]+)?`. -/
def unsignedValue (lim : Limits) (negative : Bool) (body : Text) : Except JsonError Json :=
  let whole := body.takeWhile Char.isDigit
  let afterWhole := body.dropWhile Char.isDigit
  if whole = [] ∨ (whole.head? = some '0' ∧ whole ≠ ['0']) then .error .decode
  else if startsFloat afterWhole then
    match decimalLiteral negative body with
    | some x => .ok (.float x)
    | none => .error .decode
  else if lim.intDigits < whole.length then .error .intDigits
  else if afterWhole ≠ [] then .error .decode
  else
    let n : ℤ := Nat.ofDigitChars 10 whole 0
    .ok (.int (if negative then -n else n))

def numberValue (lim : Limits) : Text → Except JsonError Json
  | '-' :: cs => unsignedValue lim true cs
  | cs => unsignedValue lim false cs

def atomValue (lim : Limits) (lexeme : Text) : Except JsonError Json :=
  if lexeme = "null".toList then .ok .null
  else if lexeme = "true".toList then .ok (.bool true)
  else if lexeme = "false".toList then .ok (.bool false)
  else if lexeme = "NaN".toList then .ok (.float .nan)
  else if lexeme = "Infinity".toList then .ok (.float (.inf false))
  else if lexeme = "-Infinity".toList then .ok (.float (.inf true))
  else numberValue lim lexeme

/-- `d[k] = v`. -/
def setMember {α : Type*} (k : Text) (v : α) : List (Text × α) → List (Text × α)
  | [] => [(k, v)]
  | (k', v') :: rest => if k' = k then (k, v) :: rest else (k', v') :: setMember k v rest

inductive Frame where
  | arr (acc : List Json)
  | obj (acc : List (Text × Json)) (key : Text)

inductive Expect where
  | value
  | valueOrClose
  | key (acc : List (Text × Json))
  | keyOrClose
  | colon (acc : List (Text × Json)) (key : Text)
  /-- Behind an array element. -/
  | afterElement (acc : List Json)
  | afterMember (acc : List (Text × Json))
  | done (v : Json)

structure Machine where
  stack : List Frame
  expect : Expect

def complete (stack : List Frame) (v : Json) : Machine :=
  match stack with
  | [] => ⟨[], .done v⟩
  | .arr acc :: rest => ⟨rest, .afterElement (acc ++ [v])⟩
  | .obj acc k :: rest => ⟨rest, .afterMember (setMember k v acc)⟩

/-- The containers still open; those under construction count as well. -/
def Machine.depth (m : Machine) : ℕ :=
  m.stack.length + match m.expect with
    | .value | .done _ => 0
    | _ => 1

def openContainer (lim : Limits) (m : Machine) (stack : List Frame) (object : Bool) :
    Except JsonError Machine :=
  if lim.depth ≤ m.depth then .error .recursion
  else .ok ⟨stack, if object then .keyOrClose else .valueOrClose⟩

def valueToken (lim : Limits) (m : Machine) (stack : List Frame) :
    Token → Except JsonError Machine
  | .open object => openContainer lim m stack object
  | .string s => .ok (complete stack (.str s))
  | .atom lexeme => (atomValue lim lexeme).map (complete stack)
  | _ => .error .decode

def machineStep (lim : Limits) (m : Machine) (t : Token) : Except JsonError Machine :=
  match m.expect, t with
  | .value, t => valueToken lim m m.stack t
  | .valueOrClose, .close false => .ok (complete m.stack (.arr []))
  | .valueOrClose, t => valueToken lim m (.arr [] :: m.stack) t
  | .key acc, .string s => .ok ⟨m.stack, .colon acc s⟩
  | .keyOrClose, .string s => .ok ⟨m.stack, .colon [] s⟩
  | .keyOrClose, .close true => .ok (complete m.stack (.obj []))
  | .colon acc k, .colon => .ok ⟨.obj acc k :: m.stack, .value⟩
  | .afterElement acc, .comma => .ok ⟨.arr acc :: m.stack, .value⟩
  | .afterElement acc, .close false => .ok (complete m.stack (.arr acc))
  | .afterMember acc, .comma => .ok ⟨m.stack, .key acc⟩
  | .afterMember acc, .close true => .ok (complete m.stack (.obj acc))
  | _, _ => .error .decode

def runMachine (lim : Limits) : Machine → List Token → Except JsonError Json
  | m, [] => match m.expect with
      | .done v => .ok v
      | _ => .error .decode
  | m, t :: ts => (machineStep lim m t).bind fun m' => runMachine lim m' ts

/-- `json.loads`. -/
def loads (lim : Limits) (s : Text) : Except JsonError Json :=
  runMachine lim ⟨[], .value⟩ (scan .idle s)

/-! ## Values in Python -/

namespace Json

def truthy : Json → Bool
  | null => false
  | bool b => b
  | int n => n ≠ 0
  | float x => x ≠ .finite 0
  | str s => s ≠ []
  | arr xs => !xs.isEmpty
  | obj members => !members.isEmpty

mutual

/-- `repr` of a value. -/
def repr (isPrintable : Char → Bool) : Json → Text
  | null => "None"
  | bool b => if b then "True" else "False"
  | int n => intText n
  | float .nan => "nan"
  | float (.inf negative) => if negative then "-inf" else "inf"
  | float (.finite q) => if q < 0 then '-' :: reprFloat (-q) else reprFloat q
  | str s => reprText isPrintable s
  | arr xs => concat ["[", reprItems isPrintable xs, "]"]
  | obj members => concat ["\x7b", reprMembers isPrintable members, "\x7d"]

def reprItems (isPrintable : Char → Bool) : List Json → Text
  | [] => []
  | [x] => x.repr isPrintable
  | x :: xs => concat [x.repr isPrintable, ", ", reprItems isPrintable xs]

def reprMembers (isPrintable : Char → Bool) : List (Text × Json) → Text
  | [] => []
  | [(k, v)] => concat [reprText isPrintable k, ": ", v.repr isPrintable]
  | (k, v) :: members =>
      concat [reprText isPrintable k, ": ", v.repr isPrintable, ", ",
        reprMembers isPrintable members]

end

/-- `str(v)`. -/
def toText (isPrintable : Char → Bool) : Json → Text
  | str s => s
  | v => v.repr isPrintable

end Json
end JsonText
