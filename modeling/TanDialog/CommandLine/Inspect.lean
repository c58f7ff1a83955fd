import TanDialog.CommandLine.Arguments
import TanDialog.Flicker.Reader
import TanDialog.Passport.Basic
import TanDialog.Text.Blank

/-!
# Values in debug lines

Debug lines show values in full: texts in quotes with their invisible characters escaped, options
as `Some(…)` or `None`, and records with the names of their fields.
-/

namespace TanDialog.CommandLine.Inspect

/-- The least digits of a number in base sixteen. -/
def hexDigits (n : Nat) : List Char := Nat.toDigits 16 n

/-- Whether a character has no visible form of its own. -/
def isInvisible (c : Char) : Bool :=
  let n := c.toNat
  n < 0x20 || (0x7f ≤ n && n < 0xa0) || (n ≠ 0x20 && Text.isBlank c) || n == 0xad ||
    (0x200b ≤ n && n ≤ 0x200f) || (0x202a ≤ n && n ≤ 0x202e) || (0x2060 ≤ n && n ≤ 0x206f) ||
    n == 0xfeff || (0xe000 ≤ n && n ≤ 0xf8ff) || (0xfff0 ≤ n && n ≤ 0xfffb) || 0xe0000 ≤ n

/-- Whether a character joins the one before it. -/
def isCombining (c : Char) : Bool :=
  let n := c.toNat
  (0x300 ≤ n && n ≤ 0x36f) || (0x483 ≤ n && n ≤ 0x489) || (0x591 ≤ n && n ≤ 0x5bd) ||
    (0x1ab0 ≤ n && n ≤ 0x1ace) || (0x1dc0 ≤ n && n ≤ 0x1dff) || (0x20d0 ≤ n && n ≤ 0x20f0) ||
    (0xfe00 ≤ n && n ≤ 0xfe0f) || (0xfe20 ≤ n && n ≤ 0xfe2f)

/-- A character within quotes. -/
def quotedChar (c : Char) : List Char :=
  match c with
  | '\x00' => ['\\', '0']
  | '\t' => ['\\', 't']
  | '\r' => ['\\', 'r']
  | '\n' => ['\\', 'n']
  | '"' => ['\\', '"']
  | '\\' => ['\\', '\\']
  | c =>
    if isInvisible c || isCombining c then
      ['\\', 'u', '\x7b'] ++ hexDigits c.toNat ++ ['\x7d']
    else [c]

/-- A text in quotes. -/
def text (s : String) : String := String.ofList ('"' :: s.toList.flatMap quotedChar ++ ['"'])

/-- An optional value. -/
def option {α : Type} (f : α → String) : Option α → String
  | some a => "Some(" ++ f a ++ ")"
  | none => "None"

/-- A list of values. -/
def list {α : Type} (f : α → String) (l : List α) : String :=
  "[" ++ String.intercalate ", " (l.map f) ++ "]"

/-- A record with its fields. -/
def record (name : String) (fields : List (String × String)) : String :=
  name ++ " \x7b " ++ String.intercalate ", " (fields.map fun f => f.1 ++ ": " ++ f.2) ++ " \x7d"

/-- The settings. -/
def config (c : Config) : String :=
  record "Config" [("max_tan_segment_version", option toString c.maxVersion),
    ("verify_tan_mode", toString c.verifyTanMode), ("max_restarts", toString c.maxRestarts)]

/-- A command. -/
def command : Command → String
  | .methods bpd upd => record "Methods" [("bpd", text bpd), ("upd", option text upd)]
  | .select bpd enrolled => record "Select" [("bpd", text bpd), ("enrolled", list text enrolled)]
  | .status reply => record "Status" [("reply", text reply)]
  | .flicker challenge hhdUc =>
    record "Flicker" [("challenge", option text challenge), ("hhd_uc", option text hhdUc)]
  | .hash mode segment => record "Hash" [("mode", text mode), ("segment", text segment)]

/-- Why a payload could not be read. -/
def flickerError : Flicker.Error → String
  | .truncated => "Truncated"
  | .invalidLength => "InvalidLength"
  | .lengthMismatch => "LengthMismatch"
  | .nonAscii => "NonAscii"

end TanDialog.CommandLine.Inspect
