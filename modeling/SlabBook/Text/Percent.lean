import SlabBook.Text.Hex

/-!
# Percent escapes

An escape is a percent sign and two hexadecimal digits for one byte of UTF-8 text.
-/

namespace SlabBook.Percent

/-- The bytes of a text with its escapes resolved, except for those of the kept characters, which
stay as they are written; nothing if an escape is incomplete. -/
def bytesKeeping? (keeps : Char → Bool) : List Char → Option (List UInt8)
  | [] => some []
  | '%' :: high :: low :: rest => do
    let h ← Hex.digit? high
    let l ← Hex.digit? low
    let run ← bytesKeeping? keeps rest
    if keeps (Char.ofNat (16 * h + l)) then
      return ['%', high, low].flatMap String.utf8EncodeChar ++ run
    else return UInt8.ofNat (16 * h + l) :: run
  | c :: rest =>
    if c = '%' then none else (bytesKeeping? keeps rest).map (String.utf8EncodeChar c ++ ·)

/-- The text with its escapes resolved; nothing if one is incomplete or the bytes are no text. -/
def textKeeping? (keeps : Char → Bool) (cs : List Char) : Option String :=
  (bytesKeeping? keeps cs).bind fun run => String.fromUTF8? ⟨run.toArray⟩

def text? (cs : List Char) : Option String := textKeeping? (fun _ => false) cs

/-- A text with a bad escape, or whose bytes are no text, stays as it is. -/
def decode (cs : List Char) : String := (text? cs).getD (String.ofList cs)

def escape (byte : UInt8) : List Char :=
  ['%', (Hex.digit (byte.toNat / 16)).toUpper, (Hex.digit (byte.toNat % 16)).toUpper]

/-- Escapes the control characters, the characters outside ASCII and the chosen ones. -/
def encode (chosen : Char → Bool) (cs : List Char) : List Char :=
  cs.flatMap fun c =>
    if c.toNat < 0x20 ∨ 0x7f ≤ c.toNat ∨ chosen c then
      (String.utf8EncodeChar c).flatMap escape
    else [c]

end SlabBook.Percent
