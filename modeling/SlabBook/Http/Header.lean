/-!
# Header values

The value of a header is sent in one byte a character and has no control character but the tab.
-/

namespace SlabBook.Http.Header

def isValueChar (c : Char) : Bool :=
  c == '\t' || (0x20 ≤ c.toNat && c.toNat ≤ 0xff && c.toNat ≠ 0x7f)

def isValue (text : String) : Bool := text.toList.all isValueChar

end SlabBook.Http.Header
