/-!
# Schemes

The special schemes have rules of their own: a backslash is a slash in their URLs, and their
paths are never empty.  Of them `file` has drive letters.
-/

namespace SlabBook.Url

def isAlpha (c : Char) : Bool := ('a' ≤ c && c ≤ 'z') || ('A' ≤ c && c ≤ 'Z')

def isSpecial (scheme : String) : Bool :=
  ["file", "ftp", "http", "https", "ws", "wss"].contains scheme

def isFile (scheme : String) : Bool := scheme == "file"

def isSlash (scheme : String) (c : Char) : Bool := c == '/' || (c == '\\' && isSpecial scheme)

end SlabBook.Url
