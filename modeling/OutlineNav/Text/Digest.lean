import OutlineNav.Text.Utf8

/-!
# Digests of texts

A number of sixty-four bits by which two versions of a text are told apart without keeping them.
-/

namespace OutlineNav.Text

/-- The digest of bytes: every byte is added bit by bit, and the sum multiplied by a prime. -/
def digestBytes (bytes : List UInt8) : UInt64 :=
  bytes.foldl (fun sum b => (sum ^^^ b.toUInt64) * 0x100000001B3) 0xCBF29CE484222325

def digest (s : String) : UInt64 := digestBytes (encodeUtf8 s.toList)

end OutlineNav.Text
