import SetScript.Text.Composition
import SetScript.Text.Direction
import SetScript.Text.Joining
import SetScript.Uri.Domain.Form
import SetScript.Uri.Punycode

/-!
# Domains

A domain consists of labels with dots between them.  It is brought into its normal
form, in which each character is the one that stands for all of its forms, and
letters are composed with their marks.  The labels must then be well formed: no
label starts with a mark, joiners make sense, spelled labels spell something, and a
domain with letters from right to left can be read in one way only.

A domain is written with its labels spelled.
-/

namespace SetScript.Uri

open Text

/-- Whether a character may not stand in a domain. -/
def isForbiddenInDomain (c : Char) : Bool :=
  c.toNat ≤ 32 || c.toNat = 127 || "%#/:<>?@[\\]^|".toList.contains c

/-- What a spelled label starts with. -/
def spellingMark : List Char :=
  "xn--".toList

/-- The characters of a label.  A label that is spelled has characters that could
not be written otherwise, and is in its normal form. -/
def readLabel? (label : List Char) : Option (List Char) :=
  if spellingMark.isPrefixOf label then
    (Punycode.decode? (label.drop spellingMark.length)).filter fun decoded =>
      label.all isAscii && decoded.any (!isAscii ·) &&
        (decoded.all fun c => isAscii c || isPlain c) && composed decoded == decoded
  else
    some label

/-- Whether the characters of a label can stand together. -/
def isWellFormed (label : List Char) : Bool :=
  !label.head?.any isMark && hasGoodJoiners [] label

/-- The spelling of a label, for a label that needs it. -/
def spellLabel (label : List Char) : List Char :=
  if label.all isAscii then label else spellingMark ++ Punycode.encode label

/-- The normal form of a domain, with its labels spelled, unless it is no domain. -/
def normalDomain? (text : List Char) : Option (List Char) :=
  (text.mapM form?).bind fun forms =>
    let name := composed forms.flatten
    let written := divide (· == '.') name
    (written.mapM readLabel?).bind fun labels =>
      let isTurning := labels.any (·.any Direction.isTurning)
      if name.any isForbiddenInDomain || !labels.all isWellFormed ||
          (isTurning && !labels.all isReadable)
      then none
      else some (['.'].intercalate (written.map spellLabel))

end SetScript.Uri
