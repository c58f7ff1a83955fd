import TanDialog.Text.Blank
import TanDialog.Text.Bytes

/-!
# Payloads within a challenge text

Some banks put the payload into the challenge text, between `CHLGUC` and `CHLGTEXT`. Behind the
first marker stands a length of four characters, which is dropped; a zero in front of the payload
makes its own length three digits long. Spaces do not count anywhere, blanks at the ends neither.
-/

namespace TanDialog.Flicker

/-- What surrounds the first occurrence of a marker. -/
def splitAtMarker? (marker : List Char) : List Char → Option (List Char × List Char)
  | [] => if marker.isEmpty then some ([], []) else none
  | c :: cs =>
    if marker.isPrefixOf (c :: cs) then some ([], (c :: cs).drop marker.length)
    else (splitAtMarker? marker cs).map fun (before, after) => (c :: before, after)

/-- Stands in front of the payload and its length. -/
def payloadMarker : List Char := "CHLGUC".toList

/-- Stands behind the payload. -/
def textMarker : List Char := "CHLGTEXT".toList

/-- The payload within a text: what stands between the first of each marker, without the four
bytes of the length. There is none where the markers are missing or in the other order, or where
fewer than four bytes or a cut character would be dropped. -/
def inlinePayload? (text : List Char) : Option (List Char) := do
  let (before, _) ← splitAtMarker? textMarker text
  let (_, payload) ← splitAtMarker? payloadMarker before
  Text.dropBytes? 4 payload

/-- The payload to be read from a text: an inline payload, or the text itself. -/
def clean (text : List Char) : List Char :=
  let text := Text.trim (text.filter (· ≠ ' '))
  match inlinePayload? text with
  | some payload => '0' :: payload
  | none => text

end TanDialog.Flicker
