import LogCourier.Proofs.Checked
import LogCourier.Uri

/-!
# Targets with a scheme

What is written in front of a host is the scheme of the target that is read back, whatever follows.

* `splitScheme_webScheme`: the scheme is cut off at its own `://`.
* `parseChars_webScheme`: the text behind that is read on its own.
* `scheme_of_parse`: a target has the scheme its text starts with.
-/

namespace LogCourier

namespace Uri

/-- The scheme of plain and of secured targets. -/
def webScheme (plain : Bool) : String :=
  if plain then "http" else "https"

/-- The scheme is cut off at its own `://`, whatever follows. For the secured scheme the
reader has tried the plain one first, which is not a start of it. -/
theorem splitScheme_webScheme (plain : Bool) (rest : List Char) :
    splitScheme ((webScheme plain).toList ++ "://".toList ++ rest) =
      .ok (some (webScheme plain).toList, rest) := by
  cases plain with
  | true =>
    have hstart : afterStart? "http://".toList ("http://".toList ++ rest) = some rest := rfl
    show splitScheme ("http://".toList ++ rest) = _
    unfold splitScheme
    rw [hstart]
    rfl
  | false =>
    have hplain : afterStart? "http://".toList ("https://".toList ++ rest) = none := rfl
    have hstart : afterStart? "https://".toList ("https://".toList ++ rest) = some rest := rfl
    show splitScheme ("https://".toList ++ rest) = _
    unfold splitScheme
    rw [hplain, hstart]
    rfl

/-- A target that is read behind a scheme has that scheme. Neither the authority nor the
path can change it. -/
theorem scheme_of_parseAbsolute {scheme rest : List Char} {u : Uri}
    (h : parseAbsolute scheme rest = .ok u) : u.scheme = some (String.ofList scheme) := by
  unfold parseAbsolute at h
  obtain ⟨⟨authority, tail⟩, -, h⟩ := bind_eq_ok.mp h
  simp only at h
  split at h
  · cases h
  · obtain ⟨-, -, h⟩ := bind_eq_ok.mp h
    obtain ⟨⟨path, query⟩, -, h⟩ := bind_eq_ok.mp h
    cases h
    rfl

/-- A text with a scheme of its own is read from there on. Texts of one character are
treated apart by the reader, and a text with a scheme is longer. -/
theorem parseChars_webScheme (plain : Bool) (rest : List Char) :
    let text := (webScheme plain).toList ++ "://".toList ++ rest
    parseChars text =
      if maxLength < (Text.Utf8.encode text).length then .error .tooLong
      else parseAbsolute (webScheme plain).toList rest := by
  intro text
  obtain ⟨s, hs⟩ : ∃ s, text = 'h' :: 't' :: s := by
    cases plain <;> exact ⟨_, rfl⟩
  have hsplit : splitScheme ('h' :: 't' :: s) = .ok (some (webScheme plain).toList, rest) :=
    hs ▸ splitScheme_webScheme plain rest
  rw [hs]
  unfold parseChars
  simp only [hsplit]
  split
  · rfl
  · rfl

/-- A target has the scheme its text starts with. Whether a client's target is secured is
told by it, so this is where the credentials of a channel become visible. -/
theorem scheme_of_parse {plain : Bool} {rest : String} {u : Uri}
    (h : parse (webScheme plain ++ "://" ++ rest) = .ok u) :
    u.scheme = some (webScheme plain) := by
  rw [parse, String.toList_append, String.toList_append, parseChars_webScheme] at h
  split at h
  · cases h
  · rw [scheme_of_parseAbsolute h, String.ofList_toList]

end Uri

end LogCourier
