import Stencil.Console.PictogramNames
import Stencil.Text.Blank
import Stencil.Text.Case

/-!
# Names of pictograms

A name between two colons stands for a pictogram. After a hyphen the name may say whether the
pictogram is to look like text or like a picture. What is not the name of a pictogram stays as it
is, together with both of its colons.
-/

namespace Stencil.Console

/-- The tones of skin, with the characters that follow a pictogram. -/
def tones : List (List Char × Char) := [
  ("_light_skin_tone".toList, '🏻'), ("_medium-light_skin_tone".toList, '🏼'),
  ("_medium_skin_tone".toList, '🏽'), ("_medium-dark_skin_tone".toList, '🏾'),
  ("_dark_skin_tone".toList, '🏿')]

/-- The entries of the row of names: a pictogram and its names. -/
def pictogramEntries : List (List Char × List (List Char)) :=
  (Text.words pictogramNames).map fun word =>
    match word.splitOn '=' with
    | pictogram :: names => (pictogram, names)
    | [] => ([], [])

/-- The pictogram with a name that is written in the row as it stands. -/
def writtenAs? (name : List Char) : Option (List Char) :=
  (pictogramEntries.find? fun entry => entry.2.contains name).map Prod.fst

/-- A pictogram with a tone of skin after its first character, in place of a mark for coloured
display. -/
def withTone (tone : Char) : List Char → List Char
  | c :: '\ufe0f' :: rest => c :: tone :: rest
  | c :: rest => c :: tone :: rest
  | [] => [tone]

/-- The endings of a name that choose a look, with the character for it. -/
def looks : List (List Char × Char) :=
  [("-emoji".toList, '\ufe0f'), ("-text".toList, '\ufe0e')]

/-- The pictogram of a name in lower case. -/
def namedPictogram? (name : List Char) : Option (List Char) :=
  match writtenAs? name with
  | some pictogram => some pictogram
  | none =>
    match writtenAs? (name ++ ['~']) with
    | some pictogram => some pictogram
    | none =>
      tones.findSome? fun (ending, tone) =>
        if ending.isSuffixOf name then
          (writtenAs? (name.take (name.length - ending.length) ++ ['~'])).map (withTone tone)
        else none

/-- The pictogram of a name without a look. -/
def pictogram? (name : List Char) : Option (List Char) :=
  if name.getLast? = some '~' then none else namedPictogram? (Text.lowerChars name)

/-- The pictogram of a name, which may end in a look. -/
def pictogramWithLook? (name : List Char) : Option (List Char) :=
  match looks.find? fun look => look.1.isSuffixOf name with
  | some (ending, look) =>
    (pictogram? (name.take (name.length - ending.length))).map (· ++ [look])
  | none => pictogram? name

/-- The name between colons at the start of a text, and what follows it. -/
def nameAt? : List Char → Option (List Char × List Char)
  | ':' :: rest =>
    let name := rest.takeWhile fun c => c ≠ ':' && !Text.isBlank c
    match rest.drop name.length with
    | ':' :: after => some (name, after)
    | _ => none
  | _ => none

/-- A name and its colons are part of the text. -/
theorem length_nameAt? {cs name after : List Char} (h : nameAt? cs = some (name, after)) :
    after.length < cs.length := by
  unfold nameAt? at h
  split at h
  · next rest =>
    dsimp only at h
    split at h
    · next rest' found =>
      simp only [Option.some.injEq, Prod.mk.injEq] at h
      have shorter := congrArg List.length found
      simp only [List.length_drop, List.length_cons] at shorter
      rw [← h.2]
      simp only [List.length_cons]
      omega
    · simp at h
  · simp at h

/-- A text with pictograms in place of their names. -/
def withPictograms (cs : List Char) : List Char :=
  match cs with
  | [] => []
  | c :: rest =>
    match _found : nameAt? (c :: rest) with
    | some (name, after) =>
      (pictogramWithLook? name).getD (':' :: name ++ [':']) ++ withPictograms after
    | none => c :: withPictograms rest
  termination_by cs.length
  decreasing_by
    · exact length_nameAt? _found
    · simp

end Stencil.Console
