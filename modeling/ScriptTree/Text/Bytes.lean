/-!
# Byte offsets into text

Every offset and every column of this library counts UTF-8 bytes.  Text is
handled as a list of characters, so a byte offset is meaningful only where it
falls between two characters; `splitBytes` refuses every other offset.
-/

namespace ScriptTree.Text

/-- The number of UTF-8 bytes in a run of characters. -/
def byteLength : List Char → Nat
  | [] => 0
  | character :: rest => character.utf8Size + byteLength rest

@[simp]
theorem byteLength_append (before after : List Char) :
    byteLength (before ++ after) = byteLength before + byteLength after := by
  induction before with
  | nil => simp [byteLength]
  | cons character rest ih => simp [byteLength, ih, Nat.add_assoc]

/-- Cut a text after `count` bytes, if a character ends there. -/
def splitBytes : Nat → List Char → Option (List Char × List Char)
  | 0, text => some ([], text)
  | _ + 1, [] => none
  | count + 1, character :: rest =>
    if character.utf8Size ≤ count + 1 then
      (splitBytes (count + 1 - character.utf8Size) rest).map fun (before, after) =>
        (character :: before, after)
    else
      none

/-- A text is split where the bytes of its front end. -/
theorem splitBytes_append (before after : List Char) :
    splitBytes (byteLength before) (before ++ after) = some (before, after) := by
  induction before with
  | nil => simp [byteLength, splitBytes]
  | cons character rest ih =>
    have positive := character.utf8Size_pos
    obtain ⟨count, size⟩ : ∃ count, character.utf8Size + byteLength rest = count + 1 :=
      ⟨character.utf8Size + byteLength rest - 1, by omega⟩
    have remaining : count + 1 - character.utf8Size = byteLength rest := by omega
    have fits : character.utf8Size ≤ count + 1 := by omega
    simp [byteLength, size, splitBytes, remaining, fits, ih]

/-- Where a text is split, both parts make up the text, and the first one has the bytes asked
for. -/
theorem eq_append_of_splitBytes {count : Nat} {text before after : List Char}
    (split : splitBytes count text = some (before, after)) :
    text = before ++ after ∧ byteLength before = count := by
  fun_induction splitBytes count text generalizing before after with
  | case1 text =>
    obtain ⟨rfl, rfl⟩ : [] = before ∧ text = after := by simpa using split
    simp [byteLength]
  | case2 => simp at split
  | case3 count character rest fits ih =>
    obtain ⟨⟨front, back⟩, cut, same⟩ := Option.map_eq_some_iff.1 split
    obtain ⟨rfl, rfl⟩ : character :: front = before ∧ back = after := by simpa using same
    obtain ⟨whole, size⟩ := ih cut
    exact ⟨by simp [whole], by simp [byteLength, size]; omega⟩
  | case4 => simp at split

/-- The text between two byte offsets, if both fall between characters and in order. -/
def slice (start stop : Nat) (text : List Char) : Option (List Char) :=
  if start ≤ stop then do
    let (_, tail) ← splitBytes start text
    let (middle, _) ← splitBytes (stop - start) tail
    return middle
  else
    none

/-- A slice between the ends of two parts is what stands between them. -/
theorem slice_append (before middle after : List Char) :
    slice (byteLength before) (byteLength before + byteLength middle) (before ++ middle ++ after) =
      some middle := by
  rw [slice, if_pos (Nat.le_add_right _ _), List.append_assoc, splitBytes_append,
    Nat.add_sub_cancel_left]
  simp [splitBytes_append]

end ScriptTree.Text
