import ScriptTree.Proofs.Lexeme.Blanking

/-!
# Other letters in the same places

Where a text is cut does not depend on which letters are in it, only on where
letters are.  So a source in which keywords are spelled in another way is cut in
the same places, and its lexemes are the same but for the texts of keywords.
-/

namespace ScriptTree

namespace Piece

/-! ## One letter for all letters -/

/-- A character, or one and the same letter for every letter. -/
def blur (character : Char) : Char :=
  if character.isAlpha then 'a' else character

theorem blur_of_isAlpha {character : Char} (letter : character.isAlpha = true) :
    blur character = 'a' :=
  if_pos letter

theorem blur_of_not_isAlpha {character : Char} (plain : ¬character.isAlpha = true) :
    blur character = character :=
  if_neg plain

/-- Letters are in ASCII. -/
theorem toNat_lt_of_isAlpha {character : Char} (letter : character.isAlpha = true) :
    character.toNat < 128 := by
  have within : (decide ('A'.val ≤ character.val ∧ character.val ≤ 'Z'.val) ||
      decide ('a'.val ≤ character.val) && decide (character.val ≤ 'z'.val)) = true :=
    letter
  simp only [Bool.or_eq_true, Bool.and_eq_true, decide_eq_true_eq,
    UInt32.le_iff_toNat_le] at within
  have last : 'Z'.val.toNat = 90 ∧ 'z'.val.toNat = 122 := ⟨rfl, rfl⟩
  have same : character.toNat = character.val.toNat := rfl
  omega

/-- Neither the tests by which a text is cut nor the widths tell letters from each other. -/
theorem letters_alike : ∀ code < 128, (Char.ofNat code).isAlpha = true →
    isWordStart (Char.ofNat code) = true ∧ isWordPart (Char.ofNat code) = true ∧
      (Char.ofNat code).isDigit = false ∧ isLineBreak (Char.ofNat code) = false ∧
      isBlank (Char.ofNat code) = false ∧ opensNothing (Char.ofNat code) = false ∧
      (Char.ofNat code).utf8Size = 1 := by
  decide +kernel

/-- What has one value for all letters has it for a blurred character, too. -/
theorem apply_blur {α : Type} {test : Char → α} {value : α}
    (alike : ∀ code < 128, (Char.ofNat code).isAlpha = true → test (Char.ofNat code) = value)
    (character : Char) : test (blur character) = test character := by
  by_cases letter : character.isAlpha = true
  · have found := alike character.toNat (toNat_lt_of_isAlpha letter)
    rw [Char.ofNat_toNat] at found
    have sample : test 'a' = value := alike 97 (by decide) (by decide)
    rw [blur_of_isAlpha letter, sample, found letter]
  · rw [blur_of_not_isAlpha letter]

theorem isWordStart_blur (character : Char) :
    isWordStart (blur character) = isWordStart character :=
  apply_blur (fun code low letter => (letters_alike code low letter).1) character

theorem isWordPart_blur (character : Char) : isWordPart (blur character) = isWordPart character :=
  apply_blur (fun code low letter => (letters_alike code low letter).2.1) character

theorem isDigit_blur (character : Char) : (blur character).isDigit = character.isDigit :=
  apply_blur (fun code low letter => (letters_alike code low letter).2.2.1) character

theorem isLineBreak_blur (character : Char) :
    isLineBreak (blur character) = isLineBreak character :=
  apply_blur (fun code low letter => (letters_alike code low letter).2.2.2.1) character

theorem isBlank_blur (character : Char) : isBlank (blur character) = isBlank character :=
  apply_blur (fun code low letter => (letters_alike code low letter).2.2.2.2.1) character

theorem opensNothing_blur (character : Char) :
    opensNothing (blur character) = opensNothing character :=
  apply_blur (fun code low letter => (letters_alike code low letter).2.2.2.2.2.1) character

theorem utf8Size_blur (character : Char) : (blur character).utf8Size = character.utf8Size :=
  apply_blur (fun code low letter => (letters_alike code low letter).2.2.2.2.2.2) character

/-- Only letters are blurred. -/
theorem blur_eq_iff {character : Char} (other : Char) (plain : other.isAlpha = false) :
    blur character = other ↔ character = other := by
  by_cases letter : character.isAlpha = true
  · rw [blur_of_isAlpha letter]
    constructor <;> rintro rfl
    · cases plain
    · rw [plain] at letter
      cases letter
  · rw [blur_of_not_isAlpha letter]

/-- No pair of letters is a symbol. -/
theorem not_isAlpha_of_pairToken? {first second : Char} {token : Token}
    (found : pairToken? first second = some token) :
    ¬first.isAlpha = true ∧ ¬second.isAlpha = true := by
  unfold pairToken? at found
  split at found <;> first | exact ⟨by decide, by decide⟩ | cases found

theorem pairToken?_blur (first second : Char) :
    pairToken? (blur first) (blur second) = pairToken? first second := by
  by_cases plain : ¬first.isAlpha = true ∧ ¬second.isAlpha = true
  · rw [blur_of_not_isAlpha plain.1, blur_of_not_isAlpha plain.2]
  · have none : pairToken? first second = none :=
      Option.eq_none_iff_forall_ne_some.mpr fun _ found => plain (not_isAlpha_of_pairToken? found)
    rw [none, Option.eq_none_iff_forall_ne_some]
    intro token found
    rcases not_isAlpha_of_pairToken? found with ⟨plainFirst, plainSecond⟩
    refine plain ⟨fun letter => plainFirst ?_, fun letter => plainSecond ?_⟩ <;>
      rw [blur_of_isAlpha letter] <;> rfl

/-! ## Cutting a blurred text -/

section

variable (text : List Char)

/-- A run is blurred as a whole if it accepts letters alike. -/
theorem takeWhile_blur {accepts : Char → Bool}
    (alike : ∀ character, accepts (blur character) = accepts character) :
    (text.map blur).takeWhile accepts = (text.takeWhile accepts).map blur := by
  rw [List.takeWhile_map, show accepts ∘ blur = accepts from funext alike]

theorem dropWhile_blur {accepts : Char → Bool}
    (alike : ∀ character, accepts (blur character) = accepts character) :
    (text.map blur).dropWhile accepts = (text.dropWhile accepts).map blur := by
  rw [List.dropWhile_map, show accepts ∘ blur = accepts from funext alike]

/-- Both parts of a divided text are blurred. -/
def blurBoth (parts : List Char × List Char) : List Char × List Char :=
  (parts.1.map blur, parts.2.map blur)

/-- A string ends at the same place when its letters are blurred. -/
theorem stringTail_blur : stringTail (text.map blur) = blurBoth (stringTail text) := by
  fun_induction stringTail text with
  | case1 | case2 => rfl
  | case3 escaped rest breaks =>
    show stringTail ('\\' :: blur escaped :: rest.map blur) = _
    rw [stringTail, isLineBreak_blur, if_pos breaks]
    rfl
  | case4 escaped rest plain ih =>
    show stringTail ('\\' :: blur escaped :: rest.map blur) = _
    rw [stringTail, isLineBreak_blur, if_neg plain, ih]
    rfl
  | case5 character rest quote slash breaks =>
    have plain : character ≠ '\\' := by
      rintro rfl
      cases breaks
    rw [List.map_cons, stringTail_cons (mt (blur_eq_iff _ rfl).mp quote)
      (mt (blur_eq_iff _ rfl).mp plain), isLineBreak_blur, if_pos breaks]
    rfl
  | case6 character rest quote slash plain ih =>
    by_cases backslash : character = '\\'
    · subst backslash
      cases rest with
      | nil => rfl
      | cons escaped more => exact absurd rfl (slash escaped more rfl)
    · rw [List.map_cons, stringTail_cons (mt (blur_eq_iff _ rfl).mp quote)
        (mt (blur_eq_iff _ rfl).mp backslash), isLineBreak_blur, if_neg plain, ih]
      rfl

/-- A comment ends at the same place when its letters are blurred. -/
theorem commentTail_blur : commentTail (text.map blur) = blurBoth (commentTail text) := by
  fun_induction commentTail text with
  | case1 | case2 => rfl
  | case3 character rest closes ih =>
    rw [List.map_cons, commentTail_cons, ih]
    · rfl
    · intro further star slash
      cases rest with
      | nil => cases slash
      | cons second rest =>
        rw [List.map_cons, List.cons.injEq] at slash
        exact closes rest ((blur_eq_iff _ rfl).mp star) (by rw [(blur_eq_iff _ rfl).mp slash.1])

theorem fractionTail_blur : fractionTail (text.map blur) = blurBoth (fractionTail text) := by
  cases text with
  | nil => rfl
  | cons character rest =>
    by_cases dot : character = '.'
    · subst dot
      cases rest with
      | nil => rfl
      | cons digit rest =>
        show fractionTail ('.' :: blur digit :: rest.map blur) = _
        rw [fractionTail, fractionTail, isDigit_blur, takeWhile_blur rest isDigit_blur,
          dropWhile_blur rest isDigit_blur]
        split <;> rfl
    · rw [List.map_cons, fractionTail_cons _ (mt (blur_eq_iff _ rfl).mp dot),
        fractionTail_cons _ dot]
      rfl

/-- A piece and what is left of a text after it, both blurred. -/
def blurCut (cut : Piece × List Char) : Piece × List Char :=
  (⟨cut.1.token, cut.1.text.map blur⟩, cut.2.map blur)

/-- A symbol ends at the same place when letters are blurred. -/
theorem symbol_blur {first : Char} (plain : ¬first.isAlpha = true) :
    symbol first (text.map blur) = blurCut (symbol first text) := by
  cases text with
  | nil => simp [symbol, blurCut, blur_of_not_isAlpha plain]
  | cons second rest =>
    have pair := pairToken?_blur first second
    rw [blur_of_not_isAlpha plain] at pair
    rw [List.map_cons, symbol, symbol, pair]
    split
    · simp [blurCut, blur_of_not_isAlpha plain]
    · simp only [blur_eq_iff '/' rfl, blur_eq_iff '*' rfl]
      rw [← List.map_cons, commentTail_blur, takeWhile_blur _ opensNothing_blur,
        dropWhile_blur _ opensNothing_blur,
        takeWhile_blur _ fun character => congrArg not (isLineBreak_blur character),
        dropWhile_blur _ fun character => congrArg not (isLineBreak_blur character)]
      split
      · rfl
      · split
        · rfl
        · split <;> simp [blurCut, blur_of_not_isAlpha plain]

/-- A blurred text is cut where the text is cut, into the same tokens but for words. -/
theorem cut_blur (first : Char) :
    (cut (blur first) (text.map blur)).1.text = (cut first text).1.text.map blur ∧
      (cut (blur first) (text.map blur)).2 = (cut first text).2.map blur ∧
      (isWordStart first = false →
        (cut (blur first) (text.map blur)).1.token = (cut first text).1.token) := by
  unfold cut
  simp only [isWordStart_blur, isDigit_blur, isBlank_blur, blur_eq_iff '"' rfl]
  rw [takeWhile_blur _ isDigit_blur, dropWhile_blur _ isDigit_blur,
    takeWhile_blur _ isWordPart_blur, dropWhile_blur _ isWordPart_blur,
    takeWhile_blur _ isBlank_blur, dropWhile_blur _ isBlank_blur, stringTail_blur,
    fractionTail_blur]
  split
  · simp_all
  · split
    · simp [blurBoth]
    · split
      · simp
      · split
        · exact ⟨rfl, rfl, fun _ => rfl⟩
        · rename_i noWord _ _ _
          have plain : ¬first.isAlpha = true := by
            intro letter
            simp [isWordStart, letter] at noWord
          rw [blur_of_not_isAlpha plain, symbol_blur text plain]
          exact ⟨rfl, rfl, fun _ => rfl⟩

end

end Piece

/-! ## Spellings of keywords -/

namespace Keyword

/-- All spellings in the table are classified as their keyword, and differ in letters only. -/
theorem table_spelling : ∀ entry ∈ table, ∀ word ∈ spellingsOf entry.2.toList,
    classify word = entry.1 ∧ word.map Piece.blur = entry.2.toList.map Piece.blur := by
  decide +kernel

/-- Each keyword has one entry in the table. -/
theorem table_functional : ∀ entry ∈ table, ∀ other ∈ table, entry.1 = other.1 → entry = other := by
  decide +kernel

/-- A spelling of a keyword is in the table. -/
theorem exists_entry_of_mem {token : Token} {text : String}
    (spelled : text ∈ (spellings? token).getD []) :
    ∃ entry ∈ table, entry.1 = token ∧ text.toList ∈ spellingsOf entry.2.toList := by
  unfold spellings? at spelled
  cases found : table.find? fun entry => entry.1 = token with
  | none => simp [found] at spelled
  | some entry =>
    rw [found, Option.map_some, Option.getD_some] at spelled
    rcases List.mem_map.mp spelled with ⟨word, member, rfl⟩
    refine ⟨entry, List.mem_of_find?_eq_some found, by simpa using List.find?_some found, ?_⟩
    rwa [String.toList_ofList]

/-- A word that is classified as a keyword is in the table. -/
theorem exists_entry_of_classify {word : List Char} (keyword : (classify word).isKeyword = true) :
    ∃ entry ∈ table, entry.1 = classify word ∧ word ∈ spellingsOf entry.2.toList := by
  unfold classify lookup at keyword ⊢
  cases found : table.find? fun entry => word ∈ spellingsOf entry.2.toList with
  | none => simp [found, Token.isKeyword] at keyword
  | some entry =>
    exact ⟨entry, List.mem_of_find?_eq_some found, rfl, by simpa using List.find?_some found⟩

theorem isKeyword_of_mem {token : Token} {text : String}
    (spelled : text ∈ (spellings? token).getD []) : token.isKeyword = true := by
  have keywords : ∀ entry ∈ table, entry.1.isKeyword = true := by decide
  rcases exists_entry_of_mem spelled with ⟨entry, member, rfl, -⟩
  exact keywords entry member

/-- Two spellings of a keyword have letters in the same places. -/
theorem map_blur_of_mem {word : List Char} {text : String}
    (spelled : text ∈ (spellings? (classify word)).getD []) :
    classify text.toList = classify word ∧ text.toList.map Piece.blur = word.map Piece.blur := by
  rcases exists_entry_of_mem spelled with ⟨entry, member, token, other⟩
  rcases exists_entry_of_classify (isKeyword_of_mem spelled) with ⟨own, memberOwn, tokenOwn, here⟩
  cases table_functional entry member own memberOwn (token.trans tokenOwn.symm)
  rcases table_spelling entry member _ other with ⟨classified, blurred⟩
  exact ⟨classified.trans token, blurred.trans (table_spelling entry member _ here).2.symm⟩

end Keyword

/-! ## Cutting a respelled text -/

namespace Piece

/-- A text that a piece may be replaced by: its own text, or another spelling of its keyword. -/
def IsSpelledBy (piece : Piece) (text : String) : Prop :=
  text.toList = piece.text ∨ text ∈ (Keyword.spellings? piece.token).getD []

/-- The same piece, but for the letters of a keyword. -/
structure Respelled (piece other : Piece) : Prop where
  token : other.token = piece.token
  blurred : other.text.map blur = piece.text.map blur
  text : other.text = piece.text ∨ piece.token.isKeyword = true

/-- A word is classified by its text. -/
theorem token_cut_of_isWordStart {first : Char} (starts : isWordStart first = true)
    (rest : List Char) :
    (cut first rest).1.token = Keyword.classify (cut first rest).1.text := by
  rw [cut, if_pos starts]

/-- Keywords and names are words. -/
theorem isWordStart_of_isWord {first : Char} {rest : List Char}
    (word : (cut first rest).1.token.isKeyword = true ∨ (cut first rest).1.token = .identifier) :
    isWordStart first = true := by
  by_contra noWord
  revert word
  fun_cases cut first rest with
  | case1 word => exact absurd word noWord
  | case2 | case3 | case4 => simp [Token.isKeyword]
  | case5 => exact fun word => token_symbol_ne (word.imp_right fun name => by simp [name]) rfl

/-- Spelling a word in another way changes letters only. -/
theorem map_blur_of_isSpelledBy {first : Char} {rest : List Char} {text : String}
    (spelled : (cut first rest).1.IsSpelledBy text) :
    text.toList.map blur = (cut first rest).1.text.map blur := by
  rcases spelled with same | spelled
  · rw [same]
  · have starts := isWordStart_of_isWord (.inl (Keyword.isKeyword_of_mem spelled))
    rw [token_cut_of_isWordStart starts] at spelled
    exact (Keyword.map_blur_of_mem spelled).2

/-- A respelled piece is cut from a text that is the same but for letters behind the piece. -/
theorem cut_of_isSpelledBy {first other : Char} {rest taken left : List Char} {text : String}
    (spelled : (cut first rest).1.IsSpelledBy text) (written : text.toList = other :: taken)
    (later : left.map blur = (cut first rest).2.map blur) :
    cut other (taken ++ left) = (⟨(cut first rest).1.token, text.toList⟩, left) := by
  have blurred := map_blur_of_isSpelledBy spelled
  have whole : blur other = blur first ∧ (taken ++ left).map blur = rest.map blur := by
    have both := congrArg₂ (· ++ ·) blurred later
    rw [← List.map_append, ← List.map_append, cut_append, written] at both
    exact List.cons.inj both
  rcases cut_blur rest first with ⟨sameText, -, sameToken⟩
  rcases cut_blur (taken ++ left) other with ⟨otherText, -, otherToken⟩
  rw [whole.1, whole.2] at otherText otherToken
  -- Both cuts take as many characters, so the other one takes the text and leaves the rest.
  have length : (cut other (taken ++ left)).1.text.length = text.toList.length := by
    have lengths := congrArg List.length (otherText.symm.trans (sameText.trans blurred.symm))
    rwa [List.length_map, List.length_map] at lengths
  have parts := cut_append other (taken ++ left)
  rw [← List.cons_append, ← written] at parts
  rcases List.append_inj parts length with ⟨takes, leaves⟩
  refine Prod.ext ?_ leaves
  have token : (cut other (taken ++ left)).1.token = (cut first rest).1.token := by
    have starts : isWordStart other = isWordStart first := by
      rw [← isWordStart_blur other, whole.1, isWordStart_blur]
    cases word : isWordStart first with
    | true =>
      rw [token_cut_of_isWordStart (starts.trans word), takes]
      rcases spelled with same | spelled
      · rw [same, token_cut_of_isWordStart word]
      · rw [token_cut_of_isWordStart word] at spelled ⊢
        exact (Keyword.map_blur_of_mem spelled).1
    | false => rw [← otherToken (starts.trans word), sameToken word]
  rw [← token, ← takes]

/-- A respelled text is cut into the respelled pieces. -/
theorem all_respelled {text : List Char} {texts : List String}
    (spelled : List.Forall₂ IsSpelledBy (all text) texts) :
    List.Forall₂ Respelled (all text) (all (texts.flatMap String.toList)) ∧
      (texts.flatMap String.toList).map blur = text.map blur := by
  fun_induction all text generalizing texts with
  | case1 =>
    cases spelled
    rw [List.flatMap_nil, all]
    exact ⟨.nil, rfl⟩
  | case2 first rest ih =>
    cases spelled with
    | @cons _ text _ texts here others =>
      rcases ih others with ⟨respelled, blurred⟩
      have written : text.toList ≠ [] := by
        intro nothing
        have same := map_blur_of_isSpelledBy here
        rw [nothing, List.map_nil, eq_comm, List.map_eq_nil_iff] at same
        exact cut_text_ne_nil first rest same
      rcases List.exists_cons_of_ne_nil written with ⟨other, taken, written⟩
      have cut := cut_of_isSpelledBy here written blurred
      constructor
      · rw [List.flatMap_cons, written, List.cons_append, all_cons, cut]
        refine .cons ⟨rfl, map_blur_of_isSpelledBy here, ?_⟩ respelled
        exact here.imp id Keyword.isKeyword_of_mem
      · rw [List.flatMap_cons, List.map_append, blurred, map_blur_of_isSpelledBy here,
          ← List.map_append, cut_append]

end Piece

/-! ## Sources -/

theorem Text.byteLength_blur (text : List Char) :
    byteLength (text.map Piece.blur) = byteLength text := by
  induction text with
  | nil => rfl
  | cons character rest ih => rw [List.map_cons, byteLength, Piece.utf8Size_blur, ih, byteLength]

/-- Lines start at the same offsets when letters are blurred. -/
theorem LineIndex.startsFrom_blur (offset : Nat) (text : List Char) :
    startsFrom offset (text.map Piece.blur) = startsFrom offset text := by
  induction text generalizing offset with
  | nil => rfl
  | cons character rest ih =>
    rw [List.map_cons, startsFrom, startsFrom, Piece.utf8Size_blur]
    simp only [Piece.blur_eq_iff '\n' rfl, ih]

namespace Lexeme

/-- A text that a lexeme may be replaced by: its own text, or another spelling of its keyword. -/
def IsSpelledBy (lexeme : Lexeme) (text : String) : Prop :=
  text = lexeme.text ∨ text ∈ (Keyword.spellings? lexeme.token).getD []

instance (lexeme : Lexeme) (text : String) : Decidable (lexeme.IsSpelledBy text) :=
  inferInstanceAs (Decidable (_ ∨ _))

/-- The same lexeme in the same place, but for the letters of a keyword. -/
structure Respelled (lexeme other : Lexeme) : Prop where
  placed : other.toPlacedToken = lexeme.toPlacedToken
  text : other.text = lexeme.text ∨ lexeme.token.isKeyword = true

theorem forall₂_isSpelledBy {index : LineIndex} {offset : Nat} {pieces : List Piece}
    {texts : List String} (spelled : List.Forall₂ IsSpelledBy (place index offset pieces) texts) :
    List.Forall₂ Piece.IsSpelledBy pieces texts := by
  induction pieces generalizing offset texts with
  | nil =>
    cases spelled
    exact .nil
  | cons piece rest ih =>
    cases spelled with
    | cons here others =>
      refine .cons (here.imp (fun same => ?_) id) (ih others)
      rw [same, String.toList_ofList]

/-- Respelled pieces are respelled wherever they are placed. -/
theorem respelled_place (index : LineIndex) (offset : Nat) {pieces others : List Piece}
    (respelled : List.Forall₂ Piece.Respelled pieces others) :
    List.Forall₂ Respelled (place index offset pieces) (place index offset others) := by
  induction respelled generalizing offset with
  | nil => exact .nil
  | @cons piece other _ _ same _ ih =>
    have length : Text.byteLength other.text = Text.byteLength piece.text := by
      rw [← Text.byteLength_blur other.text, same.blurred, Text.byteLength_blur]
    rw [place, place, length]
    refine .cons ⟨by rw [same.token], same.text.imp (fun text => ?_) id⟩ (ih _)
    rw [text]

end Lexeme

end ScriptTree
