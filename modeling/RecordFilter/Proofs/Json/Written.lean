import Mathlib.Data.List.Forall2
import RecordFilter.Json.Reader
import RecordFilter.Json.Text
import RecordFilter.Proofs.Double.Literal

namespace RecordFilter

open Text

/-!
# Written JSON and its tokens

* `Json.tokens` — the tokens of a document.
* `Json.IsWord` — a constant or number is written as one word that is read as itself.
* `Json.isWord_int`, `isWord_float` — integers of 64 bits are, and so is a double that a JSON reader
  reads back.
* `Json.Token.readString?_escaped` — a written string is read back.
* `Json.NumbersReadable.cuts` — a written document is cut into its tokens.
-/

namespace Json

/-! ### Strings -/

namespace Token

/-- A character that needs no escape is read as it stands. -/
theorem readString?_plain {c : Char} (hquote : c ≠ '"') (hbackslash : c ≠ '\\')
    (hcontrol : 32 ≤ c.toNat) (rest : List Char) :
    readString? (c :: rest)
      = (readString? rest).map fun (units, rest) => (c.toNat :: units, rest) := by
  have hplain : ¬ (c.toNat < 32 ∨ c = '\\') := by
    rintro (h | h)
    · omega
    · exact hbackslash h
  rw [readString?, if_neg hplain]
  · cases readString? rest <;> rfl
  · exact hquote
  · exact fun _ _ _ _ _ h _ => hbackslash h
  · exact fun _ _ h _ => hbackslash h

/-- The two hexadecimal digits of a control character stand for it. -/
theorem hexWord?_hexDigit : ∀ code < 32,
    hexWord? '0' '0' (hexDigit (code / 16)) (hexDigit (code % 16)) = some code := by
  decide

/-- A written character is read as the character. -/
theorem readString?_escapedChar (c : Char) (rest : List Char) :
    readString? (escapedChar c ++ rest)
      = (readString? rest).map fun (units, rest) => (c.toNat :: units, rest) := by
  have hletter : ∀ mark, escape? mark = some c → mark ≠ 'u' →
      readString? ('\\' :: mark :: rest)
        = (readString? rest).map fun (units, rest) => (c.toNat :: units, rest) := by
    intro mark hmark hu
    rw [readString?, hmark]
    · cases readString? rest <;> rfl
    · exact fun _ _ _ _ _ h _ => hu h
  unfold escapedChar
  -- Seven characters have a letter for their escape.
  iterate 7
    split
    case isTrue h =>
      subst h
      exact hletter _ rfl (by decide)
  next hquote hbackslash _ _ _ _ _ =>
    split
    case isTrue hcontrol =>
      show readString? ('\\' :: 'u' :: '0' :: '0' :: hexDigit (c.toNat / 16)
        :: hexDigit (c.toNat % 16) :: rest) = _
      rw [readString?, hexWord?_hexDigit c.toNat hcontrol]
      cases readString? rest <;> rfl
    case isFalse hplain => exact readString?_plain hquote hbackslash (by omega) rest

/-- **A written string is read back**, code point by code point. -/
theorem readString?_escaped (chars rest : List Char) :
    readString? (chars.flatMap escapedChar ++ '"' :: rest)
      = some (chars.map Char.toNat, rest) := by
  induction chars with
  | nil => rfl
  | cons c chars ih =>
    rw [List.flatMap_cons, List.append_assoc, readString?_escapedChar, ih]
    rfl

/-- Code points of characters have no halves of surrogate pairs among them. -/
theorem joinSurrogates?_toNat (chars : List Char) :
    joinSurrogates? (chars.map Char.toNat) = some chars := by
  have hnone : ∀ c : Char, ¬ (0xD800 ≤ c.toNat ∧ c.toNat ≤ 0xDFFF) := by
    intro c
    have hvalid : c.toNat < 0xD800 ∨ 0xDFFF < c.toNat ∧ c.toNat < 0x110000 := c.valid
    omega
  induction chars with
  | nil => rfl
  | cons c rest ih =>
    cases rest with
    | nil => rw [List.map_singleton, joinSurrogates?, if_neg (hnone c), Char.ofNat_toNat]
    | cons next rest =>
      rw [List.map_cons, List.map_cons, joinSurrogates?, if_neg (hnone c), ← List.map_cons, ih,
        Char.ofNat_toNat]
      rfl

/-! ### Words -/

/-- Digits continue a word. -/
theorem continuesWord_of_isDigit {c : Char} (h : isDigit c = true) : continuesWord c = true := by
  obtain ⟨hlow, hhigh⟩ := toNat_of_isDigit h
  have hdigits : ∀ code < 58, 48 ≤ code → continuesWord (Char.ofNat code) = true := by decide
  rw [← Char.ofNat_toNat c]
  exact hdigits _ (by omega) hlow

/-- What stands behind a text does not continue its last word. -/
def NoWordAhead (rest : List Char) : Prop :=
  ∀ c ∈ rest.head?, continuesWord c = false

/-- The end of a text does not continue a word. -/
theorem noWordAhead_nil : NoWordAhead [] :=
  fun _ hc => by cases hc

/-- A word at the front of a text makes the first token. -/
theorem ofChars?_word {word rest : List Char} (hne : word ≠ [])
    (hword : ∀ c ∈ word, continuesWord c = true) (hrest : NoWordAhead rest) :
    ofChars? (word ++ rest)
      = (ofWord? word).bind fun token => (ofChars? rest).map (token :: ·) := by
  cases word with
  | nil => exact absurd rfl hne
  | cons c word =>
    obtain ⟨hc, hword⟩ := List.forall_mem_cons.1 hword
    have hfirst : isSpace c = false ∧ c ≠ '"' ∧ punctuation? c = none := by
      simpa [continuesWord, and_assoc] using hc
    obtain ⟨hspace, hquote, hpunctuation⟩ := hfirst
    have hend : rest.takeWhile continuesWord = [] ∧ rest.dropWhile continuesWord = rest := by
      cases rest with
      | nil => exact ⟨rfl, rfl⟩
      | cons d rest =>
        have hd := hrest d rfl
        exact ⟨List.takeWhile_cons_of_neg (by simp [hd]), List.dropWhile_cons_of_neg (by simp [hd])⟩
    have htake : (word ++ rest).takeWhile continuesWord = word := by
      rw [List.takeWhile_append_of_pos hword, hend.1, List.append_nil]
    have hdrop : (word ++ rest).dropWhile continuesWord = rest := by
      rw [List.dropWhile_append_of_pos hword, hend.2]
    rw [List.cons_append, ofChars?, if_neg (by simp [hspace]), if_neg hquote, hpunctuation]
    simp only [htake, hdrop]
    cases ofWord? (c :: word) with
    | none => rfl
    | some token => cases ofChars? rest <;> rfl

/-- A punctuation character at the front of a text makes the first token. -/
theorem ofChars?_punctuation {c : Char} {token : Token} (h : punctuation? c = some token)
    (rest : List Char) : ofChars? (c :: rest) = (ofChars? rest).map (token :: ·) := by
  have hfirst : isSpace c = false ∧ c ≠ '"' := by
    unfold punctuation? at h
    split at h
    all_goals first | decide | cases h
  rw [ofChars?, if_neg (by simp [hfirst.1]), if_neg hfirst.2, h]

/-- A written string at the front of a text makes the first token. -/
theorem ofChars?_stringChars (value : String) (rest : List Char) :
    ofChars? (stringChars value ++ rest)
      = (ofChars? rest).map (.string (some value) :: ·) := by
  have hread := readString?_escaped value.toList rest
  rw [stringChars, List.cons_append, List.append_assoc, List.singleton_append, ofChars?,
    if_neg (by decide), if_pos rfl]
  split
  case h_1 hfound =>
    rw [hread] at hfound
    cases hfound
  case h_2 units after hfound =>
    rw [hread] at hfound
    cases hfound
    rw [joinSurrogates?_toNat, Option.map_some, String.ofList_toList]

end Token

/-! ### Constants and numbers -/

/-- A constant or number is written as one word, which is read as itself. -/
structure IsWord (document : Json) : Prop where
  ofWord?_chars : Token.ofWord? document.chars = some (.scalar (some document))
  continuesWord : ∀ c ∈ document.chars, Token.continuesWord c = true

/-- Null is a word. -/
theorem isWord_null : IsWord .null :=
  ⟨rfl, List.all_eq_true.1 (by decide)⟩

/-- Truth values are words. -/
theorem isWord_bool (value : Bool) : IsWord (.bool value) := by
  cases value with
  | false => exact ⟨rfl, List.all_eq_true.1 (by decide)⟩
  | true => exact ⟨rfl, List.all_eq_true.1 (by decide)⟩

end Json

namespace NumberToken

/-- Digits that make a number that fits into a word are all taken in. -/
theorem absorb_zero {digits : List Char} (h : digitsValue digits ≤ wordMax) :
    absorb 0 digits = (digitsValue digits, digits.length) := by
  -- With further digits the number only grows.
  have hle : ∀ (digits : List Char) (word : Nat),
      word ≤ digits.foldl (fun value c => 10 * value + digitValue c) word := by
    intro digits
    induction digits with
    | nil => exact fun word => Nat.le_refl word
    | cons c rest ih =>
      intro word
      have hstep : word ≤ 10 * word + digitValue c := by omega
      exact Nat.le_trans hstep (ih _)
  have hall : ∀ (digits : List Char) (word : Nat),
      digits.foldl (fun value c => 10 * value + digitValue c) word ≤ wordMax →
        absorb word digits
          = (digits.foldl (fun value c => 10 * value + digitValue c) word, digits.length) := by
    intro digits
    induction digits with
    | nil => exact fun _ _ => rfl
    | cons c rest ih =>
      intro word hfits
      rw [absorb, if_pos (Nat.le_trans (hle rest _) hfits), ih _ hfits]
      rfl
  exact hall digits 0 h

/-- The digits of a number are read as the number. -/
theorem ofChars?_intChars (number : Int) :
    ofChars? (intChars number) = some ⟨decide (number < 0), natChars number.natAbs, none, none⟩ := by
  have hdigits : ∀ c ∈ natChars number.natAbs, isDigit c = true :=
    fun c hc => isDigit_of_mem_natChars hc
  have hspan : (natChars number.natAbs).span isDigit = (natChars number.natAbs, []) := by
    have := span_isDigit_append hdigits noDigitAhead_nil
    rwa [List.append_nil] at this
  have hwhole : readWhole? (natChars number.natAbs) = some (natChars number.natAbs, []) := by
    unfold readWhole?
    rw [hspan]
    split
    case h_1 hnil => exact absurd (Prod.mk.inj hnil).1 (natChars_ne_nil _)
    case h_2 hzero => cases eq_nil_of_natChars (Prod.mk.inj hzero).1
    case h_3 => rfl
  have hminus : readMinus (natChars number.natAbs) = (false, natChars number.natAbs) := by
    unfold readMinus
    split
    case h_1 hsign =>
      exact absurd (hdigits '-' (hsign ▸ List.mem_cons_self)) (by decide)
    case h_2 => rfl
  by_cases hnegative : number < 0
  · rw [intChars, if_pos hnegative]
    simp [ofChars?, readMinus, hwhole, readFraction?, readExponent?, hnegative]
  · rw [intChars, if_neg hnegative]
    simp [ofChars?, hminus, hwhole, readFraction?, readExponent?, hnegative]

/-- A written integer that fits into 64 bits has its value. -/
theorem value?_intChars {number : Int} (hlow : Int64.minValue.toInt ≤ number)
    (hhigh : number ≤ (wordMax : Int)) :
    value? ⟨decide (number < 0), natChars number.natAbs, none, none⟩ = some (.int number) := by
  have hfits : number.natAbs ≤ wordMax := by
    have hmin : Int64.minValue.toInt = -(2 ^ 63) := rfl
    have hmax : wordMax = 2 ^ 64 - 1 := rfl
    omega
  have habsorb : absorb 0 (natChars number.natAbs)
      = (number.natAbs, (natChars number.natAbs).length) := by
    rw [absorb_zero (by rw [digitsValue_natChars]; exact hfits), digitsValue_natChars]
  unfold value?
  dsimp only
  rw [habsorb]
  by_cases hnegative : number < 0
  · have hword : -(number.natAbs : Int) = number := by omega
    have hpositive : (number.natAbs != 0) = true := bne_iff_ne.2 (by omega)
    simp only [hnegative, hword, hpositive, hlow, Option.getD_none, absorb, Option.isNone_none,
      BEq.rfl, decide_true, Bool.not_true, Bool.and_false, Bool.false_eq_true, if_false,
      Bool.and_true, if_true]
  · have hword : (number.natAbs : Int) = number := by omega
    simp only [hnegative, hword, Option.getD_none, absorb, Option.isNone_none, BEq.rfl,
      decide_false, Bool.not_false, Bool.and_true, if_true]

end NumberToken

namespace Json

/-- **An integer of 64 bits, with a sign or without one, is a word.** -/
theorem isWord_int {number : Int} (hlow : Int64.minValue.toInt ≤ number)
    (hhigh : number ≤ (NumberToken.wordMax : Int)) : IsWord (.int number) := by
  refine ⟨?_, fun c hc => ?_⟩
  · -- No letter is in the written form, so it is none of the constants.
    have hletter : ∀ {c : Char} {rest : List Char}, isDigit c = false → c ≠ '-' →
        intChars number ≠ c :: rest := by
      intro c rest hdigit hminus heq
      rcases mem_intChars (heq ▸ List.mem_cons_self) with h | h
      · exact absurd (hdigit.symm.trans h) (by decide)
      · exact hminus h
    rw [chars, Token.ofWord?, if_neg (hletter (by decide) (by decide)),
      if_neg (hletter (by decide) (by decide)), if_neg (hletter (by decide) (by decide)),
      NumberToken.ofChars?_intChars, Option.map_some, NumberToken.value?_intChars hlow hhigh]
  · rcases mem_intChars hc with hdigit | rfl
    · exact Token.continuesWord_of_isDigit hdigit
    · decide

/-- Every word that is a token is a constant or number. -/
theorem Token.eq_scalar_of_ofWord? {word : List Char} {token : Token}
    (h : ofWord? word = some token) : ∃ value, token = .scalar value := by
  unfold ofWord? at h
  split at h
  case isTrue => exact ⟨_, (Option.some.inj h).symm⟩
  split at h
  case isTrue => exact ⟨_, (Option.some.inj h).symm⟩
  split at h
  case isTrue => exact ⟨_, (Option.some.inj h).symm⟩
  obtain ⟨number, -, heq⟩ := Option.map_eq_some_iff.1 h
  exact ⟨_, heq.symm⟩

/-- A document of one word is what the word stands for. -/
theorem ofWord?_of_ofText? {word : List Char} {document : Json} (hne : word ≠ [])
    (hword : ∀ c ∈ word, Token.continuesWord c = true)
    (h : ofText? (String.ofList word) = some document) :
    Token.ofWord? word = some (.scalar (some document)) := by
  have hcut := Token.ofChars?_word hne hword Token.noWordAhead_nil
  rw [List.append_nil] at hcut
  rw [ofText?, String.toList_ofList, hcut] at h
  cases htoken : Token.ofWord? word with
  | none =>
    rw [htoken] at h
    cases h
  | some token =>
    obtain ⟨value, rfl⟩ := Token.eq_scalar_of_ofWord? htoken
    rw [htoken, Option.bind_some, Token.ofChars?, Option.map_some, Option.bind_some, ofTokens?,
      readValue?.eq_def] at h
    cases value with
    | none => cases h
    | some value =>
      cases h
      rfl

/-- A finite double is written in the characters of a word. -/
theorem continuesWord_of_mem_chars_finite {negative : Bool} {magnitude : Fin Double.bound}
    {c : Char} (h : c ∈ chars (.float (.finite negative magnitude))) :
    Token.continuesWord c = true := by
  have hmarks : ∀ mark ∈ ['.', 'e', '-', '+'], Token.continuesWord mark = true :=
    List.all_eq_true.1 (by decide)
  have hmoderate : c ∈ (Double.shortest .even magnitude).moderate →
      Token.continuesWord c = true := by
    intro hc
    rcases Decimal.mem_moderate hc with hdigit | hmark
    · exact Token.continuesWord_of_isDigit hdigit
    · exact hmarks c hmark
  rw [chars, Double.jsonText?] at h
  dsimp only at h
  rw [String.toList_ofList] at h
  cases negative with
  | false => exact hmoderate h
  | true =>
    rcases List.mem_cons.1 h with rfl | hc
    · decide
    · exact hmoderate hc

/-- **A double that a reader of its text reads back is a word.** -/
theorem isWord_float {value : Double} (h : ofText? (text (.float value)) = some (.float value)) :
    IsWord (.float value) := by
  -- What is not finite is written as null, and read as null.
  have hnull : chars (.float value) ≠ chars .null := by
    intro hnull
    rw [text, hnull] at h
    cases isWord_null.ofWord?_chars.symm.trans
      (ofWord?_of_ofText? (by decide) isWord_null.continuesWord h)
  have hne : chars (.float value) ≠ [] := by
    intro hnil
    rw [text, hnil, ofText?, String.toList_ofList, Token.ofChars?, Option.bind_some, ofTokens?,
      readValue?.eq_def] at h
    cases h
  cases value with
  | nan => exact absurd rfl hnull
  | infinity negative => exact absurd rfl hnull
  | finite negative magnitude =>
    have hword : ∀ c ∈ chars (.float (.finite negative magnitude)),
        Token.continuesWord c = true := fun c hc => continuesWord_of_mem_chars_finite hc
    exact ⟨ofWord?_of_ofText? hne hword h, hword⟩

/-! ### Documents -/

mutual

/-- The tokens of a document. -/
def tokens : Json → List Token
  | .string value => [.string (some value)]
  | .array items => .openArray :: (itemsTokens items ++ [.closeArray])
  | .object members => .openObject :: (membersTokens members ++ [.closeObject])
  | word => [.scalar (some word)]

/-- The tokens of the items of an array. -/
def itemsTokens : List Json → List Token
  | [] => []
  | [item] => tokens item
  | item :: rest => tokens item ++ .comma :: itemsTokens rest

/-- The tokens of the members of an object. -/
def membersTokens : List (String × Json) → List Token
  | [] => []
  | [(name, value)] => .string (some name) :: .colon :: tokens value
  | (name, value) :: rest =>
    .string (some name) :: .colon :: tokens value ++ .comma :: membersTokens rest

end

/-- All constants and numbers of a document are words that are read as themselves. -/
inductive NumbersReadable : Json → Prop where
  | null : NumbersReadable .null
  | bool (value : Bool) : NumbersReadable (.bool value)
  | int (value : Int) (word : IsWord (.int value)) : NumbersReadable (.int value)
  | float (value : Double) (word : IsWord (.float value)) : NumbersReadable (.float value)
  | string (value : String) : NumbersReadable (.string value)
  | array (items : List Json) (readable : ∀ item ∈ items, item.NumbersReadable) :
      NumbersReadable (.array items)
  | object (members : List (String × Json))
      (readable : ∀ member ∈ members, member.2.NumbersReadable) :
      NumbersReadable (.object members)

/-- Some characters are cut into the given tokens, whatever follows them that does not continue a
    word. -/
def Cuts (chars : List Char) (tokens : List Token) : Prop :=
  ∀ rest, Token.NoWordAhead rest →
    Token.ofChars? (chars ++ rest) = (Token.ofChars? rest).map (tokens ++ ·)

/-- A word is cut into its token. -/
theorem cuts_word {word : List Char} {token : Token} (h : Token.ofWord? word = some token)
    (hword : ∀ c ∈ word, Token.continuesWord c = true) : Cuts word [token] := by
  intro rest hrest
  have hne : word ≠ [] := by
    rintro rfl
    cases h
  rw [Token.ofChars?_word hne hword hrest, h]
  rfl

/-- A document that is a word is cut into its token. -/
theorem IsWord.cuts {document : Json} (h : document.IsWord) :
    Cuts document.chars [.scalar (some document)] :=
  cuts_word h.ofWord?_chars h.continuesWord

/-- Characters that are cut, a punctuation character and further characters that are cut. -/
theorem Cuts.punctuated {before after : List Char} {tokens tokens' : List Token} {c : Char}
    {token : Token} (hbefore : Cuts before tokens) (hc : Token.punctuation? c = some token)
    (hafter : Cuts after tokens') : Cuts (before ++ c :: after) (tokens ++ token :: tokens') := by
  intro rest hrest
  have hstop : Token.NoWordAhead (c :: (after ++ rest)) := by
    rintro d ⟨⟩
    simp [Token.continuesWord, hc]
  rw [List.append_assoc, List.cons_append, hbefore _ hstop, Token.ofChars?_punctuation hc,
    hafter rest hrest]
  cases Token.ofChars? rest <;> simp

/-- A written string is cut into its token. -/
theorem cuts_stringChars (value : String) : Cuts (stringChars value) [.string (some value)] :=
  fun rest _ => Token.ofChars?_stringChars value rest

/-- Nothing is cut into no tokens. -/
theorem cuts_nil : Cuts [] [] := by
  intro rest _
  rw [List.nil_append]
  cases Token.ofChars? rest <;> rfl

/-- Characters that are cut, between brackets. -/
theorem Cuts.bracketed {chars : List Char} {tokens : List Token} {c d : Char}
    {token token' : Token} (hopen : Token.punctuation? c = some token) (h : Cuts chars tokens)
    (hclose : Token.punctuation? d = some token') :
    Cuts (c :: (chars ++ [d])) (token :: (tokens ++ [token'])) :=
  cuts_nil.punctuated hopen (h.punctuated hclose cuts_nil)

/-- Items that are cut one by one are cut together. -/
theorem cuts_itemsChars {items items' : List Json}
    (h : List.Forall₂ (fun item item' => Cuts item.chars item'.tokens) items items') :
    Cuts (itemsChars items) (itemsTokens items') := by
  induction h with
  | nil => exact cuts_nil
  | cons hitem hrest ih =>
    cases hrest with
    | nil => exact hitem
    | cons => exact hitem.punctuated rfl ih

/-- Members whose values are cut one by one are cut together. -/
theorem cuts_membersChars {members members' : List (String × Json)}
    (h : List.Forall₂ (fun member member' => member'.1 = member.1
      ∧ Cuts member.2.chars member'.2.tokens) members members') :
    Cuts (membersChars members) (membersTokens members') := by
  induction h with
  | nil => exact cuts_nil
  | @cons member member' rest rest' hmember hrest ih =>
    obtain ⟨name, value⟩ := member
    obtain ⟨name', value'⟩ := member'
    obtain ⟨rfl, hvalue⟩ := hmember
    have hfirst := (cuts_stringChars name').punctuated (c := ':') rfl hvalue
    cases hrest with
    | nil => exact hfirst
    | cons => exact hfirst.punctuated rfl ih

/-- A document whose numbers are readable is cut into its tokens. -/
theorem NumbersReadable.cuts {document : Json} (h : document.NumbersReadable) :
    Cuts document.chars document.tokens := by
  induction h with
  | null => exact isWord_null.cuts
  | bool value => exact (isWord_bool value).cuts
  | int value word => exact word.cuts
  | float value word => exact word.cuts
  | string value => exact cuts_stringChars value
  | array items _ ih => exact (cuts_itemsChars (List.forall₂_same.2 ih)).bracketed rfl rfl
  | object members _ ih =>
    refine Cuts.bracketed rfl (cuts_membersChars (List.forall₂_same.2 ?_)) rfl
    exact fun member hmember => ⟨rfl, ih member hmember⟩

/-- **Characters that are cut whatever follows them are cut into the same tokens if nothing does.** -/
theorem Cuts.ofChars? {chars : List Char} {tokens : List Token} (h : Cuts chars tokens) :
    Token.ofChars? chars = some tokens := by
  have hcut := h [] Token.noWordAhead_nil
  rwa [List.append_nil, Token.ofChars?, Option.map_some, List.append_nil] at hcut

end Json

end RecordFilter
