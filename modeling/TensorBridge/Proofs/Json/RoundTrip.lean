import Mathlib
import TensorBridge.Json.Reader
import TensorBridge.Proofs.Literal.Form

/-!
# Reading JSON undoes writing it

A value is written with blanks and line breaks between its parts, and a string with escapes.
Reading skips the ones and resolves the others, so the value comes back as it was, if its numbers
are integers of 64 bits.  (A double has a text that is read back only approximately.)

* `JsonNumber.read?_toString`: integers.
* `Json.takeString?_stringText`: strings.
* `Json.Exact`: the values without doubles.
* `Json.Exact.read?_pretty`: whole values.
-/

namespace TensorBridge

/-! ## Integers -/

namespace JsonNumber

/-- An integer that is kept as an integer. -/
structure Kept (n : Int) : Prop where
  /-- It is not too small. -/
  low : -(negativeLimit : Int) ≤ n
  /-- It is not too large. -/
  high : n ≤ integerLimit

/-- A number ends where the text begins. -/
structure EndsAt (rest : List Char) : Prop where
  /-- No further digit follows. -/
  not_digit : ∀ c ∈ rest.head?, c.isDigit = false
  /-- Neither does a point or the letter of an exponent. -/
  not_mark : ∀ c ∈ rest.head?, c ≠ '.' ∧ c ≠ 'e' ∧ c ≠ 'E'

lemma endsAt_nil : EndsAt [] := ⟨by simp, by simp⟩

/-- A blank or a sign of punctuation ends a number. -/
lemma endsAt_cons {c : Char} {rest : List Char} (hdigit : c.isDigit = false)
    (hmark : c ≠ '.' ∧ c ≠ 'e' ∧ c ≠ 'E') : EndsAt (c :: rest) :=
  ⟨fun _ h => Option.some.inj h ▸ hdigit, fun _ h => Option.some.inj h ▸ hmark⟩

/-- Only zero is written with a zero in front. -/
lemma head_digitsOf_ne_zero {n : Nat} (hn : 0 < n) : ∀ c ∈ (digitsOf n).head?, c ≠ '0' := by
  have hdigit : ∀ d < 10, 0 < d → Nat.digitChar d ≠ '0' := by decide
  induction n using Nat.strong_induction_on with
  | _ n ih =>
    intro c hc
    rcases Nat.lt_or_ge n 10 with hsmall | hlarge
    · rw [digitsOf, Nat.toDigits_of_lt_base hsmall] at hc
      exact Option.some.inj hc ▸ hdigit n hsmall hn
    · rw [digitsOf, Nat.toDigits_of_base_le (by decide) hlarge,
        List.head?_append_of_ne_nil _ Nat.toDigits_ne_nil] at hc
      exact ih (n / 10) (by omega) (by omega) c hc

lemma takeWhole_of_head_not_digit {rest : List Char} {significand : Nat}
    (hrest : ∀ c ∈ rest.head?, c.isDigit = false) :
    takeWhole significand 0 rest = (significand, 0, rest) := by
  rw [takeWhole.eq_def]
  cases rest with
  | nil => rfl
  | cons c rest => simp only [hrest c rfl, Bool.not_false, if_true]

lemma takeWhole_cons {c : Char} {rest : List Char} {significand next : Nat}
    (hdigit : c.isDigit = true) (hnext : appendDigit? significand c = some next) :
    takeWhole significand 0 (c :: rest) = takeWhole next 0 rest := by
  rw [takeWhole.eq_def]
  simp only [hdigit, hnext, Bool.not_true, Bool.false_eq_true, if_false]

/-- All digits of a number that fits are read. -/
lemma takeWhole_append {digits rest : List Char} {significand : Nat}
    (hdigits : ∀ c ∈ digits, c.isDigit = true) (hrest : ∀ c ∈ rest.head?, c.isDigit = false)
    (hle : Nat.ofDigitChars 10 digits significand ≤ integerLimit) :
    takeWhole significand 0 (digits ++ rest) =
      (Nat.ofDigitChars 10 digits significand, 0, rest) := by
  induction digits generalizing significand with
  | nil => exact takeWhole_of_head_not_digit hrest
  | cons c digits ih =>
    obtain ⟨hc, hdigits⟩ := List.forall_mem_cons.1 hdigits
    rw [Nat.ofDigitChars_cons] at hle ⊢
    -- Further digits do not make the number smaller.
    have hnext : 10 * significand + (c.toNat - '0'.toNat) ≤ integerLimit := by
      rw [Nat.ofDigitChars_eq_ofDigitChars_zero] at hle
      exact (Nat.le_mul_of_pos_left _ (Nat.pow_pos (by decide))).trans (le_of_add_le_left hle)
    rw [List.cons_append, takeWhole_cons hc (if_pos hnext)]
    exact ih hdigits hle

/-- Digits are read as the number, with the sign that stood in front. -/
lemma read?_digits (negative : Bool) {n : Nat} {rest : List Char} (hn : n ≤ integerLimit)
    (hrest : EndsAt rest) :
    read? ((if negative then ['-'] else []) ++ (digitsOf n ++ rest)) =
      (ofInteger? negative n).map (·, rest) := by
  have hdigits := isDigits_digitsOf n
  obtain ⟨c, tail, hcons⟩ := List.exists_cons_of_ne_nil hdigits.ne_nil
  have hc : c.isDigit = true := hdigits.isDigit c (by rw [hcons]; exact List.mem_cons_self)
  have hzero : (c = '0' && ((tail ++ rest).head?.map Char.isDigit).getD false) = false := by
    by_cases h : c = '0'
    · have hn : n = 0 := by
        by_contra hpos
        exact head_digitsOf_ne_zero (Nat.pos_of_ne_zero hpos) c (by rw [hcons]; rfl) h
      have htail : tail = [] := by
        have h0 : digitsOf 0 = ['0'] := rfl
        rw [hn, h0] at hcons
        exact (List.cons.inj hcons).2.symm
      cases rest with
      | nil => simp [htail]
      | cons d rest => simp [htail, hrest.not_digit d rfl]
    · simp [h]
  have hwhole : takeWhole 0 0 (digitsOf n ++ rest) = (n, 0, rest) := by
    have hle : Nat.ofDigitChars 10 (digitsOf n) 0 ≤ integerLimit := by
      rw [← ofDigits, ofDigits_digitsOf]
      exact hn
    have htake := takeWhole_append hdigits.isDigit hrest.not_digit hle
    rwa [← ofDigits, ofDigits_digitsOf] at htake
  have hminus : c ≠ '-' := by
    rintro rfl
    exact absurd hc (by decide)
  rw [hcons, List.cons_append] at hwhole
  rw [hcons, List.cons_append, read?.eq_def]
  generalize tail ++ rest = behind at hzero hwhole
  cases rest with
  | nil => cases negative <;> simp [hc, hzero, hwhole, hminus]
  | cons d rest =>
    obtain ⟨hpoint, he, hE⟩ := hrest.not_mark d rfl
    cases negative <;> simp [hc, hzero, hwhole, hminus, hpoint, he, hE]

/-- **Integers of 64 bits** are read back. -/
lemma read?_toString {n : Int} {rest : List Char} (hn : Kept n) (hrest : EndsAt rest) :
    read? ((toString n).toList ++ rest) = some (.integer n, rest) := by
  obtain ⟨hlow, hhigh⟩ := hn
  rcases le_or_gt 0 n with hsign | hsign
  · have hread := read?_digits false (n := n.toNat) (by omega) hrest
    rw [toList_toString_of_nonneg hsign]
    simpa [ofInteger?, hsign] using hread
  · have hlimit : negativeLimit ≤ integerLimit := by decide
    have hread := read?_digits true (n := (-n).toNat) (by omega) hrest
    have hpos : 0 < (-n).toNat ∧ (-n).toNat ≤ negativeLimit := by omega
    have htext : (toString n).toList = '-' :: digitsOf (-n).toNat := by
      rw [Int.toString_eq_repr, Int.repr_eq_if, if_neg (Int.not_le.2 hsign)]
      simp [Nat.repr_eq_ofList_toDigits, digitsOf]
    have hback : -((-n).toNat : Int) = n := by omega
    rw [htext, List.cons_append]
    simpa only [ofInteger?, hpos, hback, Bool.not_true, Bool.false_eq_true, if_true, if_false,
      and_self, Option.map_some, List.singleton_append] using hread

end JsonNumber

/-! ## Strings -/

namespace Json

/-- Reading hexadecimal digits leaves what stands behind them. -/
lemma takeHex?_append {count : Nat} {digits : List Char} (hlength : digits.length = count)
    (rest : List Char) :
    takeHex? count (digits ++ rest) = (takeHex? count digits).map fun found => (found.1, rest) := by
  simp only [takeHex?, List.take_left' hlength, List.drop_left' hlength,
    List.take_of_length_le hlength.le]
  rcases digits.mapM hexValue? with _ | values
  · rfl
  · simp only [Option.bind_eq_bind, Option.bind_some]
    split <;> rfl

/-- A character that is escaped by its code is read back. -/
lemma takeCodePoint?_fourHexDigits {c : Char} (hc : c.toNat < 0x20) (rest : List Char) :
    takeCodePoint? (fourHexDigits c.toNat ++ rest) = some (c, rest) := by
  have hdigits : ∀ n < 0x20, (fourHexDigits n).length = 4 ∧
      takeHex? 4 (fourHexDigits n) = some (n, []) := by decide
  obtain ⟨hlength, hhex⟩ := hdigits c.toNat hc
  have hlow : ¬(0xd800 ≤ c.toNat ∧ c.toNat < 0xdc00) := by omega
  have hhigh : ¬(0xdc00 ≤ c.toNat ∧ c.toNat < 0xe000) := by omega
  simp [takeCodePoint?, takeHex?_append hlength, hhex, hlow, hhigh]

/-- A character is read back, whether it is escaped or not. -/
lemma takeString?_escape (c : Char) (fuel : Nat) (rest : List Char) :
    takeString? (fuel + 1) (escape c ++ rest) =
      (takeString? fuel rest).map fun found => (c :: found.1, found.2) := by
  have hfound : ∀ found : Option (List Char × List Char),
      (found.bind fun found => some (c :: found.1, found.2)) =
        found.map fun found => (c :: found.1, found.2) := fun found => by cases found <;> rfl
  rw [← hfound]
  unfold escape
  split_ifs with h1 h2 h3 h4 h5 h6 h7 h8
  · subst h1; rfl
  · subst h2; rfl
  · subst h3; rfl
  · subst h4; rfl
  · subst h5; rfl
  · subst h6; rfl
  · subst h7; rfl
  · simp [takeString?, takeCodePoint?_fourHexDigits h8]
  · rw [List.singleton_append, takeString?.eq_def]
    simp [h2, h8]

lemma length_escape_pos (c : Char) : 0 < (escape c).length := by
  unfold escape
  split_ifs <;> simp

/-- **Strings** are read back. -/
lemma takeString?_flatMap_escape (s : List Char) {fuel : Nat} {rest : List Char}
    (hfuel : s.length < fuel) :
    takeString? fuel (s.flatMap escape ++ '"' :: rest) = some (s, rest) := by
  induction s generalizing fuel with
  | nil =>
    obtain ⟨fuel, rfl⟩ := Nat.exists_eq_add_one_of_ne_zero (Nat.ne_zero_of_lt hfuel)
    rfl
  | cons c s ih =>
    obtain ⟨fuel, rfl⟩ := Nat.exists_eq_add_one_of_ne_zero (Nat.ne_zero_of_lt hfuel)
    rw [List.flatMap_cons, List.append_assoc, takeString?_escape,
      ih (by rw [List.length_cons] at hfuel; omega)]
    rfl

lemma length_le_length_flatMap_escape (s : List Char) : s.length ≤ (s.flatMap escape).length := by
  induction s with
  | nil => exact Nat.zero_le _
  | cons c s ih =>
    have hpos := length_escape_pos c
    rw [List.length_cons, List.flatMap_cons, List.length_append]
    omega

lemma toList_stringText (s : String) :
    (stringText s).toList = '"' :: (s.toList.flatMap escape ++ ['"']) := by
  rw [stringText, String.toList_ofList, List.cons_append]

/-- **Strings** are read back up to the closing quote. -/
lemma takeString?_stringText (s : String) (rest : List Char) :
    takeString? ((s.toList.flatMap escape ++ '"' :: rest).length + 1)
      (s.toList.flatMap escape ++ '"' :: rest) = some (s.toList, rest) := by
  refine takeString?_flatMap_escape s.toList ?_
  have hle := length_le_length_flatMap_escape s.toList
  rw [List.length_append]
  omega

/-! ## Blanks -/

lemma isPlainBlank_newLine (level : Nat) : ∀ c ∈ (newLine level).toList, isPlainBlank c = true := by
  intro c hc
  rw [newLine, String.toList_ofList, List.mem_cons, List.mem_replicate] at hc
  rcases hc with rfl | ⟨-, rfl⟩ <;> rfl

lemma dropWhile_blanks {blanks : List Char} (hblanks : ∀ c ∈ blanks, isPlainBlank c = true)
    (text : List Char) :
    (blanks ++ text).dropWhile isPlainBlank = text.dropWhile isPlainBlank :=
  List.dropWhile_append_of_pos hblanks

lemma takeValue?_congr {text text' : List Char}
    (h : text.dropWhile isPlainBlank = text'.dropWhile isPlainBlank) (fuel : Nat) :
    takeValue? fuel text = takeValue? fuel text' := by
  cases fuel with
  | zero => rfl
  | succ fuel => rw [takeValue?.eq_def, takeValue?.eq_def]; simp only [h]

lemma takeElements?_congr {text text' : List Char}
    (h : text.dropWhile isPlainBlank = text'.dropWhile isPlainBlank) (fuel : Nat) :
    takeElements? fuel text = takeElements? fuel text' := by
  cases fuel with
  | zero => rfl
  | succ fuel => rw [takeElements?.eq_def, takeElements?.eq_def]; simp only [takeValue?_congr h]

lemma takeMembers?_congr {text text' : List Char}
    (h : text.dropWhile isPlainBlank = text'.dropWhile isPlainBlank) (fuel : Nat) :
    takeMembers? fuel text = takeMembers? fuel text' := by
  cases fuel with
  | zero => rfl
  | succ fuel => rw [takeMembers?.eq_def, takeMembers?.eq_def]; simp only [h]

/-! ## Texts of values -/

section Texts

variable {level : Nat}

lemma toList_null : (prettyAt level .null).toList = ['n', 'u', 'l', 'l'] := by
  rw [prettyAt]
  rfl

lemma toList_bool (b : Bool) : (prettyAt level (.bool b)).toList =
    if b then ['t', 'r', 'u', 'e'] else ['f', 'a', 'l', 's', 'e'] := by
  rw [prettyAt]
  cases b <;> rfl

lemma toList_integer (n : Int) :
    (prettyAt level (.number (.integer n))).toList = (toString n).toList := by
  rw [prettyAt, JsonNumber.text]

lemma toList_string (s : String) :
    (prettyAt level (.string s)).toList = '"' :: (s.toList.flatMap escape ++ ['"']) := by
  rw [prettyAt, toList_stringText]

lemma toList_array_nil : (prettyAt level (.array [])).toList = ['[', ']'] := by
  rw [prettyAt]
  rfl

lemma toList_object_nil : (prettyAt level (.object [])).toList = ['\x7b', '\x7d'] := by
  rw [prettyAt]
  rfl

lemma toList_array {vs : List Json} (hvs : vs ≠ []) : (prettyAt level (.array vs)).toList =
    '[' :: ((prettyElements (level + 1) vs).toList ++ ((newLine level).toList ++ [']'])) := by
  obtain ⟨v, rest, rfl⟩ := List.exists_cons_of_ne_nil hvs
  rw [prettyAt]
  · simp
  · simp

lemma toList_object {ms : List (String × Json)} (hms : ms ≠ []) :
    (prettyAt level (.object ms)).toList =
      '\x7b' :: ((prettyMembers (level + 1) ms).toList ++
        ((newLine level).toList ++ ['\x7d'])) := by
  obtain ⟨m, rest, rfl⟩ := List.exists_cons_of_ne_nil hms
  rw [prettyAt]
  · simp
  · simp

lemma toList_prettyElements (v : Json) {vs : List Json} :
    (prettyElements level (v :: vs)).toList = (newLine level).toList ++
      ((prettyAt level v).toList ++
      (if vs = [] then [] else ',' :: (prettyElements level vs).toList)) := by
  cases vs with
  | nil => simp [prettyElements]
  | cons w vs =>
    rw [prettyElements]
    · simp
    · simp

lemma toList_prettyMembers (name : String) (v : Json) {ms : List (String × Json)} :
    (prettyMembers level ((name, v) :: ms)).toList = (newLine level).toList ++
      '"' :: (name.toList.flatMap escape ++ '"' :: ':' :: ' ' :: ((prettyAt level v).toList ++
        (if ms = [] then [] else ',' :: (prettyMembers level ms).toList))) := by
  cases ms with
  | nil => simp [prettyMembers, toList_stringText]
  | cons m ms =>
    rw [prettyMembers]
    · simp [toList_stringText]
    · simp

end Texts

/-! ## Values -/

/-- The text of the value is read back, wherever it stands. -/
structure ReadBack (v : Json) : Prop where
  /-- It begins with what is no blank and closes no array. -/
  head : ∀ level, ∃ c tail, (prettyAt level v).toList = c :: tail ∧ isPlainBlank c = false ∧ c ≠ ']'
  /-- The value is found, and what stands behind it. -/
  takeValue? : ∀ (level fuel : Nat) (rest : List Char), (prettyAt level v).toList.length ≤ fuel →
    JsonNumber.EndsAt rest →
      Json.takeValue? fuel ((prettyAt level v).toList ++ rest) = some (v, rest)

/-- A value takes at least one step. -/
lemma exists_fuel {text tail : List Char} {fuel : Nat} {c : Char} (htext : text = c :: tail)
    (hfuel : text.length ≤ fuel) : ∃ n, fuel = n + 1 ∧ tail.length ≤ n := by
  rw [htext, List.length_cons] at hfuel
  exact ⟨fuel - 1, by omega, by omega⟩

lemma readBack_null : ReadBack .null where
  head _ := ⟨'n', _, toList_null, rfl, by decide⟩
  takeValue? level fuel rest hfuel _ := by
    obtain ⟨fuel, rfl, -⟩ := exists_fuel toList_null hfuel
    rw [toList_null]
    rfl

lemma readBack_bool (b : Bool) : ReadBack (.bool b) where
  head _ := by
    cases b
    · exact ⟨'f', _, toList_bool false, rfl, by decide⟩
    · exact ⟨'t', _, toList_bool true, rfl, by decide⟩
  takeValue? level fuel rest hfuel _ := by
    rw [toList_bool] at hfuel ⊢
    cases b
    all_goals
      obtain ⟨fuel, rfl, -⟩ := exists_fuel rfl hfuel
      rfl

lemma readBack_string (s : String) : ReadBack (.string s) where
  head _ := ⟨'"', _, toList_string s, rfl, by decide⟩
  takeValue? level fuel rest hfuel _ := by
    obtain ⟨fuel, rfl, -⟩ := exists_fuel (toList_string s) hfuel
    have hblank : isPlainBlank '"' = false := rfl
    rw [toList_string, List.cons_append, List.append_assoc, List.singleton_append,
      Json.takeValue?.eq_def]
    simp only [List.dropWhile_cons, hblank, Bool.false_eq_true, if_false, takeString?_stringText,
      Option.bind_eq_bind, Option.bind_some, String.ofList_toList, Option.pure_def]

/-- The text of an integer begins with a digit or a sign. -/
lemma exists_head_of_integerText {n : Int} {text : List Char} (htext : IntegerText text n) :
    ∃ c tail, text = c :: tail ∧ (c.isDigit = true ∨ c = '+' ∨ c = '-') := by
  cases htext with
  | unsigned hdigits =>
    obtain ⟨c, tail, rfl⟩ := List.exists_cons_of_ne_nil hdigits.ne_nil
    exact ⟨c, tail, rfl, .inl (hdigits.isDigit c List.mem_cons_self)⟩
  | plus hdigits => exact ⟨_, _, rfl, .inr (.inl rfl)⟩
  | minus hdigits => exact ⟨_, _, rfl, .inr (.inr rfl)⟩

lemma readBack_number {n : Int} (hn : JsonNumber.Kept n) : ReadBack (.number (.integer n)) := by
  obtain ⟨c, tail, hcons, hc⟩ := exists_head_of_integerText (IntegerText.toString n)
  have hforeign : ∀ d ∈ [' ', '\t', '\r', '\n', ']', '"', '[', '\x7b', 'n', 't', 'f'],
      ¬(d.isDigit = true ∨ d = '+' ∨ d = '-') := by simp [Char.isDigit]
  have hother : ∀ d ∈ [' ', '\t', '\r', '\n', ']', '"', '[', '\x7b', 'n', 't', 'f'], c ≠ d :=
    fun d hd heq => hforeign d hd (heq ▸ hc)
  simp only [List.forall_mem_cons] at hother
  obtain ⟨h1, h2, h3, h4, hclose, hquote, hbracket, hbrace, hn', ht, hf, -⟩ := hother
  have hblank : isPlainBlank c = false := by simp [isPlainBlank, h1, h2, h3, h4]
  have htext (level : Nat) : (prettyAt level (.number (.integer n))).toList = c :: tail :=
    (toList_integer n).trans hcons
  refine ⟨fun level => ⟨c, tail, htext level, hblank, hclose⟩,
    fun level fuel rest hfuel hrest => ?_⟩
  obtain ⟨fuel, rfl, -⟩ := exists_fuel (htext level) hfuel
  have hread := JsonNumber.read?_toString hn hrest
  rw [hcons, List.cons_append] at hread
  rw [htext, List.cons_append, Json.takeValue?.eq_def]
  simp [hblank, hquote, hbracket, hbrace, hn', ht, hf, hread]

/-- What stands behind a value inside another one ends a number. -/
lemma endsAt_newLine (level : Nat) (rest : List Char) :
    JsonNumber.EndsAt ((newLine level).toList ++ rest) := by
  rw [newLine, String.toList_ofList, List.cons_append]
  exact JsonNumber.endsAt_cons rfl (by decide)

lemma dropWhile_newLine (level : Nat) {c : Char} (hc : isPlainBlank c = false) (rest : List Char) :
    ((newLine level).toList ++ c :: rest).dropWhile isPlainBlank = c :: rest := by
  rw [dropWhile_blanks (isPlainBlank_newLine level), List.dropWhile_cons, hc, if_neg (by decide)]

/-- A value with blanks in front of it is read back. -/
lemma ReadBack.takeValue?_blanks {v : Json} (hv : ReadBack v) {blanks : List Char}
    (hblanks : ∀ c ∈ blanks, isPlainBlank c = true) {level fuel : Nat} {rest : List Char}
    (hfuel : (prettyAt level v).toList.length ≤ fuel) (hrest : JsonNumber.EndsAt rest) :
    Json.takeValue? fuel (blanks ++ ((prettyAt level v).toList ++ rest)) = some (v, rest) := by
  rw [takeValue?_congr (dropWhile_blanks hblanks _)]
  exact hv.takeValue? level fuel rest hfuel hrest

lemma length_newLine_pos (level : Nat) : 0 < (newLine level).toList.length := by
  rw [newLine, String.toList_ofList]
  exact Nat.succ_pos _

/-- Elements are read back up to the closing bracket. -/
lemma takeElements?_prettyElements {level closing fuel : Nat} {vs : List Json} {rest : List Char}
    (hvs : vs ≠ []) (h : ∀ v ∈ vs, ReadBack v)
    (hfuel : (prettyElements level vs).toList.length ≤ fuel) :
    takeElements? fuel ((prettyElements level vs).toList ++
      ((newLine closing).toList ++ ']' :: rest)) = some (vs, rest) := by
  induction vs generalizing fuel with
  | nil => exact absurd rfl hvs
  | cons v vs ih =>
    obtain ⟨hv, hrest⟩ := List.forall_mem_cons.1 h
    have hline := length_newLine_pos level
    rw [toList_prettyElements] at hfuel ⊢
    simp only [List.length_append] at hfuel
    obtain ⟨fuel, rfl⟩ : ∃ n, fuel = n + 1 := ⟨fuel - 1, by omega⟩
    have hvalue (behind : List Char) (hbehind : JsonNumber.EndsAt behind) :
        Json.takeValue? fuel ((newLine level).toList ++ ((prettyAt level v).toList ++ behind)) =
          some (v, behind) :=
      hv.takeValue?_blanks (isPlainBlank_newLine level) (by omega) hbehind
    rw [takeElements?.eq_def, List.append_assoc, List.append_assoc]
    cases vs with
    | nil =>
      simp only [if_true, List.nil_append, hvalue _ (endsAt_newLine closing _),
        dropWhile_newLine closing (c := ']') rfl, Option.bind_eq_bind, Option.bind_some,
        Option.pure_def]
    | cons w vs =>
      have hcomma : JsonNumber.EndsAt (',' :: ((prettyElements level (w :: vs)).toList ++
          ((newLine closing).toList ++ ']' :: rest))) := JsonNumber.endsAt_cons rfl (by decide)
      have hblank : isPlainBlank ',' = false := rfl
      simp only [List.cons_ne_nil, if_false, List.length_cons] at hfuel
      simp only [List.cons_ne_nil, if_false, List.cons_append, hvalue _ hcomma, hblank,
        List.dropWhile_cons, Bool.false_eq_true, Option.bind_eq_bind, Option.bind_some,
        Option.pure_def, @ih fuel (List.cons_ne_nil _ _) hrest (by omega)]

/-- Members are read back up to the closing brace. -/
lemma takeMembers?_prettyMembers {level closing fuel : Nat} {ms : List (String × Json)}
    {rest : List Char} (hms : ms ≠ []) (h : ∀ m ∈ ms, ReadBack m.2)
    (hfuel : (prettyMembers level ms).toList.length ≤ fuel) :
    takeMembers? fuel ((prettyMembers level ms).toList ++
      ((newLine closing).toList ++ '\x7d' :: rest)) = some (ms, rest) := by
  induction ms generalizing fuel with
  | nil => exact absurd rfl hms
  | cons m ms ih =>
    obtain ⟨name, v⟩ := m
    obtain ⟨(hv : ReadBack v), hrest⟩ := List.forall_mem_cons.1 h
    have hline := length_newLine_pos level
    rw [toList_prettyMembers] at hfuel ⊢
    simp only [List.length_append, List.length_cons] at hfuel
    obtain ⟨fuel, rfl⟩ : ∃ n, fuel = n + 1 := ⟨fuel - 1, by omega⟩
    have hspace : ∀ c ∈ [' '], isPlainBlank c = true := by simp [isPlainBlank]
    have hvalue (behind : List Char) (hbehind : JsonNumber.EndsAt behind) :
        Json.takeValue? fuel (' ' :: ((prettyAt level v).toList ++ behind)) = some (v, behind) :=
      hv.takeValue?_blanks hspace (by omega) hbehind
    have hcolon : isPlainBlank ':' = false := rfl
    rw [takeMembers?.eq_def]
    simp only [List.append_assoc, List.cons_append, dropWhile_newLine level (c := '"') rfl,
      takeString?_stringText, Option.bind_eq_bind, Option.bind_some, List.dropWhile_cons, hcolon,
      Bool.false_eq_true, if_false, String.ofList_toList, Option.pure_def]
    cases ms with
    | nil =>
      simp only [if_true, List.nil_append, hvalue _ (endsAt_newLine closing _),
        dropWhile_newLine closing (c := '\x7d') rfl, Option.bind_some]
    | cons m ms =>
      have hcomma : JsonNumber.EndsAt (',' :: ((prettyMembers level (m :: ms)).toList ++
          ((newLine closing).toList ++ '\x7d' :: rest))) := JsonNumber.endsAt_cons rfl (by decide)
      have hblank : isPlainBlank ',' = false := rfl
      simp only [List.cons_ne_nil, if_false, List.length_cons] at hfuel
      simp only [List.cons_ne_nil, if_false, List.cons_append, hvalue _ hcomma, hblank,
        List.dropWhile_cons, Bool.false_eq_true, Option.bind_some,
        @ih fuel (List.cons_ne_nil _ _) hrest (by omega)]

lemma readBack_array {vs : List Json} (h : ∀ v ∈ vs, ReadBack v) : ReadBack (.array vs) := by
  by_cases hvs : vs = []
  · subst hvs
    refine ⟨fun _ => ⟨'[', _, toList_array_nil, rfl, by decide⟩, fun level fuel rest hfuel _ => ?_⟩
    obtain ⟨fuel, rfl, -⟩ := exists_fuel toList_array_nil hfuel
    rw [toList_array_nil]
    rfl
  refine ⟨fun _ => ⟨'[', _, toList_array hvs, rfl, by decide⟩, fun level fuel rest hfuel _ => ?_⟩
  obtain ⟨fuel, rfl, hlength⟩ := exists_fuel (toList_array hvs) hfuel
  rw [List.length_append] at hlength
  have helements : takeElements? fuel ((prettyElements (level + 1) vs).toList ++
      ((newLine level).toList ++ ']' :: rest)) = some (vs, rest) :=
    takeElements?_prettyElements hvs h (Nat.le_of_add_right_le hlength)
  rw [toList_array hvs]
  simp only [List.cons_append, List.append_assoc, List.nil_append]
  generalize htext : (prettyElements (level + 1) vs).toList ++
    ((newLine level).toList ++ ']' :: rest) = text at helements
  -- The first element does not close the array.
  obtain ⟨c, behind, hdrop, hblank, hclose⟩ : ∃ c behind,
      text.dropWhile isPlainBlank = c :: behind ∧ isPlainBlank c = false ∧ c ≠ ']' := by
    obtain ⟨v, vs, rfl⟩ := List.exists_cons_of_ne_nil hvs
    obtain ⟨c, tail, hcons, hblank, hclose⟩ := (h v List.mem_cons_self).head (level + 1)
    rw [← htext, toList_prettyElements, hcons, List.cons_append, List.append_assoc,
      List.cons_append, dropWhile_newLine _ hblank]
    exact ⟨c, _, rfl, hblank, hclose⟩
  rw [@takeElements?_congr text (c :: behind) (by simp [hdrop, hblank])] at helements
  have hopen : isPlainBlank '[' = false := rfl
  rw [Json.takeValue?.eq_def]
  simp [hopen, hdrop, hclose, helements]

lemma readBack_object {ms : List (String × Json)} (h : ∀ m ∈ ms, ReadBack m.2) :
    ReadBack (.object ms) := by
  by_cases hms : ms = []
  · subst hms
    refine ⟨fun _ => ⟨'\x7b', _, toList_object_nil, rfl, by decide⟩,
      fun level fuel rest hfuel _ => ?_⟩
    obtain ⟨fuel, rfl, -⟩ := exists_fuel toList_object_nil hfuel
    rw [toList_object_nil]
    rfl
  refine ⟨fun _ => ⟨'\x7b', _, toList_object hms, rfl, by decide⟩,
    fun level fuel rest hfuel _ => ?_⟩
  obtain ⟨fuel, rfl, hlength⟩ := exists_fuel (toList_object hms) hfuel
  rw [List.length_append] at hlength
  have hmembers : takeMembers? fuel ((prettyMembers (level + 1) ms).toList ++
      ((newLine level).toList ++ '\x7d' :: rest)) = some (ms, rest) :=
    takeMembers?_prettyMembers hms h (Nat.le_of_add_right_le hlength)
  rw [toList_object hms]
  simp only [List.cons_append, List.append_assoc, List.nil_append]
  generalize htext : (prettyMembers (level + 1) ms).toList ++
    ((newLine level).toList ++ '\x7d' :: rest) = text at hmembers
  obtain ⟨behind, hdrop⟩ : ∃ behind, text.dropWhile isPlainBlank = '"' :: behind := by
    obtain ⟨⟨name, v⟩, ms, rfl⟩ := List.exists_cons_of_ne_nil hms
    rw [← htext, toList_prettyMembers, List.append_assoc, List.cons_append, dropWhile_newLine _ rfl]
    exact ⟨_, rfl⟩
  have hquote : isPlainBlank '"' = false := rfl
  rw [@takeMembers?_congr text ('"' :: behind) (by simp [hdrop, hquote])] at hmembers
  have hopen : isPlainBlank '\x7b' = false := rfl
  rw [Json.takeValue?.eq_def]
  simp [hopen, hdrop, hmembers]

/-! ## Whole values -/

/-- The value has no number in it but integers of 64 bits. -/
inductive Exact : Json → Prop where
  /-- The null value. -/
  | null : Exact .null
  /-- A truth value. -/
  | bool (b : Bool) : Exact (.bool b)
  /-- An integer. -/
  | integer {n : Int} (h : JsonNumber.Kept n) : Exact (.number (.integer n))
  /-- A string. -/
  | string (s : String) : Exact (.string s)
  /-- An array of such values. -/
  | array {vs : List Json} (h : ∀ v ∈ vs, Exact v) : Exact (.array vs)
  /-- An object with such values. -/
  | object {ms : List (String × Json)} (h : ∀ m ∈ ms, Exact m.2) : Exact (.object ms)

/-- Wherever the value stands, its text is read back. -/
lemma Exact.readBack {v : Json} (h : Exact v) : ReadBack v := by
  induction h with
  | null => exact readBack_null
  | bool b => exact readBack_bool b
  | integer h => exact readBack_number h
  | string s => exact readBack_string s
  | array h ih => exact readBack_array ih
  | object h ih => exact readBack_object ih

/-- **Reading undoes writing**, for every value without doubles, however deep it is nested. -/
theorem Exact.read?_pretty {v : Json} (h : Exact v) : read? v.pretty.toList = some v := by
  have hlength : (prettyAt 0 v).toList.length ≤ 2 * v.pretty.toList.length + 2 := by
    rw [pretty]
    omega
  have hread : takeValue? (2 * v.pretty.toList.length + 2) (v.pretty.toList ++ []) = some (v, []) :=
    h.readBack.takeValue? 0 _ [] hlength JsonNumber.endsAt_nil
  rw [List.append_nil] at hread
  rw [read?, hread]
  rfl

end Json

end TensorBridge
