import Mathlib
import TensorBridge.Literal
import TensorBridge.Proofs.Number.Integer

/-!
# The form of literals

A layout cuts a text into the pieces of a literal: dimensions, the token of a type, values between
separators, and blanks where they may stand.  Nothing says how the pieces are found.

* `Literal.scan_eq_ok_iff`: `Literal.scan` splits just the texts that have a layout, and into its
  parts.
-/

namespace TensorBridge

namespace Literal

/-! ## Layouts -/

/-- A text with no separator in it. -/
structure IsItem (text : List Char) : Prop where
  /-- There is a character. -/
  ne_nil : text ≠ []
  /-- None of them separates. -/
  not_separator : ∀ c ∈ text, isSeparator c = false

/-- The items stand in the text one after the other, with separators between neighbours and nowhere
else. -/
inductive Separated : List (List Char) → List Char → Prop where
  /-- No items. -/
  | none : Separated [] []
  /-- The last item. -/
  | last {item : List Char} (h : IsItem item) : Separated [item] item
  /-- An item, separators, and further items. -/
  | more {item separators next : List Char} {items : List (List Char)} {text : List Char}
      (h : IsItem item) (ne_nil : separators ≠ []) (all : ∀ c ∈ separators, isSeparator c = true)
      (rest : Separated (next :: items) text) :
      Separated (item :: next :: items) (item ++ (separators ++ text))

/-- The text of a dimension. -/
structure IsDimension (text : List Char) : Prop extends IsDigits text where
  /-- Its number is not too large. -/
  le_limit : ofDigits text ≤ 2 ^ 63 - 1

/-- A way to cut a text into the pieces of a literal. -/
structure Layout where
  /-- Blanks in front. -/
  before : List Char
  /-- The digits of the dimensions. -/
  dimensions : List (List Char)
  /-- The type whose token follows. -/
  elementType : ElementType
  /-- Blanks behind the sign between type and values. -/
  inner : List Char
  /-- The values. -/
  values : List (List Char)
  /-- The values with the separators between them. -/
  body : List Char
  /-- Blanks at the end. -/
  after : List Char
  before_blank : ∀ c ∈ before, isPlainBlank c = true
  dimensions_isDimension : ∀ digits ∈ dimensions, IsDimension digits
  inner_blank : ∀ c ∈ inner, isPlainBlank c = true
  separated : Separated values body
  after_blank : ∀ c ∈ after, isPlainBlank c = true

/-- The dimensions with the letter behind each. -/
def dimensionText (dimensions : List (List Char)) : List Char :=
  dimensions.flatMap (· ++ ['x'])

namespace Layout

/-- The text that is cut. -/
def text (l : Layout) : List Char :=
  l.before ++ (dimensionText l.dimensions ++
    (l.elementType.token.toList ++ '=' :: (l.inner ++ (l.body ++ l.after))))

/-- The sizes of the dimensions. -/
def sizes (l : Layout) : List Nat := l.dimensions.map ofDigits

/-- The parts of the literal. -/
def parts (l : Layout) : Parts := ⟨l.sizes.map Int64.ofNat, l.elementType, l.values⟩

end Layout

/-! ## Runs of characters -/

section Runs

variable {p : Char → Bool} {run rest : List Char}

lemma takeWhile_append_run (hrun : ∀ c ∈ run, p c = true) (hrest : ∀ c ∈ rest.head?, p c = false) :
    (run ++ rest).takeWhile p = run := by
  induction run with
  | nil =>
    cases rest with
    | nil => rfl
    | cons c rest => simp [hrest c rfl]
  | cons c run ih =>
    obtain ⟨hc, hrun⟩ := List.forall_mem_cons.1 hrun
    simp [hc, ih hrun]

lemma dropWhile_append_run (hrun : ∀ c ∈ run, p c = true) (hrest : ∀ c ∈ rest.head?, p c = false) :
    (run ++ rest).dropWhile p = rest := by
  have happend := List.takeWhile_append_dropWhile (p := p) (l := run ++ rest)
  rw [takeWhile_append_run hrun hrest] at happend
  exact List.append_cancel_left happend

/-- A run is as long as it can be. -/
lemma head_dropWhile : ∀ c ∈ (rest.dropWhile p).head?, p c = false := by
  intro c hc
  have hnot := List.head?_dropWhile_not p rest
  rw [hc] at hnot
  exact hnot

end Runs

/-! ## Dimensions -/

lemma takeDimension?_eq_some_iff {text rest : List Char} {d : Int64} :
    takeDimension? text = some (d, rest) ↔ ∃ digits, IsDimension digits ∧
      text = digits ++ 'x' :: rest ∧ d = Int64.ofNat (ofDigits digits) := by
  constructor
  · intro h
    unfold takeDimension? at h
    dsimp only at h
    split at h
    · rename_i rest' hrest
      split_ifs at h with hdigits
      cases h
      refine ⟨text.takeWhile Char.isDigit, ⟨⟨hdigits.1, fun c hc => ?_⟩, hdigits.2⟩, ?_, rfl⟩
      · exact List.mem_takeWhile_imp hc
      · rw [← hrest, List.takeWhile_append_dropWhile]
    · cases h
  · rintro ⟨digits, hdigits, rfl, rfl⟩
    have hx : ∀ c ∈ ('x' :: rest).head?, c.isDigit = false := by simp
    unfold takeDimension?
    rw [takeWhile_append_run hdigits.isDigit hx, dropWhile_append_run hdigits.isDigit hx]
    exact if_pos ⟨hdigits.ne_nil, hdigits.le_limit⟩

lemma takeDimensions_of_none {text : List Char} (h : takeDimension? text = none) :
    takeDimensions text = ([], text) := by
  rw [takeDimensions]
  split
  · simp_all
  · rfl

lemma takeDimensions_of_some {text rest : List Char} {d : Int64}
    (h : takeDimension? text = some (d, rest)) :
    takeDimensions text = (d :: (takeDimensions rest).1, (takeDimensions rest).2) := by
  rw [takeDimensions]
  split
  · rename_i heq
    rw [h] at heq
    cases heq
    rfl
  · simp_all

/-- What is taken off the front are dimensions. -/
lemma takeDimensions_sound (text : List Char) :
    ∃ dimensions : List (List Char), (∀ digits ∈ dimensions, IsDimension digits) ∧
      text = dimensionText dimensions ++ (takeDimensions text).2 ∧
        (takeDimensions text).1 = dimensions.map fun digits => Int64.ofNat (ofDigits digits) := by
  fun_induction takeDimensions text with
  | case1 text d rest h hlt shape rest' htake ih =>
    obtain ⟨digits, hdigits, rfl, rfl⟩ := takeDimension?_eq_some_iff.1 h
    obtain ⟨dimensions, hdimensions, htext, hshape⟩ := ih
    rw [htake] at htext hshape
    dsimp only at htext hshape
    refine ⟨digits :: dimensions, List.forall_mem_cons.2 ⟨hdigits, hdimensions⟩, ?_, ?_⟩
    · rw [htext]
      simp [dimensionText]
    · rw [List.map_cons, hshape]
  | case2 text h => exact ⟨[], by simp, rfl, rfl⟩

/-- All dimensions are taken off the front. -/
lemma takeDimensions_append {dimensions : List (List Char)} {rest : List Char}
    (hdimensions : ∀ digits ∈ dimensions, IsDimension digits) (hrest : takeDimension? rest = none) :
    takeDimensions (dimensionText dimensions ++ rest) =
      (dimensions.map fun digits => Int64.ofNat (ofDigits digits), rest) := by
  induction dimensions with
  | nil => exact takeDimensions_of_none hrest
  | cons digits dimensions ih =>
    obtain ⟨hdigits, hdimensions⟩ := List.forall_mem_cons.1 hdimensions
    have htext : dimensionText (digits :: dimensions) ++ rest =
        digits ++ 'x' :: (dimensionText dimensions ++ rest) := by simp [dimensionText]
    rw [takeDimensions_of_some (takeDimension?_eq_some_iff.2 ⟨digits, hdigits, htext, rfl⟩),
      ih hdimensions, List.map_cons]

/-! ## Values -/

lemma IsItem.head_not_separator {item rest : List Char} (h : IsItem item) :
    ∀ c ∈ (item ++ rest).head?, isSeparator c = false := by
  obtain ⟨first, tail, rfl⟩ := List.exists_cons_of_ne_nil h.ne_nil
  intro c hc
  obtain rfl : first = c := Option.some.inj hc
  exact h.not_separator first List.mem_cons_self

lemma Separated.head_not_separator {items : List (List Char)} {text rest : List Char}
    (h : Separated items text) (hitems : items ≠ []) :
    ∀ c ∈ (text ++ rest).head?, isSeparator c = false := by
  cases h with
  | none => exact absurd rfl hitems
  | last h => exact h.head_not_separator
  | more h ne_nil all rest =>
    rw [List.append_assoc]
    exact h.head_not_separator

lemma Separated.ne_nil {items : List (List Char)} {text : List Char} (h : Separated items text)
    (hitems : items ≠ []) : text ≠ [] := by
  cases h with
  | none => exact absurd rfl hitems
  | last h => exact h.ne_nil
  | more h ne_nil all rest => exact List.append_ne_nil_of_left_ne_nil h.ne_nil _

/-- An item is split off the rest, which does not go on with it. -/
lemma IsItem.split {item rest : List Char} (h : IsItem item)
    (hrest : ∀ c ∈ rest.head?, isSeparator c = true) :
    (item ++ rest).takeWhile (!isSeparator ·) = item ∧
      (item ++ rest).dropWhile (!isSeparator ·) = rest := by
  have hitem : ∀ c ∈ item, (!isSeparator c) = true := fun c hc => by simp [h.not_separator c hc]
  have hstop : ∀ c ∈ rest.head?, (!isSeparator c) = false := fun c hc => by simp [hrest c hc]
  exact ⟨takeWhile_append_run hitem hstop, dropWhile_append_run hitem hstop⟩

lemma isItem_takeWhile {text : List Char} (h : text.takeWhile (!isSeparator ·) ≠ []) :
    IsItem (text.takeWhile (!isSeparator ·)) :=
  ⟨h, fun _ hc => by simpa using List.mem_takeWhile_imp hc⟩

/-- The first value that is taken is the first item. -/
lemma takeValues_ne_nil {text : List Char} (htext : text ≠ [])
    (hhead : ∀ c ∈ text.head?, isSeparator c = false) : (takeValues text).1 ≠ [] := by
  obtain ⟨c, rest, rfl⟩ := List.exists_cons_of_ne_nil htext
  rw [takeValues]
  simp only [List.takeWhile_cons, hhead c rfl, Bool.not_false, if_true, List.cons_ne_nil,
    dite_false]
  split_ifs <;> exact List.cons_ne_nil _ _

/-- What is taken off the front are items between separators. -/
lemma takeValues_sound (text : List Char) :
    ∃ body, Separated (takeValues text).1 body ∧ text = body ++ (takeValues text).2 := by
  fun_induction takeValues text with
  | case1 => exact ⟨[], .none, rfl⟩
  | case2 text value h behind next hlt hnext =>
    exact ⟨value, .last (isItem_takeWhile h), (List.takeWhile_append_dropWhile).symm⟩
  | case3 text value h behind next hlt hnext values rest htake ih =>
    obtain ⟨body, hbody, hnext'⟩ := ih
    rw [htake] at hbody hnext'
    have htext : text = value ++ (behind.takeWhile isSeparator ++ next) := by
      rw [List.takeWhile_append_dropWhile, List.takeWhile_append_dropWhile]
    have hhead : ∀ c ∈ next.head?, isSeparator c = false := head_dropWhile
    have hvalues : values ≠ [] := by
      have hne := takeValues_ne_nil hnext hhead
      rwa [htake] at hne
    obtain ⟨second, values', rfl⟩ := List.exists_cons_of_ne_nil hvalues
    have hseparators : behind.takeWhile isSeparator ≠ [] := by
      have hbehind : behind ≠ [] := fun heq => hnext (by simp [next, heq])
      obtain ⟨c, tail, hcons⟩ := List.exists_cons_of_ne_nil hbehind
      have hstop : ∀ c ∈ behind.head?, (!isSeparator c) = false := head_dropWhile
      have hc : isSeparator c = true := by simpa using hstop c (by rw [hcons]; rfl)
      simp [hcons, hc]
    refine ⟨_, .more (isItem_takeWhile h) hseparators (fun c hc => List.mem_takeWhile_imp hc) hbody,
      ?_⟩
    rw [List.append_assoc, List.append_assoc, ← hnext']
    exact htext

/-- All values are taken off the front. -/
lemma takeValues_append {items : List (List Char)} {body rest : List Char}
    (h : Separated items body) (hrest : ∀ c ∈ rest, isSeparator c = true) :
    takeValues (body ++ rest) = (items, rest) := by
  have hstop : ∀ c ∈ rest.head?, isSeparator c = true := fun c hc =>
    hrest c (List.mem_of_mem_head? hc)
  induction h with
  | none =>
    have hnone : rest.takeWhile (!isSeparator ·) = [] := by
      cases rest with
      | nil => rfl
      | cons c rest => simp [hrest c List.mem_cons_self]
    rw [takeValues]
    exact dif_pos hnone
  | @last item h =>
    obtain ⟨htake, hdrop⟩ := h.split hstop
    have hnext : rest.dropWhile isSeparator = [] := List.dropWhile_eq_nil_iff.2 hrest
    rw [takeValues]
    simp only [htake, hdrop, hnext, h.ne_nil, dite_false, if_true]
  | @more item separators second items text h ne_nil all hitems ih =>
    obtain ⟨first, tail, rfl⟩ := List.exists_cons_of_ne_nil ne_nil
    have hfirst : ∀ c ∈ ((first :: tail) ++ (text ++ rest)).head?, isSeparator c = true := by
      intro c hc
      obtain rfl : first = c := Option.some.inj hc
      exact all first List.mem_cons_self
    obtain ⟨htake, hdrop⟩ := h.split hfirst
    have hhead : ∀ c ∈ (text ++ rest).head?, isSeparator c = false :=
      hitems.head_not_separator (List.cons_ne_nil _ _)
    have hnext : ((first :: tail) ++ (text ++ rest)).dropWhile isSeparator = text ++ rest :=
      dropWhile_append_run all hhead
    have hne : text ++ rest ≠ [] :=
      List.append_ne_nil_of_left_ne_nil (hitems.ne_nil (List.cons_ne_nil _ _)) rest
    rw [List.append_assoc, List.append_assoc, takeValues]
    simp only [htake, hdrop, hnext, h.ne_nil, hne, dite_false, if_false, ih]

/-! ## Scanning -/

lemma takeDimension?_token (t : ElementType) (rest : List Char) :
    takeDimension? (t.token.toList ++ rest) = none := by
  cases t <;> rfl

lemma isAlphanum_token (t : ElementType) : ∀ c ∈ t.token.toList, c.isAlphanum = true := by
  cases t <;>
    simp [ElementType.token, Char.isAlphanum, Char.isAlpha, Char.isUpper, Char.isLower,
      Char.isDigit]

lemma token_ne_nil (t : ElementType) : t.token.toList ≠ [] := by
  cases t <;> decide

lemma ofToken?_eq_some_iff {token : String} {t : ElementType} :
    ElementType.ofToken? token = some t ↔ token = t.token := by
  constructor
  · intro h
    have hfound := List.find?_some h
    exact (beq_iff_eq.1 hfound).symm
  · rintro rfl
    exact ElementType.ofToken?_token t

lemma isSeparator_of_isPlainBlank {c : Char} (h : isPlainBlank c = true) :
    isSeparator c = true := by
  rw [isSeparator, isBlank_of_isPlainBlank h, Bool.true_or]

lemma isPlainBlank_of_isDigit {c : Char} (h : c.isDigit = true) : isPlainBlank c = false := by
  by_contra hblank
  simp only [isPlainBlank, Bool.not_eq_false, Bool.or_eq_true, beq_iff_eq] at hblank
  rcases hblank with ((rfl | rfl) | rfl) | rfl <;> exact absurd h (by decide)

/-- Dimensions and type do not begin with a blank. -/
lemma head_header_not_blank {dimensions : List (List Char)}
    (h : ∀ digits ∈ dimensions, IsDimension digits) (t : ElementType) (rest : List Char) :
    ∀ c ∈ (dimensionText dimensions ++ (t.token.toList ++ rest)).head?, isPlainBlank c = false := by
  rcases dimensions with _ | ⟨digits, dimensions⟩
  · intro c hc
    cases t <;> cases hc <;> rfl
  · obtain ⟨first, tail, rfl⟩ := List.exists_cons_of_ne_nil (h digits List.mem_cons_self).ne_nil
    intro c hc
    obtain rfl : first = c := Option.some.inj hc
    exact isPlainBlank_of_isDigit ((h _ List.mem_cons_self).isDigit first List.mem_cons_self)

/-- All values are found, and nothing but blanks behind them. -/
lemma takeValues_layout (l : Layout) :
    ∃ rest, takeValues ((l.inner ++ (l.body ++ l.after)).dropWhile isPlainBlank) =
      (l.values, rest) ∧ rest.dropWhile isPlainBlank = [] := by
  have hseparators : ∀ c ∈ l.after, isSeparator c = true := fun c hc =>
    isSeparator_of_isPlainBlank (l.after_blank c hc)
  by_cases hvalues : l.values = []
  -- Without values, all blanks are skipped at once.
  · have hseparated := l.separated
    rw [hvalues] at hseparated ⊢
    cases hbody : l.body with
    | cons c tail =>
      rw [hbody] at hseparated
      cases hseparated
    | nil =>
      have hnil : (l.inner ++ l.after).dropWhile isPlainBlank = [] :=
        List.dropWhile_eq_nil_iff.2 fun c hc =>
          (List.mem_append.1 hc).elim (l.inner_blank c) (l.after_blank c)
      rw [List.nil_append, hnil]
      exact ⟨[], takeValues_append .none (by simp), rfl⟩
  · have hhead : ∀ c ∈ (l.body ++ l.after).head?, isPlainBlank c = false := by
      intro c hc
      by_contra hblank
      have hnot := l.separated.head_not_separator hvalues c hc
      rw [isSeparator_of_isPlainBlank (by simpa using hblank)] at hnot
      cases hnot
    rw [dropWhile_append_run l.inner_blank hhead]
    exact ⟨l.after, takeValues_append l.separated hseparators,
      List.dropWhile_eq_nil_iff.2 l.after_blank⟩

/-- Every layout of a text is found. -/
lemma scan_layout (l : Layout) : scan l.text = .ok l.parts := by
  have hheader := dropWhile_append_run l.before_blank (head_header_not_blank
    l.dimensions_isDimension l.elementType ('=' :: (l.inner ++ (l.body ++ l.after))))
  have hdimensions := takeDimensions_append l.dimensions_isDimension
    (takeDimension?_token l.elementType ('=' :: (l.inner ++ (l.body ++ l.after))))
  have hstop : ∀ c ∈ ('=' :: (l.inner ++ (l.body ++ l.after))).head?, c.isAlphanum = false := by
    simp
  have htoken := takeWhile_append_run (isAlphanum_token l.elementType) hstop
  have hequals := dropWhile_append_run (isAlphanum_token l.elementType) hstop
  obtain ⟨rest, hvalues, hrest⟩ := takeValues_layout l
  rw [scan, Layout.text, hheader, hdimensions]
  simp only [htoken, hequals, token_ne_nil, if_false, String.ofList_toList,
    ElementType.ofToken?_token, hvalues, hrest]
  simp [Layout.parts, Layout.sizes]

/-- What is found is a layout. -/
lemma exists_layout {text : List Char} {parts : Parts} (h : scan text = .ok parts) :
    ∃ l : Layout, l.text = text ∧ l.parts = parts := by
  obtain ⟨dimensions, hdimensions, hheader, hshape⟩ :=
    takeDimensions_sound (text.dropWhile isPlainBlank)
  rcases htake : takeDimensions (text.dropWhile isPlainBlank) with ⟨shape, rest⟩
  rw [htake] at hheader hshape
  dsimp only at hheader hshape
  simp only [scan, htake] at h
  split_ifs at h with htoken
  split at h
  · cases h
  rename_i t ht
  split at h
  · rename_i behind hequals
    obtain ⟨body, hseparated, hbody⟩ := takeValues_sound (behind.dropWhile isPlainBlank)
    split at h
    · rename_i hafter
      cases h
      have htoken' : t.token.toList = rest.takeWhile Char.isAlphanum := by
        rw [← ofToken?_eq_some_iff.1 ht, String.toList_ofList]
      refine ⟨⟨text.takeWhile isPlainBlank, dimensions, t, behind.takeWhile isPlainBlank, _, body,
        _, fun c hc => List.mem_takeWhile_imp hc, hdimensions,
        fun c hc => List.mem_takeWhile_imp hc, hseparated,
        List.dropWhile_eq_nil_iff.1 hafter⟩, ?_, ?_⟩
      · dsimp only [Layout.text]
        rw [← hbody, List.takeWhile_append_dropWhile, ← hequals, htoken',
          List.takeWhile_append_dropWhile, ← hheader, List.takeWhile_append_dropWhile]
      · simp [Layout.parts, Layout.sizes, hshape]
    · cases h
  · cases h

/-- **The form of literals.** -/
theorem scan_eq_ok_iff {text : List Char} {parts : Parts} :
    scan text = .ok parts ↔ ∃ l : Layout, l.text = text ∧ l.parts = parts := by
  constructor
  · exact exists_layout
  · rintro ⟨l, rfl, rfl⟩
    exact scan_layout l

end Literal

end TensorBridge
