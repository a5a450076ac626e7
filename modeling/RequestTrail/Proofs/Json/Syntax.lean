import RequestTrail.Proofs.Json.Closed
import RequestTrail.Proofs.Json.Spelled
import RequestTrail.Proofs.Text.Blank

/-! Every JSON text, whether or not it can be read: its numbers may be too large, its escapes need not
make a text, and its containers may be nested to any depth. All of them are closed. -/
namespace RequestTrail.Json

open Text

/-- The text can stand between quotation marks. -/
inductive IsWritten : List Char → Prop where
  | nil : IsWritten []
  | plain {c : Char} {more : List Char} : c ≠ '"' → c ≠ '\\' → 0x20 ≤ c.toNat → IsWritten more →
      IsWritten (c :: more)
  | escape {mark c : Char} {more : List Char} : (mark, c) ∈ escapes → IsWritten more →
      IsWritten ('\\' :: mark :: more)
  | unit {digits more : List Char} {n : Nat} : IsUnit digits n → IsWritten more →
      IsWritten ('\\' :: 'u' :: (digits ++ more))

/-- A member by what is written for its key and for its value. -/
def IsEntry (value : List Char → Prop) (m : List Char × List Char) (text : List Char) : Prop :=
  ∃ left right padded, IsGap left ∧ IsGap right ∧ IsWritten m.1 ∧ value m.2 ∧ Padded m.2 padded ∧
    text = left ++ (quote m.1 ++ (right ++ ':' :: padded))

inductive IsAtom : List Char → Prop where
  | null : IsAtom "null".toList
  | true : IsAtom "true".toList
  | false : IsAtom "false".toList
  | string {written : List Char} : IsWritten written → IsAtom (quote written)
  | number {s : List Char} : IsNumber s → IsAtom s

def IsForm : (depth : Nat) → List Char → Prop
  | 0, text => IsAtom text
  | depth + 1, text => IsAtom text ∨
    (∃ parts, Encloses '[' ']' (fun part padded => IsForm depth part ∧ Padded part padded) parts text) ∨
    ∃ members, Encloses '{' '}' (IsEntry (IsForm depth)) members text

/-- The text of one JSON value, without blanks around it. -/
def IsJson (text : List Char) : Prop := ∃ depth, IsForm depth text

variable {α β : Type} {written s gap core text : List Char} {depth : Nat}

/-! ### Texts that can be read -/

theorem Spells.isWritten (spelled : Spells written s) : IsWritten written := by
  induction spelled with
  | nil => exact .nil
  | plain mark slash printed _ ih => exact .plain mark slash printed ih
  | escape form _ ih => exact .escape form ih
  | unit digits _ ih => exact .unit digits ih
  | pair _ high low _ ih => exact .unit high (.unit low ih)

theorem IsScalar.isAtom (form : IsScalar text) : IsAtom text := by
  cases form with
  | null => exact .null
  | true => exact .true
  | false => exact .false
  | string spelled => exact .string spelled.isWritten
  | number form _ => exact .number form

theorem IsMember.isEntry {value value' : List Char → Prop} {m : String × List Char}
    (each : ∀ core, value core → value' core) (form : IsMember value m text) :
    ∃ entry, IsEntry value' entry text := by
  obtain ⟨left, right, written, padded, gapLeft, gapRight, spelled, valued, padding, rfl⟩ := form
  exact ⟨(written, m.2), left, right, padded, gapLeft, gapRight, spelled.isWritten, each _ valued, padding, rfl⟩

/-- Parts of one kind that are parts of another kind. -/
theorem Encloses.imp {opening closing : Char} {part : α → List Char → Prop} {part' : β → List Char → Prop}
    (each : ∀ x padded, part x padded → ∃ y, part' y padded) {xs : List α}
    (form : Encloses opening closing part xs text) : ∃ ys, Encloses opening closing part' ys text := by
  obtain ⟨inner, rfl, ⟨_, gap⟩ | form⟩ := form
  · exact ⟨[], inner, rfl, .inl ⟨rfl, gap⟩⟩
  · have separated : ∃ ys, Separated part' ys inner := by
      induction form with
      | last form =>
        obtain ⟨y, form⟩ := each _ _ form
        exact ⟨[y], .last form⟩
      | next form _ ih =>
        obtain ⟨y, form⟩ := each _ _ form
        obtain ⟨ys, more⟩ := ih
        exact ⟨y :: ys, .next form more⟩
    obtain ⟨ys, separated⟩ := separated
    exact ⟨ys, inner, rfl, .inr separated⟩

theorem IsValue.isForm (form : IsValue depth text) : IsForm depth text := by
  induction depth generalizing text with
  | zero => exact IsScalar.isAtom form
  | succ depth ih =>
    rcases form with scalar | ⟨parts, form⟩ | ⟨members, form⟩
    · exact .inl scalar.isAtom
    · exact .inr (.inl (form.imp fun core _ part => ⟨core, ih part.1, part.2⟩))
    · exact .inr (.inr (form.imp fun _ _ member => member.isEntry fun _ value => ih value))

/-! ### Marks -/

/-- The characters that open or close a string or a container. -/
def marks : List Char := ['"', '[', ']', '{', '}']

/-- Without marks nothing opens or closes. -/
theorem isClosed_of_unmarked (unmarked : ∀ c ∈ s, c ∉ marks) : IsClosed (utf8 s) := by
  apply isClosed_of_plain
  intro x m
  obtain ⟨c, inside, m⟩ := List.mem_flatMap.mp m
  have other := unmarked c inside
  have ascii : ∀ mark ∈ marks, x.toNat ≠ mark.toNat := by
    intro mark member same
    rcases Utf8.toNat_of_mem_utf8EncodeChar m with self | above
    · exact other (Char.toNat_inj.mp (self.symm.trans same) ▸ member)
    · have small : ∀ mark ∈ marks, mark.toNat < 0x80 := by decide
      have := small mark member
      omega
  have known : ∀ n : Fin 256, (∀ mark ∈ marks, n.val ≠ mark.toNat) → isPlain (UInt8.ofNat n) = true := by
    decide +kernel
  simpa using known ⟨x.toNat, x.toNat_lt⟩ ascii

theorem not_mem_marks_of_isBlank {c : Char} (blank : isBlank c = true) : c ∉ marks := by
  intro m
  have visible : ∀ mark ∈ marks, isBlank mark = false := by decide
  rw [visible c m] at blank
  cases blank

theorem isClosed_of_blank (blank : ∀ c ∈ s, isBlank c = true) : IsClosed (utf8 s) :=
  isClosed_of_unmarked fun c m => not_mem_marks_of_isBlank (blank c m)

theorem IsGap.blank (form : IsGap gap) : ∀ c ∈ gap, isBlank c = true := by
  intro c m
  rcases form c m with rfl | rfl | rfl | rfl
  all_goals rfl

theorem IsGap.isClosed (form : IsGap gap) : IsClosed (utf8 gap) := isClosed_of_blank form.blank

/-- The characters of numbers. -/
def isNumeric (c : Char) : Bool := Text.isDigit c || "+-.eE".toList.contains c

theorem IsDigits.numeric (form : IsDigits s) : ∀ c ∈ s, isNumeric c = true := by
  intro c m
  simp [isNumeric, form.digits c m]

theorem IsNumber.numeric (form : IsNumber s) : s ≠ [] ∧ ∀ c ∈ s, isNumeric c = true := by
  obtain ⟨sign, whole, fraction, exponent, signed, isWhole, isFraction, isExponent, rfl⟩ := form
  have signs : ∀ c ∈ sign, isNumeric c = true := by
    rcases signed with rfl | rfl <;> decide
  have fractions : ∀ c ∈ fraction, isNumeric c = true := by
    rcases isFraction with rfl | ⟨digits, form, rfl⟩
    · decide
    · exact List.forall_mem_cons.mpr ⟨by decide, form.numeric⟩
  have exponents : ∀ c ∈ exponent, isNumeric c = true := by
    rcases isExponent with rfl | ⟨mark, sign, digits, marked, signed, form, rfl⟩
    · decide
    · refine List.forall_mem_cons.mpr ⟨by rcases marked with rfl | rfl <;> decide, ?_⟩
      refine List.forall_mem_append.mpr ⟨?_, form.numeric⟩
      rcases signed with rfl | rfl | rfl <;> decide
  refine ⟨by simp [isWhole.digits.nonempty], ?_⟩
  exact List.forall_mem_append.mpr ⟨signs, List.forall_mem_append.mpr
    ⟨isWhole.digits.numeric, List.forall_mem_append.mpr ⟨fractions, exponents⟩⟩⟩

theorem isNumeric_char {c : Char} (numeric : isNumeric c = true) :
    c ∉ marks ∧ isBlank c = false ∧ 0x20 ≤ c.toNat := by
  have ascii : c.toNat < 0x80 := by
    simp only [isNumeric, Text.isDigit, Bool.or_eq_true, Bool.and_eq_true, decide_eq_true_eq,
      List.contains_iff_mem] at numeric
    rcases numeric with digit | sign
    · exact Utf8.ascii_of_le digit.2 (by decide)
    · have signs : ∀ c ∈ "+-.eE".toList, c.toNat < 0x80 := by decide
      exact signs c sign
  have known : ∀ n : Fin 0x80, isNumeric (Char.ofNat n) = true → Char.ofNat n ∉ marks ∧
      isBlank (Char.ofNat n) = false ∧ 0x20 ≤ (Char.ofNat n).toNat := by decide +kernel
  have form := known ⟨c.toNat, ascii⟩
  rw [Char.ofNat_toNat] at form
  exact form numeric

/-! ### Strings and other texts with no parts -/

theorem isHeld_char {c : Char} (mark : c ≠ '"') (slash : c ≠ '\\') (printed : 0x20 ≤ c.toNat) :
    IsHeld (String.utf8EncodeChar c) := by
  apply Spot.scan_of_fixed
  intro x m
  have bound : 0x20 ≤ x.toNat ∧ x.toNat ≠ '"'.toNat ∧ x.toNat ≠ '\\'.toNat := by
    have small : '"'.toNat < 0x80 ∧ '\\'.toNat < 0x80 := by decide
    rcases Utf8.toNat_of_mem_utf8EncodeChar m with self | above
    · rw [self]
      exact ⟨printed, fun same => mark (Char.toNat_inj.mp same), fun same => slash (Char.toNat_inj.mp same)⟩
    · omega
  have known : ∀ n : Fin 256, (0x20 ≤ n.val ∧ n.val ≠ '"'.toNat ∧ n.val ≠ '\\'.toNat) →
      ¬UInt8.ofNat n < 0x20 ∧ UInt8.ofNat n ≠ 0x22 ∧ UInt8.ofNat n ≠ 0x5C := by decide +kernel
  have ordinary := known ⟨x.toNat, x.toNat_lt⟩ bound
  rw [UInt8.ofNat_toNat] at ordinary
  simp [Spot.step, ordinary.1, ordinary.2.1, ordinary.2.2]

theorem IsWritten.isHeld (form : IsWritten written) : IsHeld (utf8 written) := by
  induction form with
  | nil => exact .nil
  | plain mark slash printed _ ih =>
    rw [utf8_cons]
    exact (isHeld_char mark slash printed).append ih
  | @escape mark c more form _ ih =>
    have known : ∀ p ∈ escapes, String.utf8EncodeChar p.1 = [byte p.1] ∧ ¬byte p.1 < 0x20 := by decide
    obtain ⟨single, printed⟩ := known (mark, c) form
    have slash : String.utf8EncodeChar '\\' = [0x5C] := rfl
    rw [utf8_cons, utf8_cons, single, slash]
    exact ih.escape printed
  | unit digits _ ih =>
    obtain ⟨x, y, z, w, bytes, value⟩ := digits.bytes
    rw [utf8_cons, utf8_cons, utf8_append, bytes]
    exact ih.unit value

theorem printed_of_hexValue? {c : Char} {v : Nat} (value : hexValue? c = some v) : 0x20 ≤ c.toNat := by
  have known : ∀ n : Fin 0x80, (hexValue? (Char.ofNat n)).isSome = true → 0x20 ≤ n.val := by decide +kernel
  apply known ⟨c.toNat, ascii_of_hexValue? value⟩
  simp [value]

theorem IsUnit.printed {digits : List Char} {n : Nat} (unit : IsUnit digits n) :
    ∀ c ∈ digits, 0x20 ≤ c.toNat := by
  have value := unit.value
  unfold ofDigits at value
  -- Every digit has been read, whatever number stands before it.
  generalize 0 = start at value
  clear unit
  induction digits generalizing start with
  | nil => exact fun _ m => absurd m List.not_mem_nil
  | cons d digits ih =>
    obtain ⟨next, read, rest⟩ := Option.bind_eq_some_iff.mp value
    obtain ⟨v, value, _⟩ := Option.bind_eq_some_iff.mp read
    exact List.forall_mem_cons.mpr ⟨printed_of_hexValue? value, ih next rest⟩

/-- No line break stands inside a string. -/
theorem IsWritten.printed (form : IsWritten written) : ∀ c ∈ written, 0x20 ≤ c.toNat := by
  induction form with
  | nil => exact fun _ m => absurd m List.not_mem_nil
  | plain _ _ printed _ ih => exact List.forall_mem_cons.mpr ⟨printed, ih⟩
  | @escape mark c more form _ ih =>
    have known : ∀ p ∈ escapes, 0x20 ≤ p.1.toNat := by decide
    exact List.forall_mem_cons.mpr ⟨by decide, List.forall_mem_cons.mpr ⟨known (mark, c) form, ih⟩⟩
  | @unit digits more n unit _ ih =>
    exact List.forall_mem_cons.mpr ⟨by decide, List.forall_mem_cons.mpr ⟨by decide,
      List.forall_mem_append.mpr ⟨unit.printed, ih⟩⟩⟩

theorem isClosed_quote (form : IsWritten written) : IsClosed (utf8 (quote written)) := by
  have bytes : utf8 (quote written) = 0x22 :: (utf8 written ++ [0x22]) := by
    rw [quote, utf8_cons, utf8_append]
    rfl
  rw [bytes]
  exact form.isHeld.isClosed

theorem IsAtom.isClosed (form : IsAtom text) : IsClosed (utf8 text) := by
  cases form with
  | null => exact isClosed_of_unmarked (by decide)
  | true => exact isClosed_of_unmarked (by decide)
  | false => exact isClosed_of_unmarked (by decide)
  | string form => exact isClosed_quote form
  | number form => exact isClosed_of_unmarked fun c m => (isNumeric_char (form.numeric.2 c m)).1

/-- No line break stands in a text with no parts. -/
theorem IsAtom.printed (form : IsAtom text) : ∀ c ∈ text, 0x20 ≤ c.toNat := by
  cases form with
  | null => decide
  | true => decide
  | false => decide
  | string form =>
    exact List.forall_mem_cons.mpr ⟨by decide, List.forall_mem_append.mpr ⟨form.printed, by decide⟩⟩
  | number form => exact fun c m => (isNumeric_char (form.numeric.2 c m)).2.2

theorem IsAtom.isTrimmed (form : IsAtom text) : IsTrimmed text := by
  cases form with
  | null => exact isTrimmed_of_visible (by decide) (by decide)
  | true => exact isTrimmed_of_visible (by decide) (by decide)
  | false => exact isTrimmed_of_visible (by decide) (by decide)
  | @string written _ => exact isTrimmed_of_marks written (by decide) (by decide)
  | number form =>
    exact isTrimmed_of_visible form.numeric.1 fun c m => (isNumeric_char (form.numeric.2 c m)).2.1

/-! ### Containers -/

theorem Separated.isClosed {part : α → List Char → Prop} {xs : List α}
    (each : ∀ x padded, part x padded → IsClosed (utf8 padded)) (form : Separated part xs text) :
    IsClosed (utf8 text) := by
  induction form with
  | last form => exact each _ _ form
  | @next _ padded more _ form _ ih =>
    have comma : IsClosed (utf8 [',']) := isClosed_of_unmarked (by decide)
    rw [utf8_append, ← List.singleton_append, utf8_append]
    exact (each _ _ form).append (comma.append ih)

theorem Encloses.isEnclosed {opening closing : Char} {part : α → List Char → Prop} {xs : List α}
    (brackets : opening = '[' ∧ closing = ']' ∨ opening = '{' ∧ closing = '}')
    (each : ∀ x padded, part x padded → IsClosed (utf8 padded))
    (form : Encloses opening closing part xs text) : IsEnclosed (utf8 text) ∧ IsTrimmed text := by
  obtain ⟨inner, rfl, form⟩ := form
  have closed : IsClosed (utf8 inner) := by
    rcases form with ⟨_, gap⟩ | form
    · exact gap.isClosed
    · exact form.isClosed each
  rcases brackets with ⟨rfl, rfl⟩ | ⟨rfl, rfl⟩
  · refine ⟨⟨0x5B, utf8 inner, 0x5D, rfl, closed, rfl, ?_⟩, isTrimmed_of_marks inner (by decide) (by decide)⟩
    rw [utf8_cons, utf8_append]
    rfl
  · refine ⟨⟨0x7B, utf8 inner, 0x7D, rfl, closed, rfl, ?_⟩, isTrimmed_of_marks inner (by decide) (by decide)⟩
    rw [utf8_cons, utf8_append]
    rfl

theorem Padded.isClosed {padded : List Char} (padding : Padded core padded) (closed : IsClosed (utf8 core)) :
    IsClosed (utf8 padded) := by
  obtain ⟨left, right, gapLeft, gapRight, rfl⟩ := padding
  rw [utf8_append, utf8_append]
  exact gapLeft.isClosed.append (closed.append gapRight.isClosed)

theorem IsEntry.isClosed {value : List Char → Prop} {m : List Char × List Char}
    (each : ∀ core, value core → IsClosed (utf8 core)) (form : IsEntry value m text) :
    IsClosed (utf8 text) := by
  obtain ⟨left, right, padded, gapLeft, gapRight, key, valued, padding, rfl⟩ := form
  have colon : IsClosed (utf8 [':']) := isClosed_of_unmarked (by decide)
  rw [utf8_append, utf8_append, utf8_append, ← List.singleton_append, utf8_append]
  exact gapLeft.isClosed.append ((isClosed_quote key).append
    (gapRight.isClosed.append (colon.append (padding.isClosed (each _ valued)))))

/-- A text has no line break in it or is a container. -/
theorem IsForm.cases (form : IsForm depth text) :
    IsAtom text ∨ IsEnclosed (utf8 text) ∧ IsTrimmed text := by
  induction depth generalizing text with
  | zero => exact .inl form
  | succ depth ih =>
    have each : ∀ core, IsForm depth core → IsClosed (utf8 core) := by
      intro core form
      rcases ih form with atom | ⟨enclosed, _⟩
      · exact atom.isClosed
      · exact enclosed.isClosed
    rcases form with atom | ⟨parts, form⟩ | ⟨members, form⟩
    · exact .inl atom
    · exact .inr (form.isEnclosed (.inl ⟨rfl, rfl⟩) fun core padded part => part.2.isClosed (each core part.1))
    · exact .inr (form.isEnclosed (.inr ⟨rfl, rfl⟩) fun m padded entry => entry.isClosed each)

theorem IsForm.isClosed (form : IsForm depth text) : IsClosed (utf8 text) := by
  rcases form.cases with atom | ⟨enclosed, _⟩
  · exact atom.isClosed
  · exact enclosed.isClosed

theorem IsForm.isTrimmed (form : IsForm depth text) : IsTrimmed text := by
  rcases form.cases with atom | ⟨_, trimmed⟩
  · exact atom.isTrimmed
  · exact trimmed

theorem IsObject.isEnclosed {members : List (String × List Char)} (form : IsObject members text) :
    IsEnclosed (utf8 text) := by
  obtain ⟨_, entries⟩ := form.imp fun _ _ member => member.isEntry fun _ value => value.isForm
  exact (entries.isEnclosed (.inr ⟨rfl, rfl⟩) fun _ _ entry => entry.isClosed fun _ form => form.isClosed).1

end RequestTrail.Json
