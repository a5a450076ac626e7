import Mathlib.Data.List.Forall2
import RequestTrail.Proofs.Json.Numeral
import RequestTrail.Proofs.Json.Spelled

/-! Every value of the grammar is read. The parts of a container are read one after another by a loop,
which is the same for lists and for objects; how deep values are nested carries the induction. -/
namespace RequestTrail.Json

open Text

variable {written s gap core text : List Char} {depth : Nat} {v : Value}

theorem blank_utf8 (form : IsGap gap) : Blank (utf8 gap) := by
  intro b m
  obtain ⟨c, inside, m⟩ := List.mem_flatMap.mp m
  rcases form c inside with rfl | rfl | rfl | rfl
  all_goals
    obtain rfl := List.mem_singleton.mp m
    rfl

/-! ### Values with no parts -/

/-- What opens a value with no parts, which is nothing that opens or closes a container. -/
def OpensScalar (b : UInt8) : Prop := isSpace b = false ∧ b ≠ 0x5B ∧ b ≠ 0x5D ∧ b ≠ 0x7B

instance (b : UInt8) : Decidable (OpensScalar b) :=
  inferInstanceAs (Decidable (isSpace b = false ∧ b ≠ 0x5B ∧ b ≠ 0x5D ∧ b ≠ 0x7B))

theorem reads_of_scalar {b : UInt8} {more : Bytes} (opens : OpensScalar b) (depth : Nat)
    (read : ∀ rest, Stops rest → Value.readScalar (b :: (more ++ rest)) = .ok (v, rest)) :
    Reads (Value.read depth) (b :: more) v := by
  obtain ⟨visible, list, close, object⟩ := opens
  refine ⟨⟨b, more, rfl, visible, close⟩, fun {blanks rest} blank stops => ?_⟩
  -- The reader refuses containers at depth zero and reads them below, so its body has two forms.
  cases depth
  all_goals
    rw [Value.read, List.cons_append, skipSpace_cons blank visible]
    split
    · next same => exact absurd (List.cons.inj same).1 list
    · next same => exact absurd (List.cons.inj same).1 object
    · exact read rest stops

theorem utf8_quote (written : List Char) : utf8 (quote written) = 0x22 :: (utf8 written ++ [0x22]) := by
  rw [quote, utf8_cons, utf8_append]
  rfl

theorem reads_spelled (spelled : Spells written s) (depth : Nat) :
    Reads (Value.read depth) (utf8 (quote written)) (.string (String.ofList s)) := by
  rw [utf8_quote]
  refine reads_of_scalar (by decide) depth fun rest _ => ?_
  have read := readText_spelled spelled rest
  rw [List.append_assoc, List.singleton_append]
  change (readText (utf8 written ++ 0x22 :: rest)).map _ = _
  rw [read]
  rfl

/-- The bytes that open a number. -/
theorem readScalar_number {b : UInt8} (opens : (b == 0x2D || isDigit b) = true) (rest : Bytes) :
    OpensScalar b ∧
      Value.readScalar (b :: rest) = (readNumber (b :: rest)).map fun r => (.number r.1, r.2) := by
  have known : ∀ n : Fin 256, (UInt8.ofNat n == 0x2D || isDigit (UInt8.ofNat n)) = true →
      OpensScalar (UInt8.ofNat n) ∧ Char.ofNat n ≠ 'n' ∧ Char.ofNat n ≠ 't' ∧ Char.ofNat n ≠ 'f' ∧
        Char.ofNat n ≠ '"' := by
    decide +kernel
  obtain ⟨scalar, null, yes, no, mark⟩ := known ⟨b.toNat, b.toNat_lt⟩ (by simpa using opens)
  rw [UInt8.ofNat_toNat] at scalar
  refine ⟨scalar, ?_⟩
  rw [Value.readScalar]
  split
  · next same => exact absurd same null
  · next same => exact absurd same yes
  · next same => exact absurd same no
  · next same => exact absurd same mark
  · rw [if_pos opens]

theorem IsScalar.reads (form : IsScalar text) (depth : Nat) :
    ∃ v, Reads (Value.read depth) (utf8 text) v := by
  cases form with
  | null =>
    have bytes : utf8 "null".toList = 0x6E :: wordNull := rfl
    exact ⟨.null, bytes ▸ reads_of_scalar (by decide) depth fun rest _ => rfl⟩
  | true =>
    have bytes : utf8 "true".toList = 0x74 :: wordTrue := rfl
    exact ⟨.boolean Bool.true, bytes ▸ reads_of_scalar (by decide) depth fun rest _ => rfl⟩
  | false =>
    have bytes : utf8 "false".toList = 0x66 :: wordFalse := rfl
    exact ⟨.boolean Bool.false, bytes ▸ reads_of_scalar (by decide) depth fun rest _ => rfl⟩
  | string spelled => exact ⟨_, reads_spelled spelled depth⟩
  | number form inRange =>
    obtain ⟨n, read⟩ := form.read inRange
    obtain ⟨b, more, bytes, opens⟩ := form.opens
    refine ⟨.number n, ?_⟩
    rw [bytes] at read ⊢
    refine reads_of_scalar (readScalar_number opens []).1 depth fun rest stops => ?_
    have taken := read rest stops
    rw [List.cons_append] at taken
    rw [(readScalar_number opens _).2, taken]
    rfl

/-! ### The parts of a container -/

variable {α β : Type} {one : Reader β} {closing mark : UInt8} {y : β} {rest : Bytes}

/-- The text is one part for a reader of parts, up to the mark after it. -/
structure Taken (one : Reader β) (closing : UInt8) (text : Bytes) (y : β) : Prop where
  opens : ∀ rest, ∃ b more, skipSpace (text ++ rest) = b :: more ∧ b ≠ closing
  read : ∃ right, Blank right ∧ ∀ mark rest, (mark = 0x2C ∨ mark = closing) →
    one (text ++ mark :: rest) = .ok (y, right ++ mark :: rest)

/-- What a reader of all parts does after one of them. -/
structure IsLoop (one : Reader β) (closing : UInt8) (loop : Nat → Reader (List β)) : Prop where
  last : ∀ {fuel s right rest y}, Blank right → one s = .ok (y, right ++ closing :: rest) →
    loop (fuel + 1) s = .ok ([y], rest)
  next : ∀ {fuel s right more rest rest' y ys b}, Blank right →
    one s = .ok (y, right ++ 0x2C :: more) → skipSpace more = b :: rest → b ≠ closing →
    loop fuel more = .ok (ys, rest') → loop (fuel + 1) s = .ok (y :: ys, rest')

theorem isLoop_readParts (part : Reader Value) : IsLoop part 0x5D (Value.readParts part) := by
  constructor
  · intro fuel s right rest y blank taken
    simp [Value.readParts, taken, bind, Except.bind, skipSpace_cons blank (b := 0x5D) (by decide),
      pure, Except.pure]
  · intro fuel s right more rest rest' y ys b blank taken opens other read
    simp [Value.readParts, taken, bind, Except.bind, skipSpace_cons blank (b := 0x2C) (by decide), opens,
      other, read, pure, Except.pure]

theorem isLoop_readMembers (part : Reader Value) :
    IsLoop (fun s => Value.readMember part (skipSpace s)) 0x7D (Value.readMembers part) := by
  constructor
  · intro fuel s right rest y blank taken
    simp [Value.readMembers, taken, bind, Except.bind, skipSpace_cons blank (b := 0x7D) (by decide),
      pure, Except.pure]
  · intro fuel s right more rest rest' y ys b blank taken opens other read
    simp [Value.readMembers, taken, bind, Except.bind, skipSpace_cons blank (b := 0x2C) (by decide), opens,
      other, read, pure, Except.pure]

/-- Parts that are taken one by one are all read, with a round for each byte. -/
theorem Separated.read {part : α → List Char → Prop} {related : α → β → Prop} {xs : List α}
    {loop : Nat → Reader (List β)} (form : Separated part xs text) (isLoop : IsLoop one closing loop)
    (each : ∀ x padded, part x padded → ∃ y, related x y ∧ Taken one closing (utf8 padded) y) :
    ∃ ys, List.Forall₂ related xs ys ∧
      (∀ rest, ∃ b more, skipSpace (utf8 text ++ rest) = b :: more ∧ b ≠ closing) ∧
      ∀ fuel rest, (utf8 text).length < fuel →
        loop fuel (utf8 text ++ closing :: rest) = .ok (ys, rest) := by
  induction form with
  | last form =>
    obtain ⟨y, same, taken⟩ := each _ _ form
    refine ⟨[y], .cons same .nil, taken.opens, fun fuel rest enough => ?_⟩
    obtain ⟨right, blank, read⟩ := taken.read
    obtain ⟨fuel, rfl⟩ : ∃ k, fuel = k + 1 := ⟨fuel - 1, by omega⟩
    exact isLoop.last blank (read closing rest (Or.inr rfl))
  | @next x padded more xs form _ ih =>
    obtain ⟨y, same, taken⟩ := each _ _ form
    obtain ⟨ys, all, opens, readAll⟩ := ih
    obtain ⟨right, blank, read⟩ := taken.read
    have bytes : utf8 (padded ++ ',' :: more) = utf8 padded ++ 0x2C :: utf8 more := by
      rw [utf8_append, utf8_cons]
      rfl
    refine ⟨y :: ys, .cons same all, fun rest => ?_, fun fuel rest enough => ?_⟩
    · rw [bytes, List.append_assoc]
      exact taken.opens _
    · rw [bytes] at enough ⊢
      simp only [List.length_append, List.length_cons] at enough
      obtain ⟨fuel, rfl⟩ : ∃ k, fuel = k + 1 := ⟨fuel - 1, by omega⟩
      obtain ⟨b, after, next, other⟩ := opens (closing :: rest)
      have first := read 0x2C (utf8 more ++ closing :: rest) (Or.inl rfl)
      rw [List.append_assoc, List.cons_append]
      exact isLoop.next blank first next other (readAll fuel rest (by omega))

variable {part : Reader Value}

/-- A value between blanks is read up to the mark that follows. -/
theorem read_padded {padded : List Char} (form : Padded core padded) (reads : Reads part (utf8 core) v) :
    ∃ right, Blank right ∧ ∀ mark rest, (mark = 0x2C ∨ mark = 0x5D ∨ mark = 0x7D) →
      part (utf8 padded ++ mark :: rest) = .ok (v, right ++ mark :: rest) := by
  obtain ⟨left, right, gapLeft, gapRight, rfl⟩ := form
  refine ⟨utf8 right, blank_utf8 gapRight, fun mark rest marked => ?_⟩
  have stops : Stops (utf8 right ++ mark :: rest) := .blank_append (blank_utf8 gapRight) (.mark marked rest)
  rw [utf8_append, utf8_append, List.append_assoc, List.append_assoc]
  exact reads.read (blank_utf8 gapLeft) stops

theorem taken_padded {padded : List Char} (form : Padded core padded) (reads : Reads part (utf8 core) v) :
    Taken part 0x5D (utf8 padded) v := by
  obtain ⟨right, blank, read⟩ := read_padded form reads
  refine ⟨fun rest => ?_, right, blank, fun mark rest marked => read mark rest ?_⟩
  · obtain ⟨left, right, gapLeft, _, rfl⟩ := form
    obtain ⟨b, more, bytes, visible, other⟩ := reads.opens
    refine ⟨b, more ++ (utf8 right ++ rest), ?_, other⟩
    rw [utf8_append, utf8_append, bytes, List.append_assoc, List.append_assoc, List.cons_append,
      skipSpace_cons (blank_utf8 gapLeft) visible]
  · rcases marked with comma | close
    · exact Or.inl comma
    · exact Or.inr (Or.inl close)

/-- A key, its colon and its value are one part. -/
theorem taken_member {value : List Char → Prop} {m : String × List Char} (form : IsMember value m text)
    (reads : Reads part (utf8 m.2) v) :
    Taken (fun s => Value.readMember part (skipSpace s)) 0x7D (utf8 text) (m.1, v) := by
  obtain ⟨left, gap, written, padded, gapLeft, gapKey, spelled, _, form, rfl⟩ := form
  have opened (rest : Bytes) : skipSpace (utf8 (left ++ (quote written ++ (gap ++ ':' :: padded))) ++ rest) =
      0x22 :: (utf8 written ++ 0x22 :: (utf8 gap ++ 0x3A :: (utf8 padded ++ rest))) := by
    have bytes : utf8 (left ++ (quote written ++ (gap ++ ':' :: padded))) ++ rest =
        utf8 left ++ 0x22 :: (utf8 written ++ 0x22 :: (utf8 gap ++ 0x3A :: (utf8 padded ++ rest))) := by
      simp only [utf8_append, utf8_quote, utf8_cons, List.append_assoc, List.cons_append,
        List.nil_append]
      rfl
    rw [bytes, skipSpace_cons (blank_utf8 gapLeft) (by decide)]
  obtain ⟨right, blank, read⟩ := read_padded form reads
  refine ⟨fun rest => ⟨_, _, opened rest, by decide⟩, right, blank, fun mark rest marked => ?_⟩
  have value : part (utf8 padded ++ mark :: rest) = .ok (v, right ++ mark :: rest) := by
    apply read
    rcases marked with comma | close
    · exact Or.inl comma
    · exact Or.inr (Or.inr close)
  have key := readText_spelled spelled (utf8 gap ++ 0x3A :: (utf8 padded ++ mark :: rest))
  rw [opened]
  simp [Value.readMember, key, bind, Except.bind, pure, Except.pure,
    skipSpace_cons (blank_utf8 gapKey) (b := 0x3A) (by decide), value]

/-! ### Containers -/

/-- What a reader of a container does after its opening mark. -/
structure IsContainer (closing : UInt8) (loop : Nat → Reader (List β)) (whole : Reader Value)
    (make : List β → Value) : Prop where
  empty : ∀ {blanks rest}, Blank blanks → whole (blanks ++ closing :: rest) = .ok (make [], rest)
  parts : ∀ {s b more ys rest}, skipSpace s = b :: more → b ≠ closing →
    loop (s.length + 1) s = .ok (ys, rest) → whole s = .ok (make ys, rest)

theorem isContainer_readList (part : Reader Value) :
    IsContainer 0x5D (Value.readParts part) (Value.readList part) .list := by
  constructor
  · intro blanks rest blank
    simp [Value.readList, skipSpace_cons blank (b := 0x5D) (by decide)]
  · intro s b more ys rest opens other read
    simp [Value.readList, opens, other, read, Except.map]

theorem isContainer_readObject (part : Reader Value) :
    IsContainer 0x7D (Value.readMembers part) (Value.readObject part) .object := by
  constructor
  · intro blanks rest blank
    simp [Value.readObject, skipSpace_cons blank (b := 0x7D) (by decide)]
  · intro s b more ys rest opens other read
    simp [Value.readObject, opens, other, read, Except.map]

/-- What stands between the marks of a container is read with its parts, up to the closing mark. -/
theorem Encloses.read {opening close : Char} {part : α → List Char → Prop} {related : α → β → Prop}
    {xs : List α} {loop : Nat → Reader (List β)} {whole : Reader Value} {make : List β → Value}
    (form : Encloses opening close part xs text) (single : String.utf8EncodeChar close = [closing])
    (isLoop : IsLoop one closing loop) (isContainer : IsContainer closing loop whole make)
    (each : ∀ x padded, part x padded → ∃ y, related x y ∧ Taken one closing (utf8 padded) y) :
    ∃ ys inner, List.Forall₂ related xs ys ∧
      utf8 text = String.utf8EncodeChar opening ++ (inner ++ [closing]) ∧
      ∀ rest, whole (inner ++ closing :: rest) = .ok (make ys, rest) := by
  obtain ⟨inner, rfl, form⟩ := form
  have bytes : utf8 (opening :: (inner ++ [close])) =
      String.utf8EncodeChar opening ++ (utf8 inner ++ [closing]) := by
    rw [utf8_cons, utf8_append, utf8_cons, utf8_nil, List.append_nil, single]
  rcases form with ⟨rfl, gap⟩ | form
  · exact ⟨[], utf8 inner, .nil, bytes, fun rest => isContainer.empty (blank_utf8 gap)⟩
  · obtain ⟨ys, same, opens, readAll⟩ := form.read isLoop each
    refine ⟨ys, utf8 inner, same, bytes, fun rest => ?_⟩
    obtain ⟨b, more, first, other⟩ := opens (closing :: rest)
    refine isContainer.parts first other (readAll _ rest ?_)
    rw [List.length_append]
    omega

/-- The mark that opens a container, and what its reader makes of the rest. -/
theorem reads_container {mark : UInt8} {inner : Bytes} {whole : Reader Value}
    (visible : isSpace mark = false ∧ mark ≠ 0x5D)
    (dispatch : ∀ {blanks rest}, Blank blanks →
      Value.read (depth + 1) (blanks ++ mark :: rest) = whole rest)
    (read : ∀ rest, whole (inner ++ closing :: rest) = .ok (v, rest)) :
    Reads (Value.read (depth + 1)) (mark :: (inner ++ [closing])) v := by
  refine ⟨⟨mark, _, rfl, visible⟩, fun {blanks rest} blank _ => ?_⟩
  rw [List.cons_append, List.append_assoc, dispatch blank]
  exact read rest

theorem read_bracket {blanks : Bytes} (blank : Blank blanks) (rest : Bytes) :
    Value.read (depth + 1) (blanks ++ 0x5B :: rest) = Value.readList (Value.read depth) rest := by
  rw [Value.read, skipSpace_cons blank (by decide)]
  rfl

theorem read_brace {blanks : Bytes} (blank : Blank blanks) (rest : Bytes) :
    Value.read (depth + 1) (blanks ++ 0x7B :: rest) = Value.readObject (Value.read depth) rest := by
  rw [Value.read, skipSpace_cons blank (by decide)]
  rfl

/-- An object is read with its members in order, when the values of its members are read. -/
theorem reads_braces {value : List Char → Prop} {members : List (String × List Char)}
    (each : ∀ core, value core → ∃ v, Reads (Value.read depth) (utf8 core) v)
    (form : Encloses '{' '}' (IsMember value) members text) :
    ∃ values, List.Forall₂ (fun m r => m.1 = r.1 ∧ Reads (Value.read depth) (utf8 m.2) r.2) members values ∧
      Reads (Value.read (depth + 1)) (utf8 text) (.object values) := by
  have taken : ∀ m padded, IsMember value m padded → ∃ r : String × Value,
      (m.1 = r.1 ∧ Reads (Value.read depth) (utf8 m.2) r.2) ∧
        Taken (fun s => Value.readMember (Value.read depth) (skipSpace s)) 0x7D (utf8 padded) r := by
    intro m padded member
    have ⟨_, _, _, _, _, _, _, valued, _, _⟩ := member
    obtain ⟨v, reads⟩ := each m.2 valued
    exact ⟨(m.1, v), ⟨rfl, reads⟩, taken_member member reads⟩
  obtain ⟨values, inner, same, bytes, read⟩ :=
    form.read rfl (isLoop_readMembers _) (isContainer_readObject _) taken
  refine ⟨values, same, ?_⟩
  rw [bytes]
  exact reads_container (by decide) (fun blank => read_brace blank _) read

theorem reads_brackets {value : List Char → Prop} {parts : List (List Char)}
    (each : ∀ core, value core → ∃ v, Reads (Value.read depth) (utf8 core) v)
    (form : Encloses '[' ']' (fun core padded => value core ∧ Padded core padded) parts text) :
    ∃ values, Reads (Value.read (depth + 1)) (utf8 text) (.list values) := by
  have taken : ∀ core padded, value core ∧ Padded core padded → ∃ v,
      Reads (Value.read depth) (utf8 core) v ∧ Taken (Value.read depth) 0x5D (utf8 padded) v := by
    rintro core padded ⟨form, padding⟩
    obtain ⟨v, reads⟩ := each core form
    exact ⟨v, reads, taken_padded padding reads⟩
  obtain ⟨values, inner, _, bytes, read⟩ :=
    form.read rfl (isLoop_readParts _) (isContainer_readList _) taken
  refine ⟨values, ?_⟩
  rw [bytes]
  exact reads_container (by decide) (fun blank => read_bracket blank _) read

/-- Every value is read when its containers are not nested too deep. -/
theorem IsValue.reads (form : IsValue depth text) : ∃ v, Reads (Value.read depth) (utf8 text) v := by
  induction depth generalizing text with
  | zero => exact IsScalar.reads form 0
  | succ depth ih =>
    have each : ∀ core, IsValue depth core → ∃ v, Reads (Value.read depth) (utf8 core) v :=
      fun _ form => ih form
    rcases form with scalar | ⟨parts, form⟩ | ⟨members, form⟩
    · exact scalar.reads (depth + 1)
    · obtain ⟨values, reads⟩ := reads_brackets each form
      exact ⟨.list values, reads⟩
    · obtain ⟨values, _, reads⟩ := reads_braces each form
      exact ⟨.object values, reads⟩

/-! ### Whole texts -/

theorem Stops.nil : Stops [] := fun _ m => by cases m

/-- A text is read as one value at most. -/
theorem Reads.unique {item : Reader α} {text : Bytes} {x y : α} (hx : Reads item text x)
    (hy : Reads item text y) : x = y := by
  have same := (hx.of_rest Stops.nil).symm.trans (hy.of_rest Stops.nil)
  exact (Prod.mk.inj (Except.ok.inj same)).1

/-- An object is parsed into the values of its members in order. -/
theorem IsObject.parse {members : List (String × List Char)} (form : IsObject members text) :
    ∃ values, List.Forall₂ (fun m r => m.1 = r.1 ∧
        Reads (Value.read (Value.maxDepth - 1)) (utf8 m.2) r.2) members values ∧
      Value.parse (utf8 text) = .ok (.object values) := by
  obtain ⟨values, same, reads⟩ := reads_braces (fun _ => IsValue.reads) form
  have whole := reads.of_rest Stops.nil
  rw [List.append_nil] at whole
  change Value.read Value.maxDepth (utf8 text) = _ at whole
  refine ⟨values, same, ?_⟩
  rw [Value.parse, whole]
  rfl

/-- The first of related members under a key, with what it is related to. -/
theorem find?_of_forall₂ {related : String × α → String × β → Prop} {skipped more : List (String × α)}
    {m : String × α} {values : List (String × β)}
    (same : List.Forall₂ (fun m r => m.1 = r.1 ∧ related m r) (skipped ++ m :: more) values)
    (others : ∀ other ∈ skipped, other.1 ≠ m.1) :
    ∃ r, values.find? (·.1 = m.1) = some r ∧ related m r := by
  induction skipped generalizing values with
  | nil =>
    cases same with
    | cons first _ => exact ⟨_, List.find?_cons_of_pos (by simp [first.1]), first.2⟩
  | cons other skipped ih =>
    cases same with
    | cons first rest =>
      have differs : other.1 ≠ m.1 := others other (.head skipped)
      rw [List.find?_cons_of_neg (by simpa [← first.1] using differs)]
      exact ih rest fun x inside => others x (.tail other inside)

/-- A key has the string that its last member spells. -/
theorem IsObject.member? {members before after : List (String × List Char)} {key : String}
    (form : IsObject members text) (split : members = before ++ (key, quote written) :: after)
    (spelled : Spells written s) (last : ∀ m ∈ after, m.1 ≠ key) :
    ∃ v, Value.parse (utf8 text) = .ok v ∧ v.member? key = some (.string (String.ofList s)) := by
  obtain ⟨values, same, parsed⟩ := form.parse
  refine ⟨.object values, parsed, ?_⟩
  have reversed : members.reverse = after.reverse ++ (key, quote written) :: before.reverse := by
    simp [split]
  rw [← List.forall₂_reverse_iff, reversed] at same
  obtain ⟨r, found, reads⟩ := find?_of_forall₂ same fun m inside => last m (List.mem_reverse.mp inside)
  rw [Value.member?, found, Option.map_some, reads.unique (reads_spelled spelled _)]

end RequestTrail.Json
