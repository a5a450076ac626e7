import RequestTrail.Proofs.Text.WellFormed
import RequestTrail.RootUrl.Domain

/-! Names that end in a control or a space are refused: an ASCII character at the end of a name is neither
read into an escape nor joined to what stands before it, so it is still there when the name is judged. -/
namespace RequestTrail

open Text

variable {c : Char}

namespace Text

/-! ### Composing -/

theorem decompose_of_ascii (ascii : c.toNat < 0x80) (depth : Nat) : decompose depth c = [c] := by
  cases depth with
  | zero => rfl
  | succ depth => rw [decompose, parts?, if_pos ascii]

theorem insertMark_append (mark : Char × Nat) (s : List (Char × Nat)) (c : Char) :
    insertMark mark (s ++ [(c, 0)]) = insertMark mark s ++ [(c, 0)] := by
  induction s with
  | nil => rfl
  | cons other rest ih =>
    simp only [List.cons_append, insertMark, ih]
    split <;> rfl

theorem ordered_append (ascii : c.toNat < 0x80) (s : List Char) : ordered (s ++ [c]) = ordered s ++ [(c, 0)] := by
  have plain : combiningClass c = 0 := if_pos ascii
  have moved (t : List (Char × Nat)) : t.foldr insertMark [(c, 0)] = t.foldr insertMark [] ++ [(c, 0)] := by
    induction t with
    | nil => rfl
    | cons mark t ih => rw [List.foldr_cons, ih, insertMark_append, List.foldr_cons]
  rw [ordered, List.map_append, List.foldr_append, List.map_singleton, plain]
  exact moved _

theorem joinMarks_append (ascii : c.toNat < 0x80) (letter : Char) (behind : List Char) (last : Nat)
    (s : List (Char × Nat)) : joinMarks letter behind last (s ++ [(c, 0)]) = joinMarks letter behind last s ++ [c] := by
  have apart (a : Char) : whole? a c = none := if_pos ascii
  induction s generalizing letter behind last with
  | nil => simp [joinMarks, apart]
  | cons mark s ih =>
    obtain ⟨m, rank⟩ := mark
    simp only [List.cons_append, joinMarks, ih]
    split
    · rfl
    · split
      · simp
      · rfl

/-- A character of ASCII at the end of a text stays there. -/
theorem exists_composed_eq (ascii : c.toNat < 0x80) (s : List Char) : ∃ front, composed (s ++ [c]) = front ++ [c] := by
  have joined (t : List (Char × Nat)) : joinAll (t ++ [(c, 0)]) = joinAll t ++ [c] := by
    induction t with
    | nil => rfl
    | cons mark t ih =>
      obtain ⟨m, rank⟩ := mark
      simp only [List.cons_append, joinAll, joinMarks_append ascii, ih]
      split <;> rfl
  unfold composed
  split
  · exact ⟨s, rfl⟩
  · rw [List.flatMap_append, List.flatMap_singleton, decompose_of_ascii ascii, ordered_append ascii, joined]
    exact ⟨_, rfl⟩

end Text

namespace RootUrl

/-- What is no hexadecimal digit ends no escape. -/
theorem unescape_append (other : hexValue? c = none) (s : List Char) :
    unescape (s ++ [c]) = unescape s ++ String.utf8EncodeChar c := by
  fun_induction unescape s with
  | case1 => simp [unescape]
  | case2 high low rest h l lowValue highValue ih => simp [unescape, lowValue, highValue, ih]
  | case3 high low rest unread ih =>
    rw [List.cons_append, List.cons_append, List.cons_append, unescape]
    split
    · next h l highValue lowValue => exact (unread h l highValue lowValue).elim
    · exact congrArg (byte '%' :: ·) ih
  | case4 d rest unopened ih =>
    by_cases opened : d = '%' ∧ ∃ x, rest = [x]
    · obtain ⟨rfl, x, rfl⟩ := opened
      rw [List.cons_append, List.cons_append, List.nil_append, unescape, other]
      cases hexValue? x with
      | none => exact congrArg (byte '%' :: ·) ih
      | some h => exact congrArg (byte '%' :: ·) ih
    · have plain : ∀ high low more, d = '%' → rest ++ [c] = high :: low :: more → False := by
        rintro high low more sign split
        rcases rest with _ | ⟨x, _ | ⟨y, rest⟩⟩
        · cases split
        · exact opened ⟨sign, x, rfl⟩
        · exact unopened x y rest sign rfl
      rw [List.cons_append, unescape.eq_3 d _ plain, ih, List.append_assoc]

theorem hexValue?_of_blank (blank : c.toNat ≤ 0x20) : hexValue? c = none := by
  have known : ∀ n : Fin 0x21, hexValue? (Char.ofNat n) = none := by decide
  have found := known ⟨c.toNat, by omega⟩
  rwa [Char.ofNat_toNat] at found

theorem fold?_of_blank (blank : c.toNat ≤ 0x20) : fold? c = some [c] := by
  have known : ∀ n : Fin 0x21, fold? (Char.ofNat n) = some [Char.ofNat n] := by decide
  have found := known ⟨c.toNat, by omega⟩
  rwa [Char.ofNat_toNat] at found

/-- Bytes that end in a byte of ASCII are read as a text that ends in that character. -/
theorem exists_decode?_eq {front : Bytes} {name : List Char} (ascii : c.toNat < 0x80)
    (read : Utf8.decode? (front ++ [byte c]) = some name) : ∃ s, name = s ++ [c] := by
  have written : utf8 name = front ++ [byte c] := Utf8.decode?_eq_some_iff.mp read
  obtain rfl | ⟨s, d, rfl⟩ := List.eq_nil_or_concat name
  · simp at written
  rw [List.concat_eq_append] at written ⊢
  refine ⟨s, congrArg (s ++ [·]) (Char.toNat_inj.mp ?_)⟩
  have ends : (String.utf8EncodeChar d).getLast? = some (byte c) := by
    have same := congrArg List.getLast? written
    rw [utf8_append, utf8_cons, utf8_nil, List.append_nil, List.getLast?_concat, List.getLast?_append] at same
    cases last : (String.utf8EncodeChar d).getLast? with
    | none => exact absurd (List.getLast?_eq_none_iff.mp last) String.utf8EncodeChar_ne_nil
    | some x =>
      rw [last] at same
      exact same
  rcases Utf8.toNat_of_mem_utf8EncodeChar (List.mem_of_mem_getLast? ends) with self | above
  · rw [← self, Utf8.toNat_byte ascii]
  · rw [Utf8.toNat_byte ascii] at above
    omega

/-- A name that ends in a control or a space may not be a domain. -/
theorem prepare?_append_blank (blank : c.toNat ≤ 0x20) (s : List Char) : prepare? (s ++ [c]) = none := by
  have ascii : c.toNat < 0x80 := by omega
  unfold prepare?
  rw [unescape_append (hexValue?_of_blank blank), Utf8.utf8EncodeChar_of_ascii ascii]
  cases read : Utf8.decode? (unescape s ++ [byte c]) with
  | none => rfl
  | some name =>
    obtain ⟨front, rfl⟩ := exists_decode?_eq ascii read
    have last : [c].mapM fold? = some [[c]] := by simp [fold?_of_blank blank]
    simp only [List.mapM_append, last, Option.bind_eq_bind, Option.bind_some, Option.pure_def]
    cases front.mapM fold? with
    | none => rfl
    | some folded =>
      obtain ⟨more, same⟩ := exists_composed_eq ascii folded.flatten
      have forbidden : (more ++ [c]).any isForbidden = true := by simp [isForbidden, blank]
      simp only [Option.bind_some, List.flatten_append, List.flatten_singleton, same, forbidden, Bool.true_or, if_true]
      exact Option.bind_fun_none _

end RootUrl

end RequestTrail
