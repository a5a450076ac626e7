import RequestTrail.Proofs.Json.Reads
import RequestTrail.Proofs.Text.Fields

/-! Written lists are read back in both layouts: line breaks are blanks, and a part is followed by one of
them, by the next part or by the closing mark. -/
namespace RequestTrail.Json

open Text

variable {α : Type} {item : Reader α} {layout : Layout} {write : α → List Char}

theorem blank_lineBreak (layout : Layout) (level : Nat) : Blank (utf8 (layout.lineBreak level)) := by
  intro b m
  obtain ⟨c, inside, m⟩ := List.mem_flatMap.mp m
  have break_or_space : c = '\n' ∨ c = ' ' := by
    cases layout with
    | compact => cases inside
    | indented =>
      rcases List.mem_cons.mp inside with here | space
      · exact Or.inl here
      · exact Or.inr (List.eq_of_mem_replicate space)
  rcases break_or_space with rfl | rfl
  · obtain rfl : b = 0x0A := List.mem_singleton.mp m
    rfl
  · obtain rfl : b = 0x20 := List.mem_singleton.mp m
    rfl

theorem container_cons (layout : Layout) (level : Nat) (opening closing : Char) (part : List Char)
    (parts : List (List Char)) :
    layout.container level opening closing (part :: parts) =
      opening :: (layout.lineBreak (level + 1) ++ (part ++
        (parts.flatMap (fun p => ',' :: (layout.lineBreak (level + 1) ++ p)) ++
          (layout.lineBreak level ++ [closing])))) := by
  simp only [Layout.container, List.isEmpty_cons, Bool.false_eq_true, if_false, List.map_cons,
    intercalate_cons_eq, List.flatMap_map, List.cons_append, List.append_assoc]

theorem parts_after (each : ∀ x, Reads item (utf8 (write x)) x) (layout : Layout) (level : Nat)
    (xs : List α) :
    Parts item false
      (utf8 ((xs.map write).flatMap (fun p => ',' :: (layout.lineBreak (level + 1) ++ p)) ++
        (layout.lineBreak level ++ [']']))) xs := by
  induction xs with
  | nil =>
    rw [List.map_nil, List.flatMap_nil, List.nil_append, utf8_append]
    exact .close (blank_lineBreak layout level)
  | cons x xs ih =>
    have next := Parts.next Blank.nil (blank_lineBreak layout (level + 1)) (each x) ih
    have comma : String.utf8EncodeChar ',' = [0x2C] := rfl
    simpa only [List.map_cons, List.flatMap_cons, List.cons_append, List.append_assoc, utf8_cons,
      utf8_append, comma, List.nil_append] using next

/-- A written list is an opening mark and parts. -/
theorem parts_list (each : ∀ x, Reads item (utf8 (write x)) x) (layout : Layout) (level : Nat)
    (xs : List α) :
    ∃ text, utf8 (layout.list level (xs.map write)) = 0x5B :: text ∧ Parts item true text xs := by
  cases xs with
  | nil => exact ⟨[] ++ [0x5D], rfl, .close Blank.nil⟩
  | cons x xs =>
    refine ⟨_, ?_, .first (blank_lineBreak layout (level + 1)) (each x) (parts_after each layout level xs)⟩
    rw [Layout.list, List.map_cons, container_cons, utf8_cons, utf8_append, utf8_append]
    rfl

theorem reads_list (each : ∀ x, Reads item (utf8 (write x)) x) (layout : Layout) (level : Nat)
    (xs : List α) (expected : String) :
    Reads (readListOf item expected) (utf8 (layout.list level (xs.map write))) xs := by
  obtain ⟨text, written, parts⟩ := parts_list each layout level xs
  rw [written]
  exact parts.reads expected

end RequestTrail.Json
