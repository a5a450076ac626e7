import RequestTrail.Proofs.Normalizer.Segments
import RequestTrail.Proofs.ObjectName

/-! Texts in which no parameter opens or ends. Numbers are plain, and so are encoded object names. -/
namespace RequestTrail

/-- Neither an ampersand nor an equals sign. -/
structure IsPlain (s : String) : Prop where
  joins : '&' ∉ s.toList
  assigns : '=' ∉ s.toList

namespace IsPlain

instance (s : String) : Decidable (IsPlain s) :=
  decidable_of_iff ('&' ∉ s.toList ∧ '=' ∉ s.toList)
    ⟨fun h => ⟨h.1, h.2⟩, fun h => ⟨h.joins, h.assigns⟩⟩

theorem append {s t : String} (hs : IsPlain s) (ht : IsPlain t) : IsPlain (s ++ t) :=
  ⟨by simp [hs.joins, ht.joins], by simp [hs.assigns, ht.assigns]⟩

/-- A text of characters that a test lets pass and the two marks do not. -/
theorem of_all {s : String} {p : Char → Bool} (joins : p '&' = false) (assigns : p '=' = false)
    (all : ∀ c ∈ s.toList, p c = true) : IsPlain s :=
  ⟨fun h => by simp [all _ h] at joins, fun h => by simp [all _ h] at assigns⟩

theorem natural (n : Nat) : IsPlain (toString n) :=
  of_all (p := Char.isDigit) (by decide) (by decide) fun _ h => isDigit_of_mem_toString h

theorem integer (n : Int) : IsPlain (toString n) := by
  cases n with
  | ofNat n => exact natural n
  | negSucc n => exact append (by decide) (natural (n + 1))

theorem encoded (name : String) : IsPlain (ObjectName.encode name) :=
  of_all (p := ObjectName.isWritten) (by decide) (by decide) fun _ h =>
    ObjectName.isWritten_of_mem_encode h

end IsPlain

end RequestTrail
