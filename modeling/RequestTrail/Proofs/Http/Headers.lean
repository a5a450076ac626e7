import Mathlib
import RequestTrail.Http.Request

/-! A header multimap against the list of pairs that it was built from. Its names are distinct, and the
values given for a name stand under it in the order in which they were given. -/
namespace RequestTrail.Http

open Text

namespace Headers

variable {h : Headers} {n name : String} {value : Bytes} {es : List Header}

@[simp] theorem canonicalName_canonicalName (name : String) :
    canonicalName (canonicalName name) = canonicalName name := by
  simp [canonicalName, lower, Function.comp_def]

theorem sameName_iff (a b : String) :
    sameName a.toList b.toList = true ↔ canonicalName a = canonicalName b := by
  simp [sameName, canonicalName, String.ofList_inj]

/-- What is listed under a name that is written as it is kept. -/
def valuesUnder (n : String) (es : List Header) : List Bytes :=
  es.flatMap fun e => if e.name = n then e.values else []

@[simp] theorem valuesUnder_cons (n : String) (e : Header) (es : List Header) :
    valuesUnder n (e :: es) = (if e.name = n then e.values else []) ++ valuesUnder n es :=
  List.flatMap_cons

theorem valuesUnder_of_absent (absent : n ∉ es.map (·.name)) : valuesUnder n es = [] := by
  refine List.flatMap_eq_nil_iff.mpr fun e m => ?_
  have other : e.name ≠ n := fun here => absent (List.mem_map.mpr ⟨e, m, here⟩)
  rw [if_neg other]

theorem filter_toList (h : Headers) (n : String) :
    h.toList.filter (·.1 = n) = (valuesUnder n h.entries).map (n, ·) := by
  rw [toList, valuesUnder, List.filter_flatMap, List.map_flatMap]
  congr 1
  funext e
  by_cases here : e.name = n
  · rw [List.filter_map, if_pos here, here, List.filter_eq_self.mpr fun _ _ => by simp]
  · simp [List.filter_map, Function.comp_def, here]

/-- No name stands in two entries. -/
def Distinct (h : Headers) : Prop := (h.entries.map (·.name)).Nodup

/-- The entries with one more value under the name, if it is there. -/
def push (name : String) (value : Bytes) (es : List Header) : List Header :=
  es.map fun e => if e.name = name then { e with values := e.values ++ [value] } else e

theorem names_push (name : String) (value : Bytes) (es : List Header) :
    (push name value es).map (·.name) = es.map (·.name) := by
  rw [push, List.map_map]
  refine List.map_congr_left fun e _ => ?_
  simp only [Function.comp_apply]
  split <;> rfl

theorem push_of_absent (absent : name ∉ es.map (·.name)) (value : Bytes) :
    push name value es = es := by
  refine (List.map_congr_left fun e m => ?_).trans es.map_id
  have other : e.name ≠ name := fun here => absent (List.mem_map.mpr ⟨e, m, here⟩)
  rw [if_neg other]
  rfl

/-- The value comes last under its name, and nothing changes under any other. -/
theorem valuesUnder_push (distinct : (es.map (·.name)).Nodup) (known : name ∈ es.map (·.name))
    (value : Bytes) (n : String) :
    valuesUnder n (push name value es) = valuesUnder n es ++ if name = n then [value] else [] := by
  induction es with
  | nil => cases known
  | cons e es ih =>
    obtain ⟨absent, rest⟩ := List.nodup_cons.mp distinct
    have first : push name value (e :: es) =
      (if e.name = name then { e with values := e.values ++ [value] } else e) ::
        push name value es := rfl
    rw [first]
    by_cases here : e.name = name
    · subst here
      rw [push_of_absent absent]
      by_cases asked : e.name = n
      · subst asked
        simp [valuesUnder_of_absent absent]
      · simp [asked]
    · have below : name ∈ es.map (·.name) := (List.mem_cons.mp known).resolve_left (Ne.symm here)
      simp [here, ih rest below]

theorem append_eq (h : Headers) (name : String) (value : Bytes) :
    (h.append name value).entries =
      if canonicalName name ∈ h.entries.map (·.name) then push (canonicalName name) value h.entries
      else h.entries ++ [⟨canonicalName name, [value]⟩] := by
  have same : h.entries.any (·.name = canonicalName name) = true ↔
      canonicalName name ∈ h.entries.map (·.name) := by
    simp
  simp only [append, same]
  split <;> rfl

theorem Distinct.append (distinct : h.Distinct) (name : String) (value : Bytes) :
    (h.append name value).Distinct := by
  rw [Distinct, append_eq]
  split
  · rw [names_push]
    exact distinct
  · next absent =>
    rw [List.map_append]
    refine List.nodup_append.mpr ⟨distinct, by simp, fun a m b single => ?_⟩
    rintro rfl
    obtain rfl : a = canonicalName name := List.mem_singleton.mp single
    exact absent m

theorem valuesUnder_append (distinct : h.Distinct) (name : String) (value : Bytes) (n : String) :
    valuesUnder n (h.append name value).entries =
      valuesUnder n h.entries ++ if canonicalName name = n then [value] else [] := by
  rw [append_eq]
  split
  · next known => exact valuesUnder_push distinct known value n
  · simp [valuesUnder]

/-- The pairs with their names as the multimap keeps them. -/
def canonical (pairs : List (String × Bytes)) : List (String × Bytes) :=
  pairs.map fun p => (canonicalName p.1, p.2)

theorem valuesUnder_foldl (distinct : h.Distinct) (pairs : List (String × Bytes)) (n : String) :
    (valuesUnder n (pairs.foldl (fun h p => h.append p.1 p.2) h).entries).map (n, ·) =
      (valuesUnder n h.entries).map (n, ·) ++ (canonical pairs).filter (·.1 = n) := by
  induction pairs generalizing h with
  | nil => simp [canonical]
  | cons p pairs ih =>
    rw [List.foldl_cons, ih (distinct.append p.1 p.2), valuesUnder_append distinct]
    by_cases here : canonicalName p.1 = n
    · simp [canonical, here]
    · simp [canonical, here]

/-- Under each name stand the values given for it, in their order. -/
theorem filter_toList_ofList (pairs : List (String × Bytes)) (n : String) :
    (ofList pairs).toList.filter (·.1 = n) = (canonical pairs).filter (·.1 = n) := by
  rw [filter_toList]
  exact valuesUnder_foldl (h := empty) List.nodup_nil pairs n

/-- Lists that agree under each name hold the same pairs. -/
theorem perm_of_filter {α : Type} [BEq α] [LawfulBEq α] {l l' : List (String × α)}
    (same : ∀ n, l.filter (·.1 = n) = l'.filter (·.1 = n)) : l.Perm l' := by
  refine List.perm_iff_count.mpr fun p => ?_
  have kept (l : List (String × α)) : (l.filter (·.1 = p.1)).count p = l.count p :=
    List.count_filter (decide_eq_true rfl)
  rw [← kept l, same, kept l']

end Headers

end RequestTrail.Http
