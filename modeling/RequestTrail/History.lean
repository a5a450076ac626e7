import RequestTrail.Record.Writer
import RequestTrail.Trail

/-!
# Histories

The records of one tracker in the order in which they were taken. A snapshot is the value itself,
so what is appended later does not reach it.
-/
namespace RequestTrail

structure History where
  records : List Record := []
deriving DecidableEq, Repr

namespace History

def empty : History := ⟨[]⟩

instance : Inhabited History := ⟨empty⟩

def append (h : History) (r : Record) : History := ⟨h.records ++ [r]⟩

def size (h : History) : Nat := h.records.length

def isEmpty (h : History) : Bool := h.records.isEmpty

def lines (h : History) : List String := render h.records

def toJson (h : History) : String := Record.listToJson h.records

@[simp] theorem records_append (h : History) (r : Record) :
    (h.append r).records = h.records ++ [r] := rfl

@[simp] theorem size_append (h : History) (r : Record) : (h.append r).size = h.size + 1 := by
  simp [size]

end History

end RequestTrail
