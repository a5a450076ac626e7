import RequestTrail.Proofs.Json.Levels
import RequestTrail.Proofs.Record.Json

/-! Texts of records that are cut short. What is written is one container, and a reader takes a text only
if all that opens in it is closed. So no proper prefix is read, wherever it ends. -/
namespace RequestTrail

open Text Json

/-! ### Written texts are closed -/

namespace Json

theorem isClosed_quoted (s : String) : IsClosed (utf8 (quoted s)) := by
  have read := readText_written s []
  rw [List.append_nil] at read
  obtain ⟨used, closed, whole⟩ := (quotes_readText read).passes
  rw [List.append_nil] at whole
  rwa [utf8_quoted, whole]

theorem isClosed_byteText (b : UInt8) : IsClosed (byteText b) :=
  isClosed_of_plain fun d m => isPlain_of_isDigit d ((numeral_byteText b).digits d m)

theorem Blank.isClosed {blanks : Bytes} (blank : Blank blanks) : IsClosed blanks :=
  isClosed_of_plain fun b m => isPlain_of_isSpace b (blank b m)

variable {opening closing : Char} {part : List Char} {parts : List (List Char)}

theorem isClosed_flatMap {lead : List Char} (closedLead : IsClosed (utf8 lead))
    (closed : ∀ part ∈ parts, IsClosed (utf8 part)) :
    IsClosed (utf8 (parts.flatMap fun p => ',' :: (lead ++ p))) := by
  induction parts with
  | nil => exact .nil
  | cons part parts ih =>
    have comma : IsClosed (utf8 [',']) := rfl
    rw [List.flatMap_cons, utf8_append, ← List.singleton_append, utf8_append, utf8_append]
    refine (comma.append (closedLead.append (closed part List.mem_cons_self))).append ?_
    exact ih fun p m => closed p (List.mem_cons_of_mem part m)

/-- A written container encloses its parts. -/
theorem isEnclosed_container (marks : opening = '[' ∧ closing = ']' ∨ opening = '\x7b' ∧ closing = '\x7d')
    (layout : Layout) (level : Nat) (closed : ∀ part ∈ parts, IsClosed (utf8 part)) :
    IsEnclosed (utf8 (layout.container level opening closing parts)) := by
  have around (inner : List Char) (closed : IsClosed (utf8 inner)) :
      IsEnclosed (utf8 (opening :: (inner ++ [closing]))) := by
    rcases marks with ⟨rfl, rfl⟩ | ⟨rfl, rfl⟩
    · exact ⟨0x5B, utf8 inner, 0x5D, rfl, closed, rfl, by rw [utf8_cons, utf8_append]; rfl⟩
    · exact ⟨0x7B, utf8 inner, 0x7D, rfl, closed, rfl, by rw [utf8_cons, utf8_append]; rfl⟩
  cases parts with
  | nil => exact around [] .nil
  | cons part parts =>
    have lead (level : Nat) : IsClosed (utf8 (layout.lineBreak level)) := (blank_lineBreak layout level).isClosed
    rw [container_cons]
    simp only [← List.append_assoc]
    apply around
    rw [utf8_append, utf8_append, utf8_append]
    refine (((lead _).append (closed part List.mem_cons_self)).append ?_).append (lead _)
    exact isClosed_flatMap (lead _) fun p m => closed p (List.mem_cons_of_mem part m)

theorem isClosed_list (layout : Layout) (level : Nat) (closed : ∀ part ∈ parts, IsClosed (utf8 part)) :
    IsClosed (utf8 (layout.list level parts)) :=
  (isEnclosed_container (.inl ⟨rfl, rfl⟩) layout level closed).isClosed

theorem isClosed_colon (layout : Layout) : IsClosed (utf8 layout.colon) := by cases layout <;> rfl

end Json

namespace Record

theorem isEnclosed_writeAt (layout : Layout) (level : Nat) (r : Record) :
    IsEnclosed (utf8 (r.writeAt layout level)) := by
  have member {key : String} {value : List Char} (closed : IsClosed (utf8 value)) :
      IsClosed (utf8 (quoted key ++ layout.colon ++ value)) := by
    rw [utf8_append, utf8_append]
    exact ((isClosed_quoted key).append (isClosed_colon layout)).append closed
  have header (h : String × String) :
      IsClosed (utf8 (layout.list (level + 2) [quoted h.1, quoted h.2])) := by
    apply isClosed_list
    simp only [List.forall_mem_cons]
    exact ⟨isClosed_quoted h.1, isClosed_quoted h.2, by simp⟩
  have headers : IsClosed (utf8 (layout.list (level + 1)
      (r.headers.map fun h => layout.list (level + 2) [quoted h.1, quoted h.2]))) := by
    apply isClosed_list
    exact List.forall_mem_map.mpr fun h _ => header h
  have body : IsClosed (utf8 (layout.list (level + 1) (r.body.map fun b => Nat.toDigits 10 b.toNat))) := by
    apply isClosed_list
    exact List.forall_mem_map.mpr fun b _ => isClosed_byteText b
  rw [writeAt, Layout.object]
  apply isEnclosed_container (.inr ⟨rfl, rfl⟩)
  simp only [List.map_cons, List.map_nil, List.forall_mem_cons]
  exact ⟨member (isClosed_quoted r.method), member (isClosed_quoted r.uri), member headers, member body,
    by simp⟩

/-! ### Readers of records -/

variable {s rest : Bytes} {n : Nat}

theorem isLevel_readBody : IsLevel readBody := by
  intro s rest body read
  unfold readBody at read
  split at read
  · cases read
  · next opened => exact .of_skipSpace opened (runs_readRaw read).leads
  · next after opened =>
    refine .of_skipSpace opened ((Leads.opening rfl after).trans ?_)
    exact leads_readAll (fun read => .of_passes (passes_readByte read)) read
  · exact (not_ok_of_refuse read).elim

theorem isLevel_readString : IsLevel readString := fun read => .of_passes (passes_readString read)

theorem isLevel_readHeader : IsLevel readHeader := by
  intro s rest header read
  unfold readHeader at read
  dsimp only at read
  split at read
  · cases read
  · next after opened =>
    obtain ⟨⟨name, _⟩, first, read⟩ := exists_of_bind read
    obtain ⟨⟨value, _⟩, second, read⟩ := exists_of_bind read
    obtain ⟨_, closed, read⟩ := exists_of_bind read
    obtain ⟨_, rfl⟩ := Prod.mk.inj (Except.ok.inj read)
    refine .of_skipSpace opened ((Leads.opening rfl after).trans ?_)
    exact (leads_readPart isLevel_readString first).trans
      ((leads_readPart isLevel_readString second).trans (leads_closeList closed))
  · exact (not_ok_of_refuse read).elim

theorem isLevel_readHeaders : IsLevel readHeaders := isLevel_readListOf isLevel_readHeader _

theorem leads_readField {α : Type} {item : Reader α} {name : String} {seen : Option α} {x : α}
    (level : IsLevel item) (read : readField name seen item s = .ok (x, rest)) : Leads 0 0 s rest := by
  unfold readField at read
  split at read
  · cases read
  · obtain ⟨_, colon, read⟩ := exists_of_bind read
    exact (Leads.of_passes (passes_readColon colon)).trans (level read)

theorem leads_readMember {f g : Fields} {key : String} (read : f.readMember key s = .ok (g, rest)) :
    Leads 0 0 s rest := by
  unfold Fields.readMember at read
  split at read
  · obtain ⟨⟨_, _⟩, field, read⟩ := exists_of_bind read
    obtain ⟨_, rfl⟩ := Prod.mk.inj (Except.ok.inj read)
    exact leads_readField isLevel_readString field
  · obtain ⟨⟨_, _⟩, field, read⟩ := exists_of_bind read
    obtain ⟨_, rfl⟩ := Prod.mk.inj (Except.ok.inj read)
    exact leads_readField isLevel_readString field
  · obtain ⟨⟨_, _⟩, field, read⟩ := exists_of_bind read
    obtain ⟨_, rfl⟩ := Prod.mk.inj (Except.ok.inj read)
    exact leads_readField isLevel_readHeaders field
  · obtain ⟨⟨_, _⟩, field, read⟩ := exists_of_bind read
    obtain ⟨_, rfl⟩ := Prod.mk.inj (Except.ok.inj read)
    exact leads_readField isLevel_readBody field
  · obtain ⟨_, colon, read⟩ := exists_of_bind read
    obtain ⟨_, value, read⟩ := exists_of_bind read
    obtain ⟨_, rfl⟩ := Prod.mk.inj (Except.ok.inj read)
    exact (Leads.of_passes (passes_readColon colon)).trans (leads_skipValue value)

/-- The members are passed one after another, up to the mark that closes the object. -/
theorem leads_readFields {fuel : Nat} {first : Bool} {f g : Fields}
    (read : readFields fuel first f s = .ok (g, rest)) : Leads 1 0 s rest := by
  induction fuel generalizing first f s with
  | zero => cases read
  | succ fuel ih =>
    unfold readFields at read
    obtain ⟨⟨more, after⟩, key, read⟩ := exists_of_bind read
    have passed := leads_nextKey key
    cases more with
    | false =>
      obtain ⟨_, rfl⟩ := Prod.mk.inj (Except.ok.inj read)
      exact passed 0
    | true =>
      obtain ⟨⟨name, _⟩, named, read⟩ := exists_of_bind read
      obtain ⟨⟨next, _⟩, member, read⟩ := exists_of_bind read
      refine (Leads.of_passes (passed.trans (quotes_readText named).passes)).trans ?_
      exact (leads_readMember member).within.trans (ih read)

theorem isLevel_readRecord : IsLevel readRecord := by
  intro s rest r read
  unfold readRecord at read
  dsimp only at read
  split at read
  · cases read
  · next after opened =>
    obtain ⟨⟨method, _⟩, first, read⟩ := exists_of_bind read
    obtain ⟨⟨uri, _⟩, second, read⟩ := exists_of_bind read
    obtain ⟨⟨headers, _⟩, third, read⟩ := exists_of_bind read
    obtain ⟨⟨body, _⟩, fourth, read⟩ := exists_of_bind read
    obtain ⟨_, closed, read⟩ := exists_of_bind read
    obtain ⟨_, rfl⟩ := Prod.mk.inj (Except.ok.inj read)
    refine .of_skipSpace opened ((Leads.opening rfl after).trans ?_)
    exact (leads_readPart isLevel_readString first).trans ((leads_readPart isLevel_readString second).trans
      ((leads_readPart isLevel_readHeaders third).trans ((leads_readPart isLevel_readBody fourth).trans
        (leads_closeList closed))))
  · next after opened =>
    obtain ⟨⟨fields, _⟩, members, read⟩ := exists_of_bind read
    obtain ⟨_, _, read⟩ := exists_of_bind read
    obtain ⟨_, rfl⟩ := Prod.mk.inj (Except.ok.inj read)
    exact .of_skipSpace opened ((Leads.opening rfl after).trans (leads_readFields members))
  · exact (not_ok_of_refuse read).elim

/-! ### Texts that are cut short -/

/-- Every proper prefix of the text of one record is refused as a record, and every proper prefix of the
text of a history as a list of records. A prefix may end anywhere, also inside a character. -/
theorem truncated_refused :
    (∀ (h : History) (s : Bytes), s <+: bytes h.toJson → s ≠ bytes h.toJson →
        ∃ e, Record.listOfJson s = .error e) ∧
      ∀ (r : Record) (s : Bytes), s <+: bytes r.toJson → s ≠ bytes r.toJson →
        ∃ e, Record.ofJson s = .error e := by
  constructor
  · intro h s cut proper
    have enclosed : IsEnclosed (bytes h.toJson) := by
      rw [History.toJson, listToJson, bytes, String.toList_ofList]
      apply isEnclosed_container (.inl ⟨rfl, rfl⟩)
      exact List.forall_mem_map.mpr fun r _ => (isEnclosed_writeAt .indented 1 r).isClosed
    exact exists_fault_of_prefix (isLevel_readListOf isLevel_readRecord _) ⟨_, rfl⟩ enclosed cut proper
  · intro r s cut proper
    have enclosed : IsEnclosed (bytes r.toJson) := by
      rw [toJson, bytes, String.toList_ofList]
      exact isEnclosed_writeAt .compact 0 r
    exact exists_fault_of_prefix isLevel_readRecord ⟨_, rfl⟩ enclosed cut proper

def accented : Record := ⟨"GET", "https://h/é", [], []⟩

/-- The first 34 bytes of its text end inside the last character of the URI. -/
theorem truncated_refused_inside_character :
    (bytes accented.toJson).take 34 <+: bytes accented.toJson ∧
      (bytes accented.toJson).take 34 ≠ bytes accented.toJson ∧
      ∃ e, Record.ofJson ((bytes accented.toJson).take 34) = .error e := by
  have cut : (bytes accented.toJson).take 34 <+: bytes accented.toJson := List.take_prefix 34 _
  have proper : (bytes accented.toJson).take 34 ≠ bytes accented.toJson := by decide
  exact ⟨cut, proper, truncated_refused.2 accented _ cut proper⟩

end Record

end RequestTrail
