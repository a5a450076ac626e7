import RequestTrail.History
import RequestTrail.Record.Reader
import RequestTrail.Proofs.Json.Written

/-! Records from the texts that are written for them. A record is read member by member, and each member
fills the one field that it names. -/
namespace RequestTrail

open Text Json

namespace Record

variable {α : Type} {item : Reader α} {text rest blanks : Bytes} {f g : Fields} {x : α}

theorem reads_header_of_parts {name value : String} (parts : Parts readString true text [name, value]) :
    Reads readHeader (0x5B :: text) (name, value) := by
  refine ⟨⟨_, _, rfl, by decide, by decide⟩, fun {blanks rest} blank _ => ?_⟩
  rw [List.cons_append, readHeader, skipSpace_cons blank (by decide)]
  cases parts with
  | first blank₁ first more =>
    have stops := more.stops rest
    cases more with
    | next blank₂ blank₃ second more =>
      have stops' := more.stops rest
      cases more with
      | close blank₄ =>
        simp only [List.append_assoc, List.cons_append, List.nil_append] at stops stops' ⊢
        simp only [readPart_of_next 0 (readNext_first blank₁ first stops),
          readPart_of_next 1 (readNext_next blank₂ blank₃ second stops'), bind, Except.bind,
          closeList_close blank₄, pure, Except.pure]

theorem reads_header (layout : Layout) (level : Nat) (h : String × String) :
    Reads readHeader (utf8 (layout.list level [quoted h.1, quoted h.2])) h := by
  obtain ⟨text, written, parts⟩ := parts_list reads_string layout level [h.1, h.2]
  have both : [h.1, h.2].map quoted = [quoted h.1, quoted h.2] := rfl
  rw [← both, written]
  exact reads_header_of_parts parts

theorem reads_headers (layout : Layout) (level : Nat) (headers : List (String × String)) :
    Reads readHeaders (utf8 (layout.list level
      (headers.map fun h => layout.list (level + 1) [quoted h.1, quoted h.2]))) headers :=
  reads_list (reads_header layout (level + 1)) layout level headers _

theorem reads_body_of_parts {body : Bytes} (parts : Parts readByte true text body) :
    Reads readBody (0x5B :: text) body := by
  refine ⟨⟨_, _, rfl, by decide, by decide⟩, fun {blanks rest} blank _ => ?_⟩
  rw [List.cons_append, readBody, skipSpace_cons blank (by decide)]
  exact parts.readAll (by simp; omega) rest

theorem reads_body (layout : Layout) (level : Nat) (body : Bytes) :
    Reads readBody (utf8 (layout.list level (body.map fun b => Nat.toDigits 10 b.toNat))) body := by
  obtain ⟨text, written, parts⟩ := parts_list reads_byte layout level body
  rw [written]
  exact reads_body_of_parts parts

/-- A member that takes the fields seen before it to those seen after it. -/
def Fills (f : Fields) (text : Bytes) (g : Fields) : Prop :=
  ∃ key name value, text = 0x22 :: (name ++ value) ∧
    (∀ rest, readText (name ++ rest) = .ok (key, rest)) ∧
    ∀ {rest}, Stops rest → f.readMember key (value ++ rest) = .ok (g, rest)

/-- What follows the opening mark of a record, or a member of it, up to the closing mark. -/
inductive Members : (first : Bool) → Fields → Bytes → Fields → Prop where
  | close {first : Bool} {blanks : Bytes} {f : Fields} : Blank blanks →
      Members first f (blanks ++ [0x7D]) f
  | first {blanks text more : Bytes} {f g h : Fields} : Blank blanks → Fills f text g →
      Members false g more h → Members true f (blanks ++ (text ++ more)) h
  | next {blanks blanks' text more : Bytes} {f g h : Fields} : Blank blanks → Blank blanks' →
      Fills f text g → Members false g more h →
      Members false f (blanks ++ 0x2C :: (blanks' ++ (text ++ more))) h

theorem nextKey_close (first : Bool) (blank : Blank blanks) (rest : Bytes) :
    nextKey first (blanks ++ 0x7D :: rest) = .ok (false, rest) := by
  rw [nextKey, skipSpace_cons blank (by decide)]
  rfl

theorem nextKey_first (blank : Blank blanks) (rest : Bytes) :
    nextKey true (blanks ++ 0x22 :: rest) = .ok (true, rest) := by
  rw [nextKey, skipSpace_cons blank (by decide)]
  rfl

theorem nextKey_next {blanks' : Bytes} (blank : Blank blanks) (blank' : Blank blanks')
    (rest : Bytes) :
    nextKey false (blanks ++ 0x2C :: (blanks' ++ 0x22 :: rest)) = .ok (true, rest) := by
  rw [nextKey, skipSpace_cons blank (by decide)]
  simp [skipSpace_cons blank' (b := 0x22) rfl]

theorem Members.stops (members : Members false f text g) (rest : Bytes) : Stops (text ++ rest) := by
  cases members with
  | close blank =>
    rw [List.append_assoc]
    exact .blank_append blank (.mark (by decide) _)
  | next blank =>
    rw [List.append_assoc]
    exact .blank_append blank (.mark (by decide) _)

theorem Fills.length_pos (fills : Fills f text g) : 0 < text.length := by
  obtain ⟨key, name, value, rfl, _⟩ := fills
  exact Nat.succ_pos _

theorem Fills.readFields_succ (fills : Fills f text g) {s : Bytes} {first : Bool}
    (next : ∀ inner, text = 0x22 :: inner → nextKey first s = .ok (true, inner ++ rest))
    (stops : Stops rest) (fuel : Nat) :
    readFields (fuel + 1) first f s = readFields fuel false g rest := by
  obtain ⟨key, name, value, rfl, readKey, readMember⟩ := fills
  rw [readFields, next _ rfl, List.append_assoc]
  simp only [bind, Except.bind]
  rw [readKey]
  simp only [readMember stops]

/-- Every member takes a byte, so a round for each byte is enough. -/
theorem Members.readFields {first : Bool} (members : Members first f text g) {fuel : Nat}
    (enough : text.length ≤ fuel) (rest : Bytes) :
    readFields fuel first f (text ++ rest) = .ok (g, rest) := by
  induction members generalizing fuel with
  | close blank =>
    cases fuel with
    | zero => simp at enough
    | succ fuel =>
      rw [List.append_assoc, Record.readFields, List.singleton_append, nextKey_close _ blank]
      rfl
  | first blank fills more ih =>
    have size := fills.length_pos
    cases fuel with
    | zero => simp only [List.length_append] at enough; omega
    | succ fuel =>
      rw [List.append_assoc, List.append_assoc, fills.readFields_succ _ (more.stops rest)]
      · exact ih (by simp only [List.length_append] at enough; omega)
      · rintro inner rfl
        exact nextKey_first blank _
  | next blank blank' fills more ih =>
    cases fuel with
    | zero => simp at enough
    | succ fuel =>
      rw [List.append_assoc, List.cons_append, List.append_assoc, List.append_assoc,
        fills.readFields_succ _ (more.stops rest)]
      · exact ih (by simp at enough; omega)
      · rintro inner rfl
        exact nextKey_next blank blank' _

/-- Members that fill one after another. -/
inductive FillsAll : Fields → List (List Char) → Fields → Prop where
  | nil {f : Fields} : FillsAll f [] f
  | cons {f g h : Fields} {part : List Char} {parts : List (List Char)} : Fills f (utf8 part) g →
      FillsAll g parts h → FillsAll f (part :: parts) h

theorem members_after {parts : List (List Char)} (fills : FillsAll f parts g) (layout : Layout)
    (level : Nat) :
    Members false f
      (utf8 (parts.flatMap (fun p => ',' :: (layout.lineBreak (level + 1) ++ p)) ++
        (layout.lineBreak level ++ ['}']))) g := by
  induction fills with
  | nil =>
    rw [List.flatMap_nil, List.nil_append, utf8_append]
    exact .close (blank_lineBreak layout level)
  | cons fills more ih =>
    have next := Members.next Blank.nil (blank_lineBreak layout (level + 1)) fills ih
    have comma : String.utf8EncodeChar ',' = [0x2C] := rfl
    simpa only [List.flatMap_cons, List.cons_append, List.append_assoc, utf8_cons, utf8_append,
      comma, List.nil_append] using next

/-- A written object is an opening mark and members. -/
theorem members_object {part : List Char} {parts : List (List Char)}
    (fills : FillsAll f (part :: parts) g) (layout : Layout) (level : Nat) :
    ∃ text, utf8 (layout.container level '{' '}' (part :: parts)) = 0x7B :: text ∧
      Members true f text g := by
  cases fills with
  | cons fills more =>
    refine ⟨_, ?_, .first (blank_lineBreak layout (level + 1)) fills (members_after more layout level)⟩
    rw [container_cons, utf8_cons, utf8_append, utf8_append]
    rfl

theorem blank_after_colon (layout : Layout) :
    ∃ blanks, Blank blanks ∧ utf8 layout.colon = 0x3A :: blanks := by
  cases layout with
  | compact => exact ⟨[], Blank.nil, rfl⟩
  | indented => exact ⟨[0x20], by intro b m; rw [List.mem_singleton.mp m]; rfl, rfl⟩

/-- A written member fills what its key says, if the value is read and the field was not seen. -/
theorem fills_written {key : String} {value : List Char} (layout : Layout)
    (reads : Reads item (utf8 value) x)
    (member : ∀ {s rest}, readField key none item s = .ok (x, rest) → f.readMember key s = .ok (g, rest)) :
    Fills f (utf8 (quoted key ++ layout.colon ++ value)) g := by
  obtain ⟨blanks, blank, colon⟩ := blank_after_colon layout
  refine ⟨key, utf8 (key.toList.flatMap escapeChar ++ ['"']), 0x3A :: (blanks ++ utf8 value), ?_,
    readText_written key, fun stops => member ?_⟩
  · rw [utf8_append, utf8_append, colon, utf8_quoted, List.append_assoc, List.cons_append,
      List.cons_append]
  · rw [List.cons_append, List.append_assoc]
    exact reads.read blank stops

/-- The members that are written for a record fill all its fields. -/
theorem fillsAll_written (r : Record) (layout : Layout) (level : Nat) :
    FillsAll {}
      [quoted "method" ++ layout.colon ++ quoted r.method,
        quoted "uri" ++ layout.colon ++ quoted r.uri,
        quoted "headers" ++ layout.colon ++ layout.list level
          (r.headers.map fun h => layout.list (level + 1) [quoted h.1, quoted h.2]),
        quoted "body" ++ layout.colon ++ layout.list level
          (r.body.map fun b => Nat.toDigits 10 b.toNat)]
      ⟨some r.method, some r.uri, some r.headers, some r.body⟩ := by
  have method : Fills {} (utf8 (quoted "method" ++ layout.colon ++ quoted r.method))
      ⟨some r.method, none, none, none⟩ := by
    refine fills_written layout (reads_string r.method) fun read => ?_
    simp only [Fields.readMember, read, bind, Except.bind, pure, Except.pure]
  have uri : Fills ⟨some r.method, none, none, none⟩
      (utf8 (quoted "uri" ++ layout.colon ++ quoted r.uri))
      ⟨some r.method, some r.uri, none, none⟩ := by
    refine fills_written layout (reads_string r.uri) fun read => ?_
    simp only [Fields.readMember, read, bind, Except.bind, pure, Except.pure]
  have headers : Fills ⟨some r.method, some r.uri, none, none⟩
      (utf8 (quoted "headers" ++ layout.colon ++ layout.list level
        (r.headers.map fun h => layout.list (level + 1) [quoted h.1, quoted h.2])))
      ⟨some r.method, some r.uri, some r.headers, none⟩ := by
    refine fills_written layout (reads_headers layout level r.headers) fun read => ?_
    simp only [Fields.readMember, read, bind, Except.bind, pure, Except.pure]
  have body : Fills ⟨some r.method, some r.uri, some r.headers, none⟩
      (utf8 (quoted "body" ++ layout.colon ++ layout.list level
        (r.body.map fun b => Nat.toDigits 10 b.toNat)))
      ⟨some r.method, some r.uri, some r.headers, some r.body⟩ := by
    refine fills_written layout (reads_body layout level r.body) fun read => ?_
    simp only [Fields.readMember, read, bind, Except.bind, pure, Except.pure]
  exact .cons method (.cons uri (.cons headers (.cons body .nil)))

theorem reads_record_of_members {r : Record}
    (members : Members true {} text ⟨some r.method, some r.uri, some r.headers, some r.body⟩) :
    Reads readRecord (0x7B :: text) r := by
  refine ⟨⟨_, _, rfl, by decide, by decide⟩, fun {blanks rest} blank _ => ?_⟩
  have read : readFields ((text ++ rest).length + 1) true {} (text ++ rest) = .ok (_, rest) :=
    members.readFields (by simp; omega) rest
  rw [List.cons_append, readRecord, skipSpace_cons blank (by decide)]
  simp only [read, bind, Except.bind]
  rfl

/-- What is written for a record is read as the record, in both layouts and at every level. -/
theorem reads_record (layout : Layout) (level : Nat) (r : Record) :
    Reads readRecord (utf8 (r.writeAt layout level)) r := by
  obtain ⟨text, written, members⟩ :=
    members_object (fillsAll_written r layout (level + 1)) layout level
  have read := reads_record_of_members members
  rw [← written] at read
  exact read

theorem readDocument_of_reads (reads : Reads item text x) : readDocument item text = .ok x := by
  have read : item (text ++ []) = .ok (x, []) :=
    reads.of_rest fun b m => absurd m (Option.not_mem_none b)
  rw [List.append_nil] at read
  simp only [readDocument, read, bind, Except.bind]
  rfl

/-- The text of one record is read as that record, and the text of a history as its records in their
order. -/
theorem ofJson_toJson :
    (∀ r : Record, Record.ofJson (bytes r.toJson) = .ok r) ∧
      ∀ h : History, Record.listOfJson (bytes h.toJson) = .ok h.records := by
  refine ⟨fun r => ?_, fun h => ?_⟩
  · rw [toJson, bytes, String.toList_ofList]
    exact readDocument_of_reads (reads_record .compact 0 r)
  · rw [History.toJson, listToJson, bytes, String.toList_ofList]
    exact readDocument_of_reads (reads_list (reads_record .indented 1) .indented 0 h.records _)

end Record

end RequestTrail
