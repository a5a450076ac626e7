import RequestTrail.Proofs.Json.Skipped
import RequestTrail.Proofs.Record.Json

/-! Every shape of a record is read as the record. A shape is an object with the four fields in any order
among other members, or the list of the four, with any gaps. A string may have any of its spellings, and
a body that is a text may be a string. -/
namespace RequestTrail

open Text

namespace Json

variable {α : Type} {item : Reader α} {form : α → List Char → Prop} {xs : List α} {s : String}
variable {core padded text : List Char} {x : α}

/-- A string in one of its spellings. -/
def IsText (s : String) (text : List Char) : Prop := ∃ written, Spells written s.toList ∧ text = quote written

/-- A list of parts, each with gaps around it. -/
def IsListOf (form : α → List Char → Prop) (xs : List α) (text : List Char) : Prop :=
  Encloses '[' ']' (fun x padded => ∃ core, form x core ∧ Padded core padded) xs text

theorem IsText.reads (form : IsText s text) : Reads readString (utf8 text) s := by
  obtain ⟨written, spelled, rfl⟩ := form
  refine ⟨⟨_, _, utf8_quote written, rfl, by decide⟩, fun {blanks rest} blank _ => ?_⟩
  rw [utf8_quote, List.cons_append, List.append_assoc, readString, skipSpace_cons blank rfl]
  apply (readText_spelled spelled rest).trans
  rw [String.ofList_toList]

theorem Separated.single {part : α → List Char → Prop} (separated : Separated part [x] text) : part x text := by
  cases separated with
  | last found => exact found
  | next _ none => cases none

theorem Separated.cons {part : α → List Char → Prop} {y : α} (separated : Separated part (x :: y :: xs) text) :
    ∃ padded more, part x padded ∧ Separated part (y :: xs) more ∧ text = padded ++ ',' :: more := by
  cases separated with
  | next found more => exact ⟨_, _, found, more, rfl⟩

/-- The gap behind a part is left to what follows the part. -/
theorem Separated.parts {inner : List Char}
    (separated : Separated (fun x padded => ∃ core, form x core ∧ Padded core padded) xs inner)
    (reads : ∀ x core, form x core → Reads item (utf8 core) x) :
    Parts item true (utf8 inner ++ [0x5D]) xs ∧
      ∀ blanks, Blank blanks → Parts item false (blanks ++ 0x2C :: (utf8 inner ++ [0x5D])) xs := by
  have part {x : α} {xs : List α} {padded : List Char} {more : Bytes}
      (found : ∃ core, form x core ∧ Padded core padded)
      (follows : ∀ blanks, Blank blanks → Parts item false (blanks ++ more) xs) :
      Parts item true (utf8 padded ++ more) (x :: xs) ∧
        ∀ blanks, Blank blanks → Parts item false (blanks ++ 0x2C :: (utf8 padded ++ more)) (x :: xs) := by
    obtain ⟨core, form, left, right, gapLeft, gapRight, rfl⟩ := found
    have after := follows _ (blank_utf8 gapRight)
    simp only [utf8_append, List.append_assoc]
    exact ⟨.first (blank_utf8 gapLeft) (reads x core form) after,
      fun blanks blank => .next blank (blank_utf8 gapLeft) (reads x core form) after⟩
  induction separated with
  | last found => exact part found fun blanks blank => .close blank
  | next found _ ih =>
    rw [utf8_append, List.append_assoc]
    exact part found ih.2

theorem IsListOf.parts (list : IsListOf form xs text)
    (reads : ∀ x core, form x core → Reads item (utf8 core) x) :
    ∃ inner, utf8 text = 0x5B :: inner ∧ Parts item true inner xs := by
  obtain ⟨inner, rfl, closes⟩ := list
  refine ⟨utf8 inner ++ [0x5D], congrArg (0x5B :: ·) (utf8_closing .list ']' rfl inner), ?_⟩
  rcases closes with ⟨rfl, gap⟩ | separated
  · exact .close (blank_utf8 gap)
  · exact (separated.parts reads).1

theorem IsListOf.reads (list : IsListOf form xs text)
    (reads : ∀ x core, form x core → Reads item (utf8 core) x) (expected : String) :
    Reads (readListOf item expected) (utf8 text) xs := by
  obtain ⟨inner, written, parts⟩ := list.parts reads
  rw [written]
  exact parts.reads expected

/-- A part is read as the first one, or behind a comma. Its gap is left. -/
theorem Padded.readPart (padding : Padded core padded) (reads : Reads item (utf8 core) x) :
    ∃ gap, Blank gap ∧ ∀ {mark : UInt8}, mark = 0x2C ∨ mark = 0x5D → ∀ rest expected,
      readPart item 0 expected (utf8 padded ++ mark :: rest) = .ok (x, gap ++ mark :: rest) ∧
        ∀ index {blanks}, (index == 0) = false → Blank blanks →
          readPart item index expected (blanks ++ 0x2C :: (utf8 padded ++ mark :: rest)) =
            .ok (x, gap ++ mark :: rest) := by
  obtain ⟨left, right, gapLeft, gapRight, rfl⟩ := padding
  refine ⟨utf8 right, blank_utf8 gapRight, fun {mark} closes rest expected => ?_⟩
  have stops : Stops (utf8 right ++ mark :: rest) :=
    .blank_append (blank_utf8 gapRight) (.mark (closes.imp_right .inl) rest)
  simp only [utf8_append, List.append_assoc]
  refine ⟨readPart_of_next 0 (readNext_first (blank_utf8 gapLeft) reads stops) expected, ?_⟩
  intro index blanks later blank
  apply readPart_of_next
  rw [later]
  exact readNext_next blank (blank_utf8 gapLeft) reads stops

/-- A document may have gaps around its value. -/
theorem readDocument_of_padded (reads : Reads item (utf8 core) x) (padding : Padded core text) :
    readDocument item (utf8 text) = .ok x := by
  obtain ⟨left, right, gapLeft, gapRight, rfl⟩ := padding
  have blank : Blank (utf8 right) := blank_utf8 gapRight
  have stops : Stops (utf8 right) := by
    intro b m
    exact .inl (blank b (List.mem_of_mem_head? m))
  have ends : skipSpace (utf8 right) = [] := List.dropWhile_eq_nil_iff.mpr blank
  rw [utf8_append, utf8_append, readDocument, reads.read (blank_utf8 gapLeft) stops]
  simp only [bind, Except.bind, ends]
  rfl

end Json

namespace Record

open Json

variable {r : Record} {key : String} {keys : List String} {core text : List Char}

def IsHeader (h : String × String) (text : List Char) : Prop := IsListOf IsText [h.1, h.2] text

/-- The numbers of the bytes, or a string whose bytes they are. -/
def IsBody (body : Bytes) (text : List Char) : Prop :=
  IsListOf (fun b digits => digits = Nat.toDigits 10 b.toNat) body text ∨
    ∃ s : String, body = bytes s ∧ IsText s text

/-- The names of the fields, in the order of a list. -/
def fieldNames : List String := ["method", "uri", "headers", "body"]

/-- What may stand under a key of the record. Under a name that is not of a field it is any value. -/
def Holds (r : Record) (key : String) (text : List Char) : Prop :=
  match key with
  | "method" => IsText r.method text
  | "uri" => IsText r.uri text
  | "headers" => IsListOf IsHeader r.headers text
  | "body" => IsBody r.body text
  | _ => IsJson text

/-- An object with each field once, and any other members. -/
def IsObject (r : Record) (text : List Char) : Prop :=
  ∃ members, Encloses '\x7b' '\x7d' (IsMember fun _ => True) members text ∧
    (∀ m ∈ members, r.Holds m.1 m.2) ∧ ∀ name ∈ fieldNames, (members.map Prod.fst).count name = 1

/-- One of the texts that mean the record. -/
def IsShape (r : Record) (text : List Char) : Prop := r.IsObject text ∨ IsListOf r.Holds fieldNames text

/-! ### The values of the fields -/

theorem IsHeader.reads {h : String × String} (form : IsHeader h text) : Reads readHeader (utf8 text) h := by
  obtain ⟨inner, written, parts⟩ := IsListOf.parts form fun _ _ part => part.reads
  rw [written]
  exact reads_header_of_parts parts

theorem reads_headers_of_list {headers : List (String × String)} (form : IsListOf IsHeader headers text) :
    Reads readHeaders (utf8 text) headers :=
  form.reads (fun _ _ header => header.reads) "a sequence"

theorem IsBody.reads {body : Bytes} (form : IsBody body text) : Reads readBody (utf8 text) body := by
  rcases form with numbers | ⟨s, rfl, written, spelled, rfl⟩
  · obtain ⟨inner, written, parts⟩ := numbers.parts (fun b core digits => by
      rw [digits]
      exact reads_byte b)
    rw [written]
    exact reads_body_of_parts parts
  · refine ⟨⟨_, _, utf8_quote written, rfl, by decide⟩, fun {blanks rest} blank _ => ?_⟩
    rw [utf8_quote, List.cons_append, List.append_assoc, readBody, skipSpace_cons blank rfl]
    exact readRaw_spelled spelled rest

/-! ### Lists -/

/-- The four values are read one after another. -/
theorem reads_record_of_list (list : IsListOf r.Holds fieldNames text) : Reads readRecord (utf8 text) r := by
  obtain ⟨inner, rfl, ⟨same, _⟩ | separated⟩ := list
  · cases same
  obtain ⟨p₁, _, ⟨method, methodForm, pad₁⟩, more₁, rfl⟩ := separated.cons
  obtain ⟨p₂, _, ⟨uri, uriForm, pad₂⟩, more₂, rfl⟩ := more₁.cons
  obtain ⟨p₃, p₄, ⟨headers, headersForm, pad₃⟩, more₃, rfl⟩ := more₂.cons
  obtain ⟨body, bodyForm, pad₄⟩ := more₃.single
  have bytes (rest : Bytes) :
      utf8 ('[' :: (p₁ ++ ',' :: (p₂ ++ ',' :: (p₃ ++ ',' :: p₄)) ++ [']'])) ++ rest =
      0x5B :: (utf8 p₁ ++ 0x2C :: (utf8 p₂ ++ 0x2C :: (utf8 p₃ ++ 0x2C :: (utf8 p₄ ++ 0x5D :: rest)))) := by
    have comma : String.utf8EncodeChar ',' = [0x2C] := rfl
    simp only [utf8_append, utf8_cons, comma, List.append_assoc, List.cons_append, List.nil_append]
    rfl
  refine ⟨⟨_, _, utf8_cons _ _, by decide, by decide⟩, fun {blanks rest} blank _ => ?_⟩
  obtain ⟨gap₁, blank₁, first⟩ := pad₁.readPart (IsText.reads methodForm)
  obtain ⟨gap₂, blank₂, second⟩ := pad₂.readPart (IsText.reads uriForm)
  obtain ⟨gap₃, blank₃, third⟩ := pad₃.readPart (reads_headers_of_list headersForm)
  obtain ⟨gap₄, blank₄, fourth⟩ := pad₄.readPart (IsBody.reads bodyForm)
  rw [bytes, readRecord, skipSpace_cons blank rfl]
  simp only [(first (.inl rfl) _ _).1, (second (.inl rfl) _ _).2 1 rfl blank₁,
    (third (.inl rfl) _ _).2 2 rfl blank₂, (fourth (.inr rfl) _ _).2 3 rfl blank₃, closeList_close blank₄, bind,
    Except.bind]
  rfl

/-! ### Objects -/

/-- The fields of the record that were seen under the keys. -/
def shown (r : Record) (keys : List String) : Fields where
  method := if "method" ∈ keys then some r.method else none
  uri := if "uri" ∈ keys then some r.uri else none
  headers := if "headers" ∈ keys then some r.headers else none
  body := if "body" ∈ keys then some r.body else none

theorem shown_of_other (other : key ∉ fieldNames) : r.shown (keys ++ [key]) = r.shown keys := by
  have same : ∀ name ∈ fieldNames, (name ∈ keys ++ [key] ↔ name ∈ keys) := by
    intro name m
    have differs : name ≠ key := fun same => other (same ▸ m)
    simp [differs]
  simp only [fieldNames, List.forall_mem_cons] at same
  obtain ⟨method, uri, headers, body, _⟩ := same
  simp only [shown, method, uri, headers, body]

/-- A value under its key fills the field of the key, if that is new. -/
theorem readMember_of_holds {value right gap : List Char} {rest : Bytes} (holds : r.Holds key value)
    (new : key ∈ fieldNames → key ∉ keys) (gapRight : IsGap right) (gapValue : IsGap gap) (stops : Stops rest) :
    (r.shown keys).readMember key (utf8 right ++ 0x3A :: (utf8 gap ++ (utf8 value ++ rest))) =
      .ok (r.shown (keys ++ [key]), rest) := by
  have colon : readColon (utf8 right ++ 0x3A :: (utf8 gap ++ (utf8 value ++ rest))) =
      .ok (utf8 gap ++ (utf8 value ++ rest)) := by
    rw [readColon, skipSpace_cons (blank_utf8 gapRight) rfl]
    rfl
  have field {α : Type} {item : Reader α} {x : α} (reads : Reads item (utf8 value) x) :
      readField key none item (utf8 right ++ 0x3A :: (utf8 gap ++ (utf8 value ++ rest))) = .ok (x, rest) := by
    rw [readField, colon]
    exact reads.read (blank_utf8 gapValue) stops
  unfold Holds at holds
  split at holds
  case h_1 =>
    have absent := new (by decide)
    simp [Fields.readMember, shown, absent, field (IsText.reads holds), bind, Except.bind, pure, Except.pure]
  case h_2 =>
    have absent := new (by decide)
    simp [Fields.readMember, shown, absent, field (IsText.reads holds), bind, Except.bind, pure, Except.pure]
  case h_3 =>
    have absent := new (by decide)
    simp [Fields.readMember, shown, absent, field (reads_headers_of_list holds), bind, Except.bind, pure, Except.pure]
  case h_4 =>
    have absent := new (by decide)
    simp [Fields.readMember, shown, absent, field (IsBody.reads holds), bind, Except.bind, pure, Except.pure]
  case h_5 method uri headers body =>
    have other : key ∉ fieldNames := by
      simpa [fieldNames] using ⟨method, uri, headers, body⟩
    rw [Fields.readMember.eq_5 _ _ _ method uri headers body, colon, shown_of_other other]
    simp only [bind, Except.bind, holds.skipValue (blank_utf8 gapValue) stops]
    rfl

/-- A member fills its field, up to the gap behind it. -/
theorem exists_fills {m : String × List Char} {padded : List Char} (form : IsMember (fun _ => True) m padded)
    (holds : r.Holds m.1 m.2) (new : m.1 ∈ fieldNames → m.1 ∉ keys) :
    ∃ left inner right, Blank left ∧ Blank right ∧ utf8 padded = left ++ (inner ++ right) ∧
      Fills (r.shown keys) inner (r.shown (keys ++ [m.1])) := by
  obtain ⟨left, gap, written, _, gapLeft, gapKey, spelled, _, ⟨front, right, gapFront, gapRight, rfl⟩, rfl⟩ := form
  refine ⟨utf8 left, 0x22 :: ((utf8 written ++ [0x22]) ++ (utf8 gap ++ 0x3A :: (utf8 front ++ utf8 m.2))), utf8 right,
    blank_utf8 gapLeft, blank_utf8 gapRight, ?_, m.1, _, _, rfl, fun rest => ?_, fun {rest} stops => ?_⟩
  · simp only [utf8_append, utf8_quote, utf8_cons, List.append_assoc, List.cons_append, List.nil_append]
    rfl
  · rw [List.append_assoc]
    apply (readText_spelled spelled rest).trans
    rw [String.ofList_toList]
  · rw [List.append_assoc, List.cons_append, List.append_assoc]
    exact readMember_of_holds holds new gapKey gapFront stops

/-- The members of an object, in whatever order they stand. -/
theorem members_of_separated {members : List (String × List Char)} {inner : List Char}
    (separated : Separated (IsMember fun _ => True) members inner) (holds : ∀ m ∈ members, r.Holds m.1 m.2)
    (once : ∀ name ∈ fieldNames, (keys ++ members.map Prod.fst).count name ≤ 1) :
    Members true (r.shown keys) (utf8 inner ++ [0x7D]) (r.shown (keys ++ members.map Prod.fst)) ∧
      ∀ blanks, Blank blanks → Members false (r.shown keys) (blanks ++ 0x2C :: (utf8 inner ++ [0x7D]))
        (r.shown (keys ++ members.map Prod.fst)) := by
  have new {m : String × List Char} {keys more : List String}
      (once : ∀ name ∈ fieldNames, (keys ++ m.1 :: more).count name ≤ 1) : m.1 ∈ fieldNames → m.1 ∉ keys := by
    intro field seen
    have twice := once m.1 field
    rw [List.count_append, List.count_cons_self] at twice
    have := List.count_pos_iff.mpr seen
    omega
  induction separated generalizing keys with
  | @last m padded form =>
    obtain ⟨left, text, right, blankLeft, blankRight, bytes, fills⟩ := exists_fills form (holds m (.head _)) (new once)
    rw [bytes, List.append_assoc, List.append_assoc]
    exact ⟨.first blankLeft fills (.close blankRight), fun blanks blank => .next blank blankLeft fills (.close blankRight)⟩
  | @next m padded more members form _ ih =>
    obtain ⟨left, text, right, blankLeft, blankRight, bytes, fills⟩ := exists_fills form (holds m (.head _)) (new once)
    have split : keys ++ (m :: members).map Prod.fst = keys ++ [m.1] ++ members.map Prod.fst := by simp
    rw [split] at once ⊢
    have following := (ih (fun m' inside => holds m' (.tail m inside)) once).2 right blankRight
    have comma : utf8 (padded ++ ',' :: more) ++ [0x7D] = left ++ (text ++ (right ++ 0x2C :: (utf8 more ++ [0x7D]))) := by
      rw [utf8_append, bytes, utf8_cons]
      simp only [List.append_assoc]
      rfl
    rw [comma]
    exact ⟨.first blankLeft fills following, fun blanks blank => .next blank blankLeft fills following⟩

theorem reads_record_of_object (form : r.IsObject text) : Reads readRecord (utf8 text) r := by
  obtain ⟨members, ⟨inner, rfl, none | separated⟩, holds, once⟩ := form
  · have missing := once "method" (.head _)
    rw [none.1] at missing
    cases missing
  · have seen : ∀ name ∈ fieldNames, name ∈ members.map Prod.fst := by
      intro name m
      apply List.count_pos_iff.mp
      rw [once name m]
      exact Nat.one_pos
    simp only [fieldNames, List.forall_mem_cons] at seen
    obtain ⟨method, uri, headers, body, _⟩ := seen
    have filled : r.shown (members.map Prod.fst) = ⟨some r.method, some r.uri, some r.headers, some r.body⟩ := by
      simp only [shown, method, uri, headers, body, if_true]
    have fresh : ∀ name ∈ fieldNames, ([] ++ members.map Prod.fst).count name ≤ 1 := fun name m => (once name m).le
    have found := (members_of_separated separated holds fresh).1
    rw [List.nil_append, filled] at found
    have written : utf8 ('\x7b' :: (inner ++ ['\x7d'])) = 0x7B :: (utf8 inner ++ [0x7D]) :=
      congrArg (0x7B :: ·) (utf8_closing .object '\x7d' rfl inner)
    rw [written]
    exact reads_record_of_members found

/-- Whatever the order, the gaps, the spellings and the other members are, the record is read. -/
theorem ofJson_of_shape (form : r.IsShape core) (padding : Padded core text) :
    Record.ofJson (utf8 text) = .ok r := by
  apply readDocument_of_padded _ padding
  rcases form with object | list
  · exact reads_record_of_object object
  · exact reads_record_of_list list

/-- A member that no field asks for stands in front of the others, with a number that is too large, and the
body is a string. -/
def reordered : List Char :=
  ("\x7b\"size\" : [1e999] ,\"body\":\"hi\",\"headers\":[[\"a\", \"b\"]]," ++
    "\"uri\":\"/\",\"method\":\"G\\u0045T\"\x7d").toList

theorem ofJson_of_shape_reordered :
    Record.ofJson (utf8 (reordered ++ ['\n'])) = .ok ⟨"GET", "/", [("a", "b")], bytes "hi"⟩ := by
  have gap : IsGap [] := by decide
  have space : IsGap [' '] := by decide
  have plain (s : String) (form : ∀ c ∈ s.toList, c ≠ '"' ∧ c ≠ '\\' ∧ 0x20 ≤ c.toNat) : IsText s (quote s.toList) :=
    ⟨s.toList, spells_of_plain form, rfl⟩
  let r : Record := ⟨"GET", "/", [("a", "b")], bytes "hi"⟩
  have number : IsNumber "1e999".toList :=
    ⟨[], ['1'], [], "e999".toList, .inl rfl, ⟨⟨by decide, by decide⟩, by decide⟩, .inl rfl,
      .inr ⟨'e', [], "999".toList, .inl rfl, .inl rfl, ⟨by decide, by decide⟩, rfl⟩, rfl⟩
  have size : r.Holds "size" "[1e999]".toList :=
    ⟨1, .inr (.inl ⟨["1e999".toList], _, rfl, .inr (.last ⟨.number number, [], [], gap, gap, rfl⟩)⟩)⟩
  have header : IsHeader ("a", "b") "[\"a\", \"b\"]".toList :=
    ⟨_, rfl, .inr (.next ⟨_, plain "a" (by decide), [], [], gap, gap, rfl⟩
      (.last ⟨_, plain "b" (by decide), [' '], [], space, gap, rfl⟩))⟩
  have headers : r.Holds "headers" "[[\"a\", \"b\"]]".toList :=
    ⟨_, rfl, .inr (.last ⟨_, header, [], [], gap, gap, rfl⟩)⟩
  have letter : IsUnit "0045".toList 'E'.toNat := ⟨rfl, by decide⟩
  have spelled : Spells "G\\u0045T".toList "GET".toList :=
    .plain (by decide) (by decide) (by decide) (.unit letter (spells_of_plain (by decide)))
  have method : r.Holds "method" "\"G\\u0045T\"".toList := ⟨_, spelled, rfl⟩
  let member := IsMember fun _ => True
  have first : member ("size", "[1e999]".toList) "\"size\" : [1e999] ".toList :=
    ⟨[], [' '], "size".toList, _, gap, space, spells_of_plain (by decide), trivial, ⟨[' '], [' '], space, space, rfl⟩, rfl⟩
  have tight (key : String) (value : List Char) (form : ∀ c ∈ key.toList, c ≠ '"' ∧ c ≠ '\\' ∧ 0x20 ≤ c.toNat) :
      member (key, value) (quote key.toList ++ ':' :: (value ++ [])) :=
    ⟨[], [], key.toList, _, gap, gap, spells_of_plain form, trivial, ⟨[], [], gap, gap, rfl⟩, rfl⟩
  have object : r.IsShape reordered := by
    refine .inl ⟨_, ⟨_, rfl, .inr (.next first (.next (tight "body" (quote "hi".toList) (by decide))
      (.next (tight "headers" "[[\"a\", \"b\"]]".toList (by decide)) (.next (tight "uri" (quote "/".toList) (by decide))
        (.last (tight "method" "\"G\\u0045T\"".toList (by decide)))))))⟩, ?_, by decide⟩
    simp only [List.forall_mem_cons]
    exact ⟨size, .inr ⟨"hi", rfl, plain "hi" (by decide)⟩, headers, plain "/" (by decide), method, nofun⟩
  exact ofJson_of_shape object ⟨[], ['\n'], gap, by decide, rfl⟩

end Record

end RequestTrail
