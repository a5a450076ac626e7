import Mathlib.Data.List.Basic
import RequestTrail.Proofs.Multipart.Content
import RequestTrail.Proofs.Multipart.Headers
import RequestTrail.Proofs.Multipart.RoundTrip

/-! Content types with other parameters beside the boundary. Quotation marks do not keep a value together, so
what follows a semicolon in a quoted value is taken for a parameter. In front of the boundary it may be taken
for the boundary itself, and then some body has a different name. -/
namespace RequestTrail.Multipart

open Text

/-- Characters that neither separate nor quote anything. -/
structure IsToken (s : List Char) : Prop where
  nonempty : s ≠ []
  visible : ∀ c ∈ s, isBlank c = false
  whole : ∀ c ∈ s, c ∉ [';', '=', '"']

/-- What may stand between quotation marks. A mark or a backslash is written with a backslash. -/
inductive IsQuotable : List Char → Prop where
  | nil : IsQuotable []
  | plain {c : Char} {more : List Char} : c ≠ '"' → c ≠ '\\' → IsQuotable more → IsQuotable (c :: more)
  | pair {c : Char} {more : List Char} : IsQuotable more → IsQuotable ('\\' :: c :: more)

theorem isQuotable_of_plain {s : List Char} (plain : ∀ c ∈ s, c ≠ '"' ∧ c ≠ '\\') : IsQuotable s := by
  induction s with
  | nil => exact .nil
  | cons c s ih =>
    obtain ⟨mark, slash⟩ := plain c (.head s)
    exact .plain mark slash (ih fun d m => plain d (.tail c m))

inductive IsParameterValue : List Char → Prop where
  | token {s : List Char} : IsToken s → IsParameterValue s
  | quoted {s : List Char} : IsQuotable s → IsParameterValue ('"' :: (s ++ ['"']))

/-- A parameter of a content type with the blanks around it. -/
structure Parameter where
  left : List Char
  name : List Char
  value : List Char
  right : List Char
  blankLeft : ∀ c ∈ left, isBlank c = true
  token : IsToken name
  valued : IsParameterValue value
  blankRight : ∀ c ∈ right, isBlank c = true

namespace Parameter

def text (p : Parameter) : List Char := p.left ++ (p.name ++ '=' :: (p.value ++ p.right))

/-- The parameter is named boundary, in any case. -/
def IsNamed (p : Parameter) : Prop := sameName p.name "boundary".toList = true

instance (p : Parameter) : Decidable p.IsNamed :=
  inferInstanceAs (Decidable (_ = true))

/-- What is taken for a boundary behind the semicolons in a value. -/
def hidden? (p : Parameter) : Option (List Char) := (fields ';' p.text).tail.findSome? boundaryOf?

end Parameter

/-- A content type with its parameters. -/
def withParameters (kind : List Char) (parameters : List Parameter) : List Char :=
  kind ++ (parameters.map Parameter.text).flatMap (';' :: ·)

variable {r r' : Record} {kind b b' : List Char} {p : Parameter} {before after : List Parameter}

/-! ### The parameters -/

namespace Parameter

/-- The first field of a parameter is its name and what stands in front of a semicolon in its value. -/
theorem exists_fields (p : Parameter) : ∃ value others,
    fields ';' p.text = (p.left ++ (p.name ++ '=' :: value)) :: others := by
  obtain ⟨value, others, split⟩ := exists_fields_eq_cons ';' (p.value ++ p.right)
  obtain ⟨free, freeOthers, same⟩ := fields_eq_cons_iff.mp split
  have freeLeft : ';' ∉ p.left := not_mem_blanks p.blankLeft (by decide)
  have freeName : ';' ∉ p.name := fun m => p.token.whole ';' m (by decide)
  refine ⟨value, others, fields_eq_cons_iff.mpr ⟨?_, freeOthers, ?_⟩⟩
  · simp [freeLeft, freeName, free]
  · simp [text, same]

theorem boundaryOf?_field (p : Parameter) (value : List Char) :
    boundaryOf? (p.left ++ (p.name ++ '=' :: value)) =
      if sameName p.name "boundary".toList then some (trimBy (· == '"') (trim value)) else none := by
  have unassigned : '=' ∉ p.left ++ p.name := by
    rw [List.mem_append, not_or]
    exact ⟨not_mem_blanks p.blankLeft (by decide), fun m => p.token.whole '=' m (by decide)⟩
  have trimmed : trim (p.left ++ p.name) = p.name := by
    rw [trim_append_left p.blankLeft]
    exact trimBy_of_free p.token.visible
  rw [boundaryOf?, ← List.append_assoc, cutAtFirst_singleton unassigned]
  simp only [bind, Option.bind_some, trimmed]

/-- A parameter with a different name shows what it hides. -/
theorem findSome?_of_not_isNamed (other : ¬p.IsNamed) :
    (fields ';' p.text).findSome? boundaryOf? = p.hidden? := by
  obtain ⟨value, others, split⟩ := p.exists_fields
  have first : boundaryOf? (p.left ++ (p.name ++ '=' :: value)) = none := by
    rw [p.boundaryOf?_field]
    exact if_neg other
  rw [hidden?, split, List.findSome?_cons, first]
  rfl

theorem exists_of_isNamed (named : p.IsNamed) : ∃ b, (fields ';' p.text).findSome? boundaryOf? = some b := by
  obtain ⟨value, others, split⟩ := p.exists_fields
  refine ⟨trimBy (· == '"') (trim value), ?_⟩
  have first : boundaryOf? (p.left ++ (p.name ++ '=' :: value)) = some (trimBy (· == '"') (trim value)) := by
    rw [p.boundaryOf?_field]
    exact if_pos named
  rw [split, List.findSome?_cons, first]

end Parameter

theorem not_mem_kind {c : Char} (same : sameName (trim kind) "multipart/related".toList = true)
    (visible : isBlank c = false) (fixed : c.toLower = c) (absent : c ∉ lower "multipart/related".toList) :
    c ∉ kind := by
  obtain ⟨left, right, split, blankLeft, blankRight, _⟩ := exists_trim kind
  rw [split]
  simp only [List.mem_append, not_or]
  exact ⟨not_mem_blanks blankLeft visible, not_mem_of_sameName same fixed absent,
    not_mem_blanks blankRight visible⟩

/-- The first boundary among the fields of all parameters. -/
theorem boundary?_withParameters (same : sameName (trim kind) "multipart/related".toList = true)
    (parameters : List Parameter) : boundary? (withParameters kind parameters) =
      parameters.findSome? fun p => (fields ';' p.text).findSome? boundaryOf? := by
  have whole : ';' ∉ kind := not_mem_kind same (by decide) (by decide) (by decide)
  have unassigned : '=' ∉ kind := not_mem_kind same (by decide) (by decide) (by decide)
  have first : boundaryOf? kind = none := boundaryOf?_of_isOther (isOther_of_not_mem whole unassigned)
  rw [boundary?, withParameters, fields_append_flatMap_fields, fields_of_not_mem whole, List.singleton_append,
    List.findSome?_cons, first, List.flatMap_map]
  dsimp only
  rw [← List.head?_filterMap, List.filterMap_flatMap, List.head?_flatMap]
  simp only [List.head?_filterMap]

/-- What is hidden in front of the boundary is taken for it, and what follows it is not looked at. -/
theorem boundary?_eq_or (same : sameName (trim kind) "multipart/related".toList = true) (named : p.IsNamed)
    (others : ∀ other ∈ before, ¬other.IsNamed) (after : List Parameter) :
    boundary? (withParameters kind (before ++ p :: after)) =
      (before.findSome? Parameter.hidden?).or (boundary? (withParameters kind [p])) := by
  obtain ⟨b, found⟩ := Parameter.exists_of_isNamed named
  have inFront : before.findSome? (fun p => (fields ';' p.text).findSome? boundaryOf?) =
      before.findSome? Parameter.hidden? := by
    rw [← List.head?_filterMap, ← List.head?_filterMap,
      List.filterMap_congr fun other m => Parameter.findSome?_of_not_isNamed (others other m)]
  rw [boundary?_withParameters same, boundary?_withParameters same, List.findSome?_append, inFront,
    List.findSome?_cons, List.findSome?_cons, found]

/-! ### The bodies -/

/-- A body that is a text has a text as its first part. -/
theorem firstPart?_utf8 (b text : List Char) : firstPart? (delimiter b) (utf8 text) =
    (cutAtFirst (dashed b) text).map fun cut =>
      utf8 (((cutAtFirst (dashed b) cut.2).map (·.1)).getD cut.2) := by
  have inBytes (text : List Char) : cutAtFirst (delimiter b) (utf8 text) =
      (cutAtFirst (dashed b) text).map fun cut => (utf8 cut.1, utf8 cut.2) :=
    Utf8.cutAtFirst_utf8 (by decide) ('-' :: b) text
  rw [firstPart?_eq, inBytes, Option.map_map]
  congr 1
  funext cut
  simp only [Function.comp, inBytes]
  cases cutAtFirst (dashed b) cut.2 with
  | none => rfl
  | some cut => rfl

/-- What follows the opening brace of a small object. -/
def briefRest : List Char := "\"name\":\"x\"\x7d".toList

/-- Behind a delimiter without a dash after it everything is the first part. -/
theorem objectNameIn?_of_cut {text front rest : List Char}
    (cut : cutAtFirst (dashed b) text = some (front, rest)) (free : '-' ∉ rest) : objectNameIn? b (utf8 text) = (metadata? (trim rest)).bind nameTold? := by
  have last : cutAtFirst (dashed b) rest = none :=
    cutAtFirst_of_absent fun inside => free (inside.subset List.mem_cons_self)
  apply objectNameIn?_of_firstPart?
  rw [firstPart?_utf8, cut, Option.map_some]
  dsimp only
  rw [last]
  rfl

theorem objectNameIn?_own (b : List Char) :
    objectNameIn? b (utf8 (dashed b ++ '{' :: briefRest)) = some "x" := by
  have cut : cutAtFirst (dashed b) (dashed b ++ '{' :: briefRest) = some ([], '{' :: briefRest) :=
    cutAtFirst_of_prefix (List.cons_ne_nil _ _) _
  rw [objectNameIn?_of_cut cut (by decide)]
  decide +kernel

/-- A different delimiter that is not shorter is found behind the start of the object at the earliest. -/
theorem suffix_of_cut {front rest : List Char} (other : b ≠ b') (long : b'.length ≤ b.length)
    (same : dashed b' ++ '{' :: briefRest = front ++ (dashed b ++ rest)) : rest <:+ briefRest := by
  have lengths := congrArg List.length same
  simp only [dashed, List.length_append, List.length_cons] at lengths
  have inWhole : rest <:+ dashed b' ++ '{' :: briefRest := ⟨front ++ dashed b, by rw [List.append_assoc, same]⟩
  have inObject : rest <:+ '{' :: briefRest := by
    apply List.suffix_of_suffix_length_le inWhole (List.suffix_append _ _)
    rw [List.length_cons]
    omega
  rcases List.suffix_cons_iff.mp inObject with rfl | inside
  · obtain rfl : front = [] := by
      apply List.eq_nil_of_length_eq_zero
      simp only [List.length_cons] at lengths
      omega
    have heads : dashed b' = dashed b := List.append_cancel_right same
    exact absurd (List.cons.inj (List.cons.inj heads).2).2.symm other
  · exact inside

theorem objectNameIn?_other (other : b ≠ b') (long : b'.length ≤ b.length) :
    objectNameIn? b (utf8 (dashed b' ++ '{' :: briefRest)) = none := by
  cases cut : cutAtFirst (dashed b) (dashed b' ++ '{' :: briefRest) with
  | none =>
    rw [objectNameIn?, firstPart?_utf8, cut]
    rfl
  | some cuts =>
    obtain ⟨front, rest⟩ := cuts
    obtain ⟨_, same, _⟩ := cutAtFirst_eq_some_iff.mp cut
    have inRest : rest <:+ briefRest := suffix_of_cut other long same
    have free {c : Char} (absent : c ∉ briefRest) : c ∉ rest := fun m => absent (inRest.subset m)
    rw [objectNameIn?_of_cut cut (free (by decide)), metadata?_of_not_spaced]
    · rfl
    · rintro c m rfl
      exact free (by decide) ((List.dropWhile_suffix _).subset (List.mem_of_mem_head? m))
    · exact fun inside => free (by decide) (inside.subset List.mem_cons_self)
    · exact fun inside => free (by decide) (inside.subset List.mem_cons_self)

/-- Boundaries that read the same name from every body are the same. -/
theorem objectNameIn?_injective : Function.Injective objectNameIn? := by
  intro b b' same
  by_contra other
  rcases Nat.le_total b'.length b.length with long | long
  · have read := objectNameIn?_own b'
    rw [← same, objectNameIn?_other other long] at read
    cases read
  · have read := objectNameIn?_own b
    rw [same, objectNameIn?_other (Ne.symm other) long] at read
    cases read

/-! ### The name -/

/-- A request with one header. -/
def typedRequest (contentType : String) (body : Bytes) : Record where
  method := "POST"
  uri := "https://h/upload/b/x/o?uploadType=multipart"
  headers := [("Content-Type", contentType)]
  body := body

theorem header?_typedRequest (contentType : String) (body : Bytes) :
    (typedRequest contentType body).header? "content-type" = some contentType :=
  header?_of_firstHeader ⟨[], "Content-Type", [], rfl, by decide, fun _ m => absurd m List.not_mem_nil⟩

/-- Two content types of uploads read the same names exactly when they declare the same boundary. -/
theorem objectName?_eq_iff {contentType contentType' : String} (related : isRelated contentType.toList = true)
    (related' : isRelated contentType'.toList = true) (declared : boundary? contentType.toList = some b)
    (declared' : boundary? contentType'.toList = some b') :
    (∀ r r' : Record, r.header? "content-type" = some contentType →
      r'.header? "content-type" = some contentType' → r.body = r'.body → r.objectName? = r'.objectName?) ↔
    b = b' := by
  constructor
  · intro equal
    apply objectNameIn?_injective
    funext body
    have named := equal (typedRequest contentType body) (typedRequest contentType' body)
      (header?_typedRequest _ _) (header?_typedRequest _ _) rfl
    rwa [objectName?_of_boundary (header?_typedRequest _ _) declared,
      objectName?_of_boundary (header?_typedRequest _ _) declared', related, related'] at named
  · rintro rfl r r' typed typed' same
    rw [objectName?_of_boundary typed declared, objectName?_of_boundary typed' declared', related, related',
      same]

/-- The other parameters leave the name of every upload as it is with the boundary alone exactly when what is
first hidden in the values in front of the boundary, if anything is, is the same boundary. -/
theorem objectName?_eq_alone_iff (same : sameName (trim kind) "multipart/related".toList = true)
    (named : p.IsNamed) (others : ∀ other ∈ before, ¬other.IsNamed) (after : List Parameter) :
    (∀ r r' : Record,
      r.header? "content-type" = some (String.ofList (withParameters kind (before ++ p :: after))) →
      r'.header? "content-type" = some (String.ofList (withParameters kind [p])) →
      r.body = r'.body → r.objectName? = r'.objectName?) ↔
    ∀ hidden ∈ before.findSome? Parameter.hidden?, boundary? (withParameters kind [p]) = some hidden := by
  obtain ⟨b, found⟩ := Parameter.exists_of_isNamed named
  have alone : boundary? (withParameters kind [p]) = some b := by
    rw [boundary?_withParameters same, List.findSome?_cons, found]
  have related (parameters : List Parameter) :
      isRelated (String.ofList (withParameters kind parameters)).toList = true := by
    rw [String.toList_ofList]
    exact isRelated_append same _
  have alone' : boundary? (String.ofList (withParameters kind [p])).toList = some b := by
    rw [String.toList_ofList, alone]
  have declared := boundary?_eq_or same named others after
  rw [alone, ← String.toList_ofList (l := withParameters kind (before ++ p :: after))] at declared
  cases inFront : before.findSome? Parameter.hidden? with
  | none =>
    rw [inFront, Option.none_or] at declared
    rw [objectName?_eq_iff (related _) (related _) declared alone']
    simp
  | some hidden =>
    rw [inFront, Option.some_or] at declared
    rw [objectName?_eq_iff (related _) (related _) declared alone', alone]
    simp [eq_comm]

/-- A parameter with a quoted value, behind a blank. -/
def quotedParameter (name value : List Char) (token : IsToken name) (plain : ∀ c ∈ value, c ≠ '"' ∧ c ≠ '\\') :
    Parameter where
  left := [' ']
  name := name
  value := '"' :: (value ++ ['"'])
  right := []
  blankLeft := by decide
  token := token
  valued := .quoted (isQuotable_of_plain plain)
  blankRight := by decide

theorem isToken_type : IsToken "type".toList := ⟨by decide, by decide, by decide⟩

theorem isToken_boundary : IsToken "Boundary".toList := ⟨by decide, by decide, by decide⟩

def plainType : Parameter :=
  quotedParameter "type".toList "application/json; charset=UTF-8".toList isToken_type (by decide)

/-- A type that has a boundary of its own. -/
def nestedType : Parameter :=
  quotedParameter "type".toList "multipart/mixed; boundary=inner".toList isToken_type (by decide)

def quotedBoundary : Parameter := quotedParameter "Boundary".toList "abc".toList isToken_boundary (by decide)

def relatedTo (parameters : List Parameter) : String :=
  String.ofList (withParameters "multipart/related".toList parameters)

def oneObject : Bytes := utf8 "--abc\r\n\r\n\x7b\"name\":\"obj\"\x7d\r\n--abc--".toList

/-- A semicolon in a quoted value changes nothing by itself, and neither does a boundary that is hidden behind
the one that is declared. In front of it, it does. -/
theorem objectName?_eq_alone_iff_types :
    (typedRequest (relatedTo [plainType, quotedBoundary, nestedType]) oneObject).objectName? =
      (typedRequest (relatedTo [quotedBoundary]) oneObject).objectName? ∧
    ¬∀ r r' : Record, r.header? "content-type" = some (relatedTo [nestedType, quotedBoundary]) →
      r'.header? "content-type" = some (relatedTo [quotedBoundary]) → r.body = r'.body →
      r.objectName? = r'.objectName? := by
  have same : sameName (trim "multipart/related".toList) "multipart/related".toList = true := by decide +kernel
  have named : quotedBoundary.IsNamed := by decide
  constructor
  · have others : ∀ other ∈ [plainType], ¬other.IsNamed := by simpa using (by decide : ¬plainType.IsNamed)
    have nothing : [plainType].findSome? Parameter.hidden? = none := by decide +kernel
    have equal := (objectName?_eq_alone_iff same named others [nestedType]).mpr (by simp [nothing])
    exact equal _ _ (header?_typedRequest _ oneObject) (header?_typedRequest _ oneObject) rfl
  · have others : ∀ other ∈ [nestedType], ¬other.IsNamed := by simpa using (by decide : ¬nestedType.IsNamed)
    have inner : [nestedType].findSome? Parameter.hidden? = some "inner".toList := by decide +kernel
    intro equal
    have found := (objectName?_eq_alone_iff same named others []).mp equal "inner".toList inner
    exact absurd found (by decide +kernel)

/-- The boundary of the type that is told in quotation marks is looked for in the body. -/
theorem objectName?_nestedType_eq_none :
    quotedBoundary.IsNamed ∧ ¬nestedType.IsNamed ∧
      (typedRequest (relatedTo [nestedType, quotedBoundary]) oneObject).objectName? = none ∧
      (typedRequest (relatedTo [quotedBoundary]) oneObject).objectName? = some "obj" :=
  ⟨by decide, by decide, by decide +kernel, by decide +kernel⟩

end RequestTrail.Multipart
