import Mathlib.Data.List.TakeWhile
import RequestTrail.Operation
import RequestTrail.Proofs.Normalizer.Plain

/-! Reading operations from their lines. A bucket ends at a slash, an encoded name at a character that
no encoded name has, and a page token at an ampersand. What may hold any character comes last. So a
line can be read from left to right, and two operations share a line only if they differ in an
absent token against an empty one. -/
namespace RequestTrail.Operation

open Text

/-- No bucket holds a slash, and no page token an ampersand. -/
def Delimited : Operation → Prop
  | .getObject bucket _ | .getBucket bucket | .postObject bucket _ | .upload bucket _ _
  | .updateMetadata bucket _ _ | .deleteMetageneration bucket _ _
  | .deleteGenerationMatch bucket _ _ | .compose bucket _ _ => '/' ∉ bucket.toList
  | .copy sourceBucket _ targetBucket _ _ => '/' ∉ sourceBucket.toList ∧ '/' ∉ targetBucket.toList
  | .list bucket _ _ _ pageToken =>
    '/' ∉ bucket.toList ∧ ∀ token ∈ pageToken, '&' ∉ token.toList
  | .batch => True

/-- The operation with an absent generation token made an empty one. -/
def explicit : Operation → Operation
  | .deleteGenerationMatch bucket object token =>
    .deleteGenerationMatch bucket object (some (token.getD ""))
  | .compose bucket object token => .compose bucket object (some (token.getD ""))
  | op => op

theorem render_explicit (s : Service) (op : Operation) : op.explicit.render s = op.render s := by
  cases op <;> rfl

/-- What follows the opening, if the text starts with it. -/
def after? (opening s : List Char) : Option (List Char) :=
  if opening.isPrefixOf s then some (s.drop opening.length) else none

/-- What stands before the mark or the end, and the rest from there on. -/
def cutAt (mark : Char) (s : List Char) : String × List Char :=
  (String.ofList (s.takeWhile (· != mark)), s.dropWhile (· != mark))

/-- An encoded name, and the rest after it. -/
def readName? (s : List Char) : Option (String × List Char) := do
  let written ← ObjectName.decode? (s.takeWhile ObjectName.isWritten)
  let name ← Utf8.decode? written
  return (String.ofList name, s.dropWhile ObjectName.isWritten)

/-- A decimal number, with its sign in front if it is negative. -/
def readInteger (s : List Char) : Int :=
  if s.head? = some '-' then -(Nat.ofDigitChars 10 s.tail 0) else Nat.ofDigitChars 10 s 0

/-- The bucket of a path under the base, and the rest after it. -/
def readBucket? (base : String) (s : List Char) : Option (String × List Char) :=
  (after? (base ++ "/b/").toList s).map (cutAt '/')

/-- The bucket and the object of a path under the base, and the rest after them. -/
def readObject? (base : String) (s : List Char) : Option (String × String × List Char) := do
  let (bucket, rest) ← readBucket? base s
  let (object, rest) ← readName? (← after? "/o/".toList rest)
  return (bucket, object, rest)

/-- A written truth value, and the rest after it. -/
def readFlag? (s : List Char) : Option (Bool × List Char) :=
  match after? "true".toList s with
  | some rest => some (true, rest)
  | none => (after? "false".toList s).map (false, ·)

/-- The page token, if its parameter stands here, and the rest after it. -/
def readPage (s : List Char) : Option String × List Char :=
  match after? "&pageToken=".toList s with
  | some rest => (some (cutAt '&' rest).1, (cutAt '&' rest).2)
  | none => (none, s)

def readListed? (bucket : String) (s : List Char) : Option Operation := do
  let (trailingDelimiter, s) ← readFlag? s
  let (number, s) := cutAt '&' (← after? "&maxResults=".toList s)
  let (pageToken, s) := readPage s
  let under ← after? "&prefix=".toList s
  return .list bucket trailingDelimiter (String.ofList under)
    (.ofNat (Nat.ofDigitChars 10 number.toList 0)) pageToken

def readGet? (s : Service) (line : List Char) : Option Operation :=
  match readObject? s.storage line with
  | some (bucket, object, _) => some (.getObject bucket object)
  | none => do
    let (bucket, rest) ← readBucket? s.storage line
    match after? "/o?delimiter=/&includeTrailingDelimiter=".toList rest with
    | some query => readListed? bucket query
    | none => return .getBucket bucket

def readUploaded? (bucket : String) (s : List Char) : Option Operation := do
  let query ← after? "/o?".toList s
  match after? "ifGenerationMatch=0&uploadType=multipart:".toList query with
  | some object => return .upload bucket (String.ofList object) true
  | none => return .upload bucket (String.ofList (← after? "uploadType=multipart:".toList query)) false

/-- The target of a copy after the name of its form. -/
def readCopied? (bucket object : String) (s : List Char) : Option Operation :=
  match readObject? "/copyTo" s with
  | some (targetBucket, targetObject, _) =>
    some (.copy bucket object targetBucket targetObject .whole)
  | none => (readObject? "/rewriteTo" s).map fun (targetBucket, targetObject, _) =>
      .copy bucket object targetBucket targetObject .stepwise

def readPosted? (bucket object : String) (s : List Char) : Option Operation :=
  match after? "?ifMetagenerationMatch=".toList s,
    after? "/compose?ifGenerationMatch=GenerationMatch_".toList s, s with
  | some number, _, _ => some (.updateMetadata bucket object (.ofInt (readInteger number)))
  | none, some token, _ => some (.compose bucket object (some (String.ofList token)))
  | none, none, [] => some (.postObject bucket object)
  | none, none, s => readCopied? bucket object s

def readPost? (s : Service) (line : List Char) : Option Operation :=
  match readObject? s.storage line, readBucket? s.upload line with
  | some (bucket, object, rest), _ => readPosted? bucket object rest
  | none, some (bucket, rest) => readUploaded? bucket rest
  | none, none => (after? s.batch.toList line).map fun _ => .batch

def readDelete? (s : Service) (line : List Char) : Option Operation := do
  let (bucket, object, rest) ← readObject? s.storage line
  match after? "?ifMetagenerationMatch=".toList rest with
  | some number => return .deleteMetageneration bucket object (.ofInt (readInteger number))
  | none =>
    let token ← after? "?ifGenerationMatch=GenerationMatch_".toList rest
    return .deleteGenerationMatch bucket object (some (String.ofList token))

/-- The operation that has the line. -/
def ofLine? (s : Service) (line : String) : Option Operation :=
  match after? "GET:".toList line.toList, after? "POST:".toList line.toList with
  | some rest, _ => readGet? s rest
  | none, some rest => readPost? s rest
  | none, none => (after? "DELETE:".toList line.toList).bind (readDelete? s)

section Reading

variable {s rest opening : List Char} {mark : Char}

@[simp] theorem after?_append (opening rest : List Char) :
    after? opening (opening ++ rest) = some rest := by
  simp [after?, List.isPrefixOf_iff_prefix]

theorem cutAt_append {head : String} (free : mark ∉ head.toList)
    (stops : rest = [] ∨ ∃ more, rest = mark :: more) :
    cutAt mark (head.toList ++ rest) = (head, rest) := by
  have inside : ∀ c ∈ head.toList, (c != mark) = true := by
    intro c m
    simpa using fun same : c = mark => free (same ▸ m)
  have ends : ∀ c ∈ rest.head?, (c != mark) = false := by
    rcases stops with rfl | ⟨more, rfl⟩ <;> simp
  rw [cutAt, takeWhile_append_of_stops inside ends, dropWhile_append_of_stops inside ends,
    String.ofList_toList]

theorem readName?_append (name : String)
    (stops : ∀ c ∈ rest.head?, ObjectName.isWritten c = false) :
    readName? ((ObjectName.encode name).toList ++ rest) = some (name, rest) := by
  have inside : ∀ c ∈ (ObjectName.encode name).toList, ObjectName.isWritten c = true :=
    fun c m => ObjectName.isWritten_of_mem_encode m
  rw [readName?, takeWhile_append_of_stops inside stops, dropWhile_append_of_stops inside stops,
    ObjectName.decode?_encode]
  simp [bytes, Utf8.decode?_utf8]

theorem readBucket?_append (base : String) {bucket : String} (free : '/' ∉ bucket.toList)
    (stops : rest = [] ∨ ∃ more, rest = '/' :: more) :
    readBucket? base ((bucketPath base bucket).toList ++ rest) = some (bucket, rest) := by
  have path : (bucketPath base bucket).toList ++ rest =
      (base ++ "/b/").toList ++ (bucket.toList ++ rest) := by
    rw [bucketPath, String.toList_append, List.append_assoc]
  rw [readBucket?, path, after?_append]
  exact congrArg some (cutAt_append free stops)

theorem readObject?_append (base : String) {bucket : String} (object : String)
    (free : '/' ∉ bucket.toList) (stops : ∀ c ∈ rest.head?, ObjectName.isWritten c = false) :
    readObject? base ((objectPath base bucket object).toList ++ rest) =
      some (bucket, object, rest) := by
  have path : (objectPath base bucket object).toList ++ rest =
      (bucketPath base bucket).toList ++
        ("/o/".toList ++ ((ObjectName.encode object).toList ++ rest)) := by
    simp only [objectPath, String.toList_append, List.append_assoc]
  have opens : ∃ more, "/o/".toList ++ ((ObjectName.encode object).toList ++ rest) = '/' :: more :=
    ⟨_, rfl⟩
  simp only [readObject?, path, readBucket?_append base free (.inr opens), Option.bind_eq_bind,
    Option.bind_some, after?_append, readName?_append object stops]
  rfl

/-- An encoded name at the end. -/
theorem readObject?_last (base : String) {bucket : String} (object : String)
    (free : '/' ∉ bucket.toList) :
    readObject? base (objectPath base bucket object).toList = some (bucket, object, []) := by
  have read := readObject?_append base object free (fun c (m : c ∈ [].head?) => nomatch m)
  rwa [List.append_nil] at read

theorem readFlag?_append (flag : Bool) :
    readFlag? ((if flag then "true" else "false").toList ++ rest) = some (flag, rest) := by
  cases flag <;> rfl

theorem readPage_append {pageToken : Option String}
    (free : ∀ token ∈ pageToken, '&' ∉ token.toList) :
    readPage ((pageParameter pageToken).toList ++ ("&prefix=".toList ++ rest)) =
      (pageToken, "&prefix=".toList ++ rest) := by
  cases pageToken with
  | none => rfl
  | some token =>
    have written : (pageParameter (some token)).toList = "&pageToken=".toList ++ token.toList :=
      String.toList_append
    have stops : ∃ more, "&prefix=".toList ++ rest = '&' :: more := ⟨_, rfl⟩
    rw [written, List.append_assoc, readPage, after?_append]
    simp only [cutAt_append (free token rfl) (.inr stops)]

theorem ofDigitChars_toString (n : Nat) : Nat.ofDigitChars 10 (toString n).toList 0 = n := by
  rw [Nat.toString_eq_repr, Nat.toList_repr, Nat.ofDigitChars_ten_toDigits]

theorem readInteger_toString (n : Int) : readInteger (toString n).toList = n := by
  cases n with
  | ofNat n =>
    have unsigned : (toString n).toList.head? ≠ some '-' := by
      intro signed
      have digit := isDigit_of_mem_toString (List.mem_of_mem_head? signed)
      cases digit
    calc readInteger (toString n).toList
      _ = Nat.ofDigitChars 10 (toString n).toList 0 := by rw [readInteger, if_neg unsigned]
      _ = n := by rw [ofDigitChars_toString]
  | negSucc n =>
    have signed : (toString (Int.negSucc n)).toList = '-' :: (toString (n + 1)).toList := by
      change ("-" ++ toString (n + 1)).toList = _
      rw [String.toList_append]
      rfl
    rw [signed, readInteger]
    simp only [List.head?_cons, List.tail_cons, if_true, ofDigitChars_toString]
    rfl

end Reading

end RequestTrail.Operation
