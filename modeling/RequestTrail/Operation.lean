import RequestTrail.Service
import RequestTrail.ObjectName

/-!
# Storage operations

The operations of the storage service, each with the one line that a trail shows for a request
that performs it. Object names are encoded where they stand in a path. The name of an uploaded
object travels in the body, so it stands as it is after the URL.
-/
namespace RequestTrail

/-- An object is copied by one call, or by as many as its size asks for. -/
inductive CopyForm where
  | whole
  | stepwise
deriving DecidableEq, Repr

def CopyForm.text : CopyForm → String
  | .whole => "copyTo"
  | .stepwise => "rewriteTo"

inductive Operation where
  | getObject (bucket object : String)
  | getBucket (bucket : String)
  | postObject (bucket object : String)
  | copy (sourceBucket sourceObject targetBucket targetObject : String) (form : CopyForm)
  | upload (bucket object : String) (generationMatch : Bool)
  | updateMetadata (bucket object : String) (metageneration : Int64)
  | deleteMetageneration (bucket object : String) (metageneration : Int64)
  | deleteGenerationMatch (bucket object : String) (token : Option String)
  | compose (bucket object : String) (token : Option String)
  | list (bucket : String) (trailingDelimiter : Bool) (under : String) (maxResults : UInt64)
      (pageToken : Option String)
  | batch
deriving DecidableEq

namespace Operation

def bucketPath (base bucket : String) : String := base ++ "/b/" ++ bucket

def objectPath (base bucket object : String) : String :=
  bucketPath base bucket ++ "/o/" ++ ObjectName.encode object

def metagenerationParameter (n : Int64) : String := "ifMetagenerationMatch=" ++ toString n.toInt

/-- An absent token is written like an empty one. -/
def generationParameter (token : Option String) : String :=
  "ifGenerationMatch=GenerationMatch_" ++ token.getD ""

def pageParameter : Option String → String
  | none => ""
  | some token => "&pageToken=" ++ token

def render (s : Service) : Operation → String
  | .getObject bucket object => "GET:" ++ objectPath s.storage bucket object
  | .getBucket bucket => "GET:" ++ bucketPath s.storage bucket
  | .postObject bucket object => "POST:" ++ objectPath s.storage bucket object
  | .copy sourceBucket sourceObject targetBucket targetObject form =>
    "POST:" ++ objectPath s.storage sourceBucket sourceObject ++
      objectPath ("/" ++ form.text) targetBucket targetObject
  | .upload bucket object generationMatch =>
    "POST:" ++ bucketPath s.upload bucket ++ "/o?" ++
      (if generationMatch then "ifGenerationMatch=0&" else "") ++ "uploadType=multipart:" ++ object
  | .updateMetadata bucket object n =>
    "POST:" ++ objectPath s.storage bucket object ++ "?" ++ metagenerationParameter n
  | .deleteMetageneration bucket object n =>
    "DELETE:" ++ objectPath s.storage bucket object ++ "?" ++ metagenerationParameter n
  | .deleteGenerationMatch bucket object token =>
    "DELETE:" ++ objectPath s.storage bucket object ++ "?" ++ generationParameter token
  | .compose bucket object token =>
    "POST:" ++ objectPath s.storage bucket object ++ "/compose?" ++ generationParameter token
  | .list bucket trailingDelimiter under maxResults pageToken =>
    "GET:" ++ bucketPath s.storage bucket ++ "/o?delimiter=/&includeTrailingDelimiter=" ++
      (if trailingDelimiter then "true" else "false") ++ "&maxResults=" ++
      toString maxResults.toNat ++ pageParameter pageToken ++ "&prefix=" ++ under
  | .batch => "POST:" ++ s.batch

end Operation

end RequestTrail
