import CloudRehearsal.Json.Record
import CloudRehearsal.Json.Value

/-!
The tokens of a user who has signed in, and the abbreviation of a token that may be printed.
-/
namespace CloudRehearsal

/-- The tokens that a sign-in gives. -/
structure AuthTokens where
  accessToken : String
  idToken : Option String
  refreshToken : Option String
  deriving DecidableEq, Repr

namespace AuthTokens

/-- How many characters of a token may be printed. -/
def previewLength : Nat := 12

/-- The first characters of a token, and three dots when the token has more bytes than they have. -/
def preview (token : String) : String :=
  let front := String.ofList (token.toList.take previewLength)
  if front.utf8ByteSize < token.utf8ByteSize then front ++ "..." else front

/-- The first characters of a text have fewer bytes than the text exactly when they are not all of
it. -/
theorem byteSize_take_lt_iff {s : String} {n : Nat} :
    (String.ofList (s.toList.take n)).utf8ByteSize < s.utf8ByteSize ↔ n < s.toList.length := by
  have hparts : String.ofList (s.toList.take n) ++ String.ofList (s.toList.drop n) = s := by
    rw [← String.ofList_append, List.take_append_drop, String.ofList_toList]
  have hbytes : s.utf8ByteSize = (String.ofList (s.toList.take n)).utf8ByteSize
      + (String.ofList (s.toList.drop n)).utf8ByteSize := by
    rw [← String.utf8ByteSize_append, hparts]
  have hrest : (String.ofList (s.toList.drop n)).utf8ByteSize = 0 ↔ s.toList.length ≤ n := by
    rw [String.utf8ByteSize_eq_zero_iff, String.ofList_eq_empty_iff, List.drop_eq_nil_iff]
  omega

/-- A token that is short enough is given as it is. -/
theorem preview_of_short {token : String} (h : token.toList.length ≤ previewLength) :
    preview token = token := by
  have hall : ¬(String.ofList (token.toList.take previewLength)).utf8ByteSize < token.utf8ByteSize := by
    rw [byteSize_take_lt_iff]
    omega
  rw [preview, if_neg hall, List.take_of_length_le h, String.ofList_toList]

/-- A longer token is cut after a number of characters, however many bytes they have. -/
theorem preview_of_long {token : String} (h : previewLength < token.toList.length) :
    preview token = String.ofList (token.toList.take previewLength) ++ "..." := by
  rw [preview, if_pos (byteSize_take_lt_iff.2 h)]

/-- The access token as it may be printed. -/
def accessTokenPreview (t : AuthTokens) : String := preview t.accessToken

/-! ## JSON -/

def toJson (t : AuthTokens) : Json :=
  .record [("access_token", .text t.accessToken), ("id_token", .optional .text t.idToken),
    ("refresh_token", .optional .text t.refreshToken)]

/-- The fields in the order in which they are written. -/
def fields : Json.Fields :=
  [("access_token", .text), ("id_token", .optional), ("refresh_token", .optional)]

/-- The tokens whose fields have been found. -/
def ofFound (found : Json.Found) : Option AuthTokens := do
  return ⟨← found.text? "access_token", found.optional "id_token", found.optional "refresh_token"⟩

/-- The tokens that a JSON text holds. -/
def ofJson (s : String) : Except Json.Fault AuthTokens := Json.readRecord fields ofFound s

end AuthTokens

end CloudRehearsal
