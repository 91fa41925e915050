import StoryCatalog.Text.Quoted
import StoryCatalog.Text.Utf8
import StoryCatalog.Number.Reading

/-!
# What can go wrong with a file

The causes for which a file cannot be looked for or read, and the words for each.
-/

namespace StoryCatalog

inductive Fault where
  | missing (path : WideText)
  | notDirectory (path : WideText)
  | isDirectory (path : WideText)
  | alreadyThere (path : WideText)
  | nameTooLong (path : WideText)
  /-- A name with a character that no file name may hold. -/
  | nulInName
  /-- A name with half a surrogate pair that stands for no byte. -/
  | unencodable (error : Text.EncodingError)
  | undecodable (error : Text.DecodingError)
  /-- Nothing was written to this path of a file system in memory. -/
  | neverWritten (path : String)
  /-- The file system refused to say whether there is a file. -/
  | probeFailed
  | readFailed
  | tooManyDigits (error : Number.TooManyDigits)
  /-- The home directory of a user who is not known. -/
  | noHome
  deriving DecidableEq, Repr

def Fault.message : Fault → String
  | .missing path => "[Errno 2] No such file or directory: " ++ Text.quoted path
  | .notDirectory path => "[Errno 20] Not a directory: " ++ Text.quoted path
  | .isDirectory path => "[Errno 21] Is a directory: " ++ Text.quoted path
  | .alreadyThere path => "[Errno 17] File exists: " ++ Text.quoted path
  | .nameTooLong path => "[Errno 36] File name too long: " ++ Text.quoted path
  | .nulInName => "embedded null byte"
  | .unencodable error => error.message
  | .undecodable error => error.message
  | .neverWritten path => path
  | .probeFailed => "exists failed"
  | .readFailed => "read failed"
  | .tooManyDigits error => error.message
  | .noHome => "Could not determine home directory."

end StoryCatalog
