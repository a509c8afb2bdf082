import JobBoards.Category
import JobBoards.Site
import JobBoards.Text.Quoted
namespace JobBoards

inductive FetchCause where
  | general (message : Text)
  | unreachable (message : Text)
  | unreadable (message : Text)
  | status (code : Int)
  | missing (field : Text)
  deriving DecidableEq, Repr

namespace FetchCause

def message : FetchCause → Text
  | .general m | .unreachable m | .unreadable m => m
  | .status code => "request failed with code ".toList ++ Text.ofInt code
  | .missing field => "could not get ".toList ++ field

def kind : FetchCause → Text
  | .general _ => "FetchError"
  | .unreachable _ => "TransportError"
  | .unreadable _ => "ParseError"
  | .status _ => "ResponseStatusError"
  | .missing _ => "MissingFieldError"

end FetchCause

inductive Fault where
  | fetch (source : Text) (cause : FetchCause)
  | dayCountBeyondWord
  | dayCountBeyondSpan (days : Int)
  | dateBeyondYears
  | numberTooLong (digits : Nat)
  | numberTooLongToWrite
  | wholeBeyondReal
  | rejectedMarkup (reason : Text)
  | malformedHost
  | hostNotAddress (host : Text)
  | hostAddressTooShort
  | futureHostMalformed
  | hostNotNormal (host : Text)
  | unsettledTags
  | noWorkers
  | unknownSite (name : Text)
  | unknownSource (raw : Text)
  | notInteger (setting raw : Text)
  | notPositive (setting : Text) (value : Int)
  | unknownSeverity (name : Text)
  | unknownIndex (shown : Text)
  | unknownField (field : Text)
  | malformedYaml
  | undecodableText
  | badValue (message : Text)
  | badKey (key : Text)
  | emptyNumber
  | noMatch
  | textExpected (type : Text)
  | callsTooDeep (occasion : Text)
  | noFile (path : Text)
  | isDirectory (path : Text)
  | notDirectory (path : Text)
  | rulesNotMapping (path : Text)
  | tableNotMapping (type : Text)
  | unknownLabel (noun shown : Text) (known : List Text)
  | keywordsNotList (shown : Text)
  | keywordsEmpty (shown : Text)
  | external (kind message : Text)
  deriving DecidableEq, Repr

namespace Fault

def kind : Fault → Text
  | .fetch _ cause => cause.kind
  | .dayCountBeyondWord | .dayCountBeyondSpan _ | .dateBeyondYears | .wholeBeyondReal => "OverflowError"
  | .rejectedMarkup _ => "ParserRejectedMarkup"
  | .unsettledTags | .textExpected _ => "TypeError"
  | .unknownField _ | .tableNotMapping _ | .noMatch => "AttributeError"
  | .malformedYaml => "YAMLError"
  | .undecodableText => "UnicodeDecodeError"
  | .badKey _ => "KeyError"
  | .emptyNumber => "IndexError"
  | .callsTooDeep _ => "RecursionError"
  | .noFile _ => "FileNotFoundError"
  | .isDirectory _ => "IsADirectoryError"
  | .notDirectory _ => "NotADirectoryError"
  | .external kind _ => kind
  | _ => "ValueError"

def known (names : List Text) : Text :=
  " (known: ".toList ++ Text.join ", " names ++ ")".toList

def systemText (number : Nat) (reason path : Text) : Text :=
  "[Errno ".toList ++ Text.ofNat number ++ "] ".toList ++ reason ++ ": ".toList ++ Text.quoted path

def message : Fault → Text
  | .fetch source cause => source ++ ": ".toList ++ cause.message
  | .dayCountBeyondWord => "Python int too large to convert to C int"
  | .dayCountBeyondSpan days =>
      "days=".toList ++ Text.ofInt days ++ "; must have magnitude <= 999999999".toList
  | .dateBeyondYears => "date value out of range"
  | .numberTooLong digits =>
      "Exceeds the limit (4300 digits) for integer string conversion: value has ".toList ++
        Text.ofNat digits ++
        " digits; use sys.set_int_max_str_digits() to increase the limit".toList
  | .numberTooLongToWrite =>
      "Exceeds the limit (4300 digits) for integer string conversion; ".toList ++
        "use sys.set_int_max_str_digits() to increase the limit".toList
  | .wholeBeyondReal => "int too large to convert to float"
  | .rejectedMarkup reason =>
      "The markup you provided was rejected by the parser. Trying a different parser or a ".toList ++
        "different encoding may help.\n\nOriginal error(s) from parser:\n AssertionError: ".toList ++
        reason
  | .malformedHost => "Invalid IPv6 URL"
  | .hostNotAddress host =>
      Text.quoted host ++ " does not appear to be an IPv4 or IPv6 address".toList
  | .hostAddressTooShort => "An IPv4 address cannot be in brackets"
  | .futureHostMalformed => "IPvFuture address is invalid"
  | .hostNotNormal host =>
      "netloc '".toList ++ host ++ "' contains invalid characters under NFKC normalization".toList
  | .unsettledTags => "unhashable type: 'list'"
  | .noWorkers => "max_workers must be greater than 0"
  | .unknownSite name => Text.quoted name ++ " is not a valid SiteName".toList
  | .unknownSource raw =>
      "Unknown job source ".toList ++ Text.quoted raw ++ known (Site.all.map Site.name)
  | .notInteger setting raw =>
      setting ++ " must be an integer, got ".toList ++ Text.quoted raw
  | .notPositive setting value =>
      setting ++ " must be positive, got ".toList ++ Text.ofInt value
  | .unknownSeverity name => "Unknown level: ".toList ++ Text.quoted name
  | .unknownIndex shown =>
      "Unknown index ".toList ++ shown ++ known ["date", "company", "location", "skill", "level"]
  | .unknownField field =>
      "'Posting' object has no attribute ".toList ++ Text.quoted field
  | .malformedYaml | .undecodableText => []
  | .badValue message => message
  | .badKey key => Text.quoted key
  | .emptyNumber => "string index out of range"
  | .noMatch => "'NoneType' object has no attribute 'groupdict'"
  | .textExpected type => "expected string or bytes-like object, got '".toList ++ type ++ ['\x27']
  | .callsTooDeep occasion => "maximum recursion depth exceeded".toList ++ occasion
  | .noFile path => systemText 2 "No such file or directory" path
  | .isDirectory path => systemText 21 "Is a directory" path
  | .notDirectory path => systemText 20 "Not a directory" path
  | .rulesNotMapping path =>
      "Classifier rules in ".toList ++ path ++ " must be a mapping".toList
  | .tableNotMapping type =>
      '\x27' :: type ++ "' object has no attribute 'items'".toList
  | .unknownLabel noun shown names => "Unknown ".toList ++ noun ++ ' ' :: shown ++ known names
  | .keywordsNotList shown =>
      "Keywords for ".toList ++ shown ++ " must be a list of strings".toList
  | .keywordsEmpty shown => "Keywords for ".toList ++ shown ++ " must not be empty".toList
  | .external _ message => message

end Fault
end JobBoards
